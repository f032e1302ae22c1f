import ScriptLint.Proofs.Json.RoundTrip

/-!
# Documents in ASCII

Whatever its value and layout, a document is written in printable ASCII and line feeds.
-/

namespace ScriptLint

/-! ### Numbers -/

namespace Binary64

lemma isPlain_zeros (n : Nat) : ∀ c ∈ zeros n, c.isPlain = true := by
  intro c hc
  rw [List.eq_of_mem_replicate hc]
  rfl

variable {digits : Text} (hd : ∀ c ∈ digits, c.isPlain = true) (point : Int)

include hd

lemma isPlain_positional : ∀ c ∈ positional digits point, c.isPlain = true := by
  rw [positional]
  split_ifs
  · simp only [List.forall_mem_append]
    exact ⟨⟨List.all_eq_true.mp rfl, isPlain_zeros _⟩, hd⟩
  · simp only [List.forall_mem_append]
    exact ⟨⟨hd, isPlain_zeros _⟩, List.all_eq_true.mp rfl⟩
  · simp only [List.forall_mem_append]
    exact ⟨⟨fun c hc => hd c (List.mem_of_mem_take hc), List.all_eq_true.mp rfl⟩,
      fun c hc => hd c (List.mem_of_mem_drop hc)⟩

omit hd in
lemma isPlain_exponentText (e : Int) : ∀ c ∈ exponentText e, c.isPlain = true := by
  have hs : ∀ c ∈ (if e < 0 then "-" else "+" : Text), c.isPlain = true := by
    split_ifs <;> exact List.all_eq_true.mp rfl
  simp only [exponentText, List.forall_mem_append]
  exact ⟨⟨hs, isPlain_zeros _⟩, fun c hc => Json.isPlain_of_isDigit (Text.isDigit_of_mem_ofNat hc)⟩

lemma isPlain_scientific : ∀ c ∈ scientific digits point, c.isPlain = true := by
  simp only [scientific, List.forall_mem_append]
  refine ⟨⟨?_, List.all_eq_true.mp rfl⟩, isPlain_exponentText _⟩
  split_ifs
  · exact hd
  · simp only [List.forall_mem_append]
    exact ⟨⟨fun c hc => hd c (List.mem_of_mem_take hc), List.all_eq_true.mp rfl⟩,
      fun c hc => hd c (List.mem_of_mem_drop hc)⟩

omit hd in
lemma isPlain_rankText (rank : Nat) : ∀ c ∈ rankText rank, c.isPlain = true := by
  rw [rankText]
  split_ifs
  · exact List.all_eq_true.mp rfl
  · have hn (n : Nat) : ∀ c ∈ Text.ofNat n, c.isPlain = true :=
      fun c hc => Json.isPlain_of_isDigit (Text.isDigit_of_mem_ofNat hc)
    dsimp only
    split_ifs
    · exact isPlain_positional (hn _) _
    · exact isPlain_scientific (hn _) _

omit hd in
lemma isPlain_text_inDocuments (x : Binary64) : ∀ c ∈ x.text inDocuments, c.isPlain = true := by
  have hs (negative : Bool) : ∀ c ∈ sign negative, c.isPlain = true := by
    cases negative <;> exact List.all_eq_true.mp rfl
  cases x with
  | nan => exact List.all_eq_true.mp rfl
  | infinite negative =>
    rw [text, List.forall_mem_append]
    exact ⟨hs negative, List.all_eq_true.mp rfl⟩
  | finite negative rank =>
    rw [text, List.forall_mem_append]
    exact ⟨hs negative, isPlain_rankText rank⟩

end Binary64

/-! ### Documents -/

namespace Json

/-- A code point of a document: from the space to the tilde, or a line feed. -/
def isWritten (c : CodePoint) : Bool := c.isPlain || c = '\n'

variable {l : Layout} {depth : Nat} {t : Text}

lemma isWritten_of_isPlain (h : ∀ c ∈ t, c.isPlain = true) : ∀ c ∈ t, isWritten c = true := by
  intro c hc
  rw [isWritten, h c hc, Bool.true_or]

lemma isWritten_lineStart (n : Nat) : ∀ c ∈ ("\n" ++ Text.spaces n : Text), isWritten c = true := by
  rw [List.forall_mem_append]
  refine ⟨List.all_eq_true.mp rfl, fun c hc => ?_⟩
  rw [List.eq_of_mem_replicate hc]
  rfl

lemma isWritten_edge (l : Layout) (depth : Nat) : ∀ c ∈ l.edge depth, isWritten c = true := by
  cases l with
  | inline => exact List.forall_mem_nil _
  | indented width => exact isWritten_lineStart _

lemma isWritten_gap (l : Layout) (depth : Nat) : ∀ c ∈ l.gap depth, isWritten c = true := by
  cases l with
  | inline => exact List.all_eq_true.mp rfl
  | indented width => exact isWritten_lineStart _

lemma isWritten_printText (s : Text) : ∀ c ∈ printText s, isWritten c = true :=
  isWritten_of_isPlain (isPlain_printText s)

mutual

lemma isWritten_printAt (l : Layout) (depth : Nat) (v : Json) :
    ∀ c ∈ printAt l depth v, isWritten c = true := by
  match v with
  | .null | .bool true | .bool false | .array [] | .object [] => exact List.all_eq_true.mp rfl
  | .int n => exact isWritten_of_isPlain (isPlain_ofInt n)
  | .float x => exact isWritten_of_isPlain x.isPlain_text_inDocuments
  | .string s => exact isWritten_printText s
  | .array (v :: vs) =>
    simp only [printAt, List.forall_mem_append]
    exact ⟨⟨⟨List.all_eq_true.mp rfl, isWritten_edge l _⟩, isWritten_printAt l (depth + 1) v⟩,
      isWritten_printItems l depth vs⟩
  | .object ((name, v) :: ms) =>
    simp only [printAt, List.forall_mem_append]
    exact ⟨⟨⟨⟨⟨List.all_eq_true.mp rfl, isWritten_edge l _⟩, isWritten_printText name⟩,
      List.all_eq_true.mp rfl⟩, isWritten_printAt l (depth + 1) v⟩,
      isWritten_printMembers l depth ms⟩

lemma isWritten_printItems (l : Layout) (depth : Nat) (vs : List Json) :
    ∀ c ∈ printItems l depth vs, isWritten c = true := by
  match vs with
  | [] =>
    simp only [printItems, List.forall_mem_append]
    exact ⟨isWritten_edge l depth, List.all_eq_true.mp rfl⟩
  | v :: vs =>
    simp only [printItems, List.forall_mem_append]
    exact ⟨⟨⟨List.all_eq_true.mp rfl, isWritten_gap l _⟩, isWritten_printAt l (depth + 1) v⟩,
      isWritten_printItems l depth vs⟩

lemma isWritten_printMembers (l : Layout) (depth : Nat) (ms : List (Text × Json)) :
    ∀ c ∈ printMembers l depth ms, isWritten c = true := by
  match ms with
  | [] =>
    simp only [printMembers, List.forall_mem_append]
    exact ⟨isWritten_edge l depth, List.all_eq_true.mp rfl⟩
  | (name, v) :: ms =>
    simp only [printMembers, List.forall_mem_append]
    exact ⟨⟨⟨⟨⟨List.all_eq_true.mp rfl, isWritten_gap l _⟩, isWritten_printText name⟩,
      List.all_eq_true.mp rfl⟩, isWritten_printAt l (depth + 1) v⟩,
      isWritten_printMembers l depth ms⟩

end

end Json

end ScriptLint
