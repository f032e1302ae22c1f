import ScriptLint.Proofs.Json.Reading

/-!
# Documents are read as the values they are printed from

The fuel of the reader is the length of the text, and what is printed for a value is at least as
long as the value is deep. In either layout the items of an array are written as their values,
each followed by a comma and blanks, except the last.
-/

namespace ScriptLint.Json

open Reader

/-- A value that has a document which is read as exactly that value: it holds no number with a
fraction, no integer that is too long and no divided surrogate pair, and keys are distinct. -/
inductive Exact : Json → Prop
  | null : Exact .null
  | bool (b : Bool) : Exact (.bool b)
  | int {n : Int} (h : IsShort n) : Exact (.int n)
  | string {t : Text} (h : t.Separate) : Exact (.string t)
  | array {vs : List Json} (h : ∀ v ∈ vs, Exact v) : Exact (.array vs)
  | object {ms : List (Text × Json)} (hk : (Entries.keys ms).Nodup)
      (hs : ∀ m ∈ ms, m.1.Separate) (h : ∀ m ∈ ms, Exact m.2) : Exact (.object ms)

/-! ### Layouts -/

lemma isBlank_of_mem_lineBreak {n : Nat} : ∀ c ∈ "\n" ++ Text.spaces n, isBlank c = true := by
  intro c hc
  rcases List.mem_append.mp hc with h | h
  · rw [List.mem_singleton.mp h]
    rfl
  · rw [List.eq_of_mem_replicate h]
    rfl

lemma isBlank_of_mem_edge (l : Layout) (depth : Nat) : ∀ c ∈ l.edge depth, isBlank c = true := by
  cases l with
  | inline => simp [Layout.edge]
  | indented width => exact isBlank_of_mem_lineBreak

lemma isBlank_of_mem_gap (l : Layout) (depth : Nat) : ∀ c ∈ l.gap depth, isBlank c = true := by
  cases l with
  | inline =>
    intro c hc
    rw [List.mem_singleton.mp hc]
    rfl
  | indented width => exact isBlank_of_mem_lineBreak

/-! ### Arrays and objects -/

section Lists

variable {l : Layout} {depth : Nat}

lemma stops_edge {c : CodePoint} (h : Numeral.stops [c] = true) (rest : Text) :
    Numeral.stops (l.edge depth ++ (c :: rest)) = true := by
  cases l with
  | inline => exact h
  | indented width => rfl

lemma skip_edge {c : CodePoint} (h : isBlank c = false) (rest : Text) :
    skip (l.edge depth ++ (c :: rest)) = c :: rest := by
  rw [skip_append (isBlank_of_mem_edge l depth), skip_cons h]

lemma printItems_nil : printItems l depth [] = l.edge depth ++ [0x5D] := rfl

lemma printItems_cons (v : Json) (vs : List Json) : printItems l depth (v :: vs) =
    0x2C :: (l.gap (depth + 1) ++ (printAt l (depth + 1) v ++ printItems l depth vs)) := by
  simp only [printItems, List.append_assoc]
  rfl

lemma printAt_array_cons (v : Json) (vs : List Json) : printAt l depth (.array (v :: vs)) =
    0x5B :: (l.edge (depth + 1) ++ (printAt l (depth + 1) v ++ printItems l depth vs)) := by
  simp only [printAt, List.append_assoc]
  rfl

lemma printMembers_nil : printMembers l depth [] = l.edge depth ++ [0x7D] := rfl

lemma printMembers_cons (name : Text) (v : Json) (ms : List (Text × Json)) :
    printMembers l depth ((name, v) :: ms) = 0x2C :: (l.gap (depth + 1) ++
      (memberText name (printAt l (depth + 1) v) ++ printMembers l depth ms)) := by
  simp only [printMembers, memberText, List.append_assoc]
  rfl

lemma printAt_object_cons (name : Text) (v : Json) (ms : List (Text × Json)) :
    printAt l depth (.object ((name, v) :: ms)) = 0x7B :: (l.edge (depth + 1) ++
      (memberText name (printAt l (depth + 1) v) ++ printMembers l depth ms)) := by
  simp only [printAt, memberText, List.append_assoc]
  rfl

/-- The items of an array are read if each of them is. -/
lemma readItems_printItems {vs : List Json} (h : ∀ v ∈ vs, ReadsAs (printAt l (depth + 1) v) v)
    {t : Text} {v : Json} (hv : ReadsAs t v) {fuel : Nat}
    (hf : t.length + (printItems l depth vs).length ≤ fuel) (rest : Text) :
    readItems fuel (t ++ (printItems l depth vs ++ rest)) = .ok (v :: vs, rest) := by
  induction vs generalizing t v fuel with
  | nil =>
    rw [printItems_nil] at hf ⊢
    simp only [List.length_append, List.length_singleton] at hf
    cases fuel with
    | zero => omega
    | succ fuel =>
      rw [List.append_assoc, List.singleton_append]
      exact readItems_last hv (by omega) (stops_edge rfl rest) (skip_edge rfl rest)
  | cons w vs ih =>
    obtain ⟨hw, h⟩ := List.forall_mem_cons.mp h
    rw [printItems_cons] at hf ⊢
    simp only [List.length_append, List.length_cons] at hf
    cases fuel with
    | zero => omega
    | succ fuel =>
      simp only [List.cons_append, List.append_assoc]
      refine readItems_cons hv (by omega) ?_
      rw [hw.skip_append (isBlank_of_mem_gap l _)]
      exact ih h hw (by omega)

/-- The members of an object are read if the value of each of them is. -/
lemma readMembers_printMembers {ms : List (Text × Json)} (hs : ∀ m ∈ ms, m.1.Separate)
    (h : ∀ m ∈ ms, ReadsAs (printAt l (depth + 1) m.2) m.2) {name t : Text} {v : Json}
    (hn : name.Separate) (hv : ReadsAs t v) {fuel : Nat}
    (hf : t.length + (printMembers l depth ms).length ≤ fuel) (rest : Text) :
    readMembers fuel (memberText name t ++ (printMembers l depth ms ++ rest))
      = .ok ((name, v) :: ms, rest) := by
  induction ms generalizing name t v fuel with
  | nil =>
    rw [printMembers_nil] at hf ⊢
    simp only [List.length_append, List.length_singleton] at hf
    cases fuel with
    | zero => omega
    | succ fuel =>
      rw [List.append_assoc, List.singleton_append]
      exact readMembers_last hn hv (by omega) (stops_edge rfl rest) (skip_edge rfl rest)
  | cons m ms ih =>
    obtain ⟨name', w⟩ := m
    obtain ⟨hn', hs⟩ := List.forall_mem_cons.mp hs
    obtain ⟨hw, h⟩ := List.forall_mem_cons.mp h
    have hlen := length_lt_memberText name' (printAt l (depth + 1) w)
    rw [printMembers_cons] at hf ⊢
    simp only [List.length_append, List.length_cons] at hf
    cases fuel with
    | zero => omega
    | succ fuel =>
      simp only [List.cons_append, List.append_assoc]
      refine readMembers_cons hn hv (by omega) ?_
      have hskip : skip (memberText name' (printAt l (depth + 1) w) ++
          (printMembers l depth ms ++ rest)) = memberText name' (printAt l (depth + 1) w) ++
          (printMembers l depth ms ++ rest) := by
        rw [memberText_append, skip_cons rfl]
      rw [skip_append (isBlank_of_mem_gap l _), hskip]
      exact ih hs h hn' hw (by dsimp only at *; omega)

lemma readsAs_array {vs : List Json} (h : ∀ v ∈ vs, ReadsAs (printAt l (depth + 1) v) v) :
    ReadsAs (printAt l depth (.array vs)) (.array vs) := by
  cases vs with
  | nil => exact .of_cons rfl (by decide) fun fuel rest hf hr => readValue_emptyArray rest
  | cons v vs =>
    obtain ⟨hv, h⟩ := List.forall_mem_cons.mp h
    rw [printAt_array_cons]
    refine .of_cons rfl (by decide) fun fuel rest hf hr => ?_
    simp only [List.length_append] at hf
    simp only [List.append_assoc]
    have hskip := hv.skip_append (isBlank_of_mem_edge l (depth + 1))
      (printItems l depth vs ++ rest)
    have hlen : (printAt l (depth + 1) v).length + (printItems l depth vs).length ≤ fuel := by
      omega
    have hitems := readItems_printItems h hv hlen rest
    -- the first item does not begin with the bracket that closes an empty array
    obtain ⟨c, t, ht, -, hc⟩ := hv.begins
    rw [ht] at hskip hitems ⊢
    exact readValue_array hskip hc hitems

lemma readsAs_object {ms : List (Text × Json)} (hk : (Entries.keys ms).Nodup)
    (hs : ∀ m ∈ ms, m.1.Separate) (h : ∀ m ∈ ms, ReadsAs (printAt l (depth + 1) m.2) m.2) :
    ReadsAs (printAt l depth (.object ms)) (.object ms) := by
  cases ms with
  | nil => exact .of_cons rfl (by decide) fun fuel rest hf hr => readValue_emptyObject rest
  | cons m ms =>
    obtain ⟨name, v⟩ := m
    obtain ⟨hn, hs⟩ := List.forall_mem_cons.mp hs
    obtain ⟨hv, h⟩ := List.forall_mem_cons.mp h
    rw [printAt_object_cons]
    refine .of_cons rfl (by decide) fun fuel rest hf hr => ?_
    simp only [List.length_append] at hf
    simp only [List.append_assoc]
    have hlen : (printAt l (depth + 1) v).length + (printMembers l depth ms).length ≤ fuel := by
      have := length_lt_memberText name (printAt l (depth + 1) v)
      omega
    have hmembers := readMembers_printMembers hs h hn hv hlen rest
    rw [memberText_append] at hmembers ⊢
    have hskip := skip_append (isBlank_of_mem_edge l (depth + 1)) (0x22 :: (name.flatMap escape ++
      0x22 :: 0x3A :: 0x20 :: (printAt l (depth + 1) v ++ (printMembers l depth ms ++ rest))))
    have ho := readValue_object (hskip.trans (skip_cons rfl _)) hmembers
    rwa [Entries.ofList_of_nodup hk] at ho

end Lists

/-! ### Values -/

/-- A value is read back from what is printed for it, in either layout and at any level. -/
lemma readsAs_printAt {v : Json} (hv : v.Exact) (l : Layout) (depth : Nat) :
    ReadsAs (printAt l depth v) v := by
  induction hv generalizing depth with
  | null => exact .of_cons rfl (by decide) fun fuel rest hf hr => rfl
  | bool b => cases b <;> exact .of_cons rfl (by decide) fun fuel rest hf hr => rfl
  | int hn => exact readsAs_ofInt hn
  | string hs => exact readsAs_printText hs
  | array h ih => exact readsAs_array fun v hv => ih v hv (depth + 1)
  | object hk hs h ih => exact readsAs_object hk hs fun m hm => ih m hm (depth + 1)

lemma readDocument_eq {t : Text} {v : Json} (h : ReadsAs t v) : readDocument t = .ok v := by
  have hr : readValue (2 * t.length + 2) (t ++ []) = .ok (v, []) := h.read _ [] (by omega) rfl
  have hs : skip (t ++ []) = t ++ [] := h.skip_append (u := []) (by simp) []
  rw [List.append_nil] at hr hs
  rw [readDocument.eq_def]
  split
  · cases hr
  · rw [hs, hr]
    rfl

theorem read_print {v : Json} (hv : v.Exact) (l : Layout) : Json.read (v.print l) = .ok v := by
  rw [Json.read, Json.print, readDocument_eq (readsAs_printAt hv l 0)]
  rfl

/-! ### What is written -/

lemma isPlain_printText (s : Text) : ∀ c ∈ printText s, c.isPlain = true := by
  have hs : ∀ c ∈ s.flatMap escape, c.isPlain = true := by
    intro c hc
    obtain ⟨d, -, hd⟩ := List.mem_flatMap.mp hc
    exact isPlain_escape d c hd
  rw [printText, List.forall_mem_append, List.forall_mem_append]
  exact ⟨⟨List.forall_mem_singleton.mpr rfl, hs⟩, List.forall_mem_singleton.mpr rfl⟩

lemma isPlain_of_isDigit {c : CodePoint} (h : c.isDigit = true) : c.isPlain = true := by
  simp only [CodePoint.isDigit, CodePoint.isPlain, decide_eq_true_eq] at h ⊢
  omega

lemma isPlain_ofInt (n : Int) : ∀ c ∈ Text.ofInt n, c.isPlain = true := by
  have hd (n : Nat) : ∀ c ∈ Text.ofNat n, c.isPlain = true :=
    fun c hc => isPlain_of_isDigit (Text.isDigit_of_mem_ofNat hc)
  cases n with
  | ofNat n => exact hd n
  | negSucc n => exact List.forall_mem_cons.mpr ⟨rfl, hd (n + 1)⟩

section Inline

variable {depth : Nat}

lemma isPlain_printItems {vs : List Json}
    (h : ∀ v ∈ vs, ∀ c ∈ printAt .inline (depth + 1) v, c.isPlain = true) :
    ∀ c ∈ printItems .inline depth vs, c.isPlain = true := by
  induction vs with
  | nil => exact List.forall_mem_singleton.mpr rfl
  | cons v vs ih =>
    obtain ⟨hv, h⟩ := List.forall_mem_cons.mp h
    rw [printItems_cons, List.forall_mem_cons, List.forall_mem_append, List.forall_mem_append]
    exact ⟨rfl, List.forall_mem_singleton.mpr rfl, hv, ih h⟩

lemma isPlain_memberText (name : Text) {t : Text} (h : ∀ c ∈ t, c.isPlain = true) :
    ∀ c ∈ memberText name t, c.isPlain = true := by
  rw [memberText, List.forall_mem_append, List.forall_mem_cons, List.forall_mem_cons]
  exact ⟨isPlain_printText name, rfl, rfl, h⟩

lemma isPlain_printMembers {ms : List (Text × Json)}
    (h : ∀ m ∈ ms, ∀ c ∈ printAt .inline (depth + 1) m.2, c.isPlain = true) :
    ∀ c ∈ printMembers .inline depth ms, c.isPlain = true := by
  induction ms with
  | nil => exact List.forall_mem_singleton.mpr rfl
  | cons m ms ih =>
    obtain ⟨name, v⟩ := m
    obtain ⟨hv, h⟩ := List.forall_mem_cons.mp h
    rw [printMembers_cons, List.forall_mem_cons, List.forall_mem_append, List.forall_mem_append]
    exact ⟨rfl, List.forall_mem_singleton.mpr rfl, isPlain_memberText name hv, ih h⟩

end Inline

/-- A document on one line is written in printable ASCII. -/
lemma isPlain_printAt_inline {v : Json} (hv : v.Exact) (depth : Nat) :
    ∀ c ∈ printAt .inline depth v, c.isPlain = true := by
  induction hv generalizing depth with
  | null => exact List.all_eq_true.mp rfl
  | bool b => cases b <;> exact List.all_eq_true.mp rfl
  | int hn => exact isPlain_ofInt _
  | string hs => exact isPlain_printText _
  | @array vs h ih =>
    cases vs with
    | nil => exact List.all_eq_true.mp rfl
    | cons v vs =>
      obtain ⟨hv, ih⟩ := List.forall_mem_cons.mp ih
      rw [printAt_array_cons, List.forall_mem_cons, List.forall_mem_append, List.forall_mem_append]
      exact ⟨rfl, List.forall_mem_nil _, hv (depth + 1),
        isPlain_printItems fun v hm => ih v hm (depth + 1)⟩
  | @object ms hk hs h ih =>
    cases ms with
    | nil => exact List.all_eq_true.mp rfl
    | cons m ms =>
      obtain ⟨name, v⟩ := m
      obtain ⟨hv, ih⟩ := List.forall_mem_cons.mp ih
      rw [printAt_object_cons, List.forall_mem_cons, List.forall_mem_append, List.forall_mem_append]
      exact ⟨rfl, List.forall_mem_nil _, isPlain_memberText name (hv (depth + 1)),
        isPlain_printMembers fun m hm => ih m hm (depth + 1)⟩

end ScriptLint.Json
