import Mathlib.Tactic.Lemma
import ScriptLint.Proofs.Text.Lines
import ScriptLint.Proofs.Xml.Reader

/-!
# What texts do to a reader

The two machines of a reader go through a document piece by piece: `Reads` is for code points and
`Builds` for tokens, and `Adds` is for both, on texts that keep to the element they are in.
-/

namespace ScriptLint.Xml

/-- A text completes some pieces and takes a reader from one place to another. -/
def Reads (m : Mode) (t : Text) (tokens : List Token) (m' : Mode) : Prop :=
  m.run t = some (tokens, m')

/-- Pieces take one tree to another. -/
def Builds (T : Tree) (tokens : List Token) (T' : Tree) : Prop :=
  tokens.foldlM Tree.next T = some T'

/-- A text adds nodes to the element that is open, whatever that is, and leaves it open. -/
def Adds (t : Text) (nodes : List Node) : Prop :=
  ∃ tokens, Reads (.content 0) t tokens (.content 0) ∧
    ∀ f fs, Builds (.inside f fs) tokens (.inside (f.add nodes) fs)

/-- A text that a reader takes as it is: all of it may stand in a document, and no line end of it
is changed. -/
def IsPlain (t : Text) : Prop := (t.all fun c => isChar c && c != Text.carriageReturn) = true

instance : DecidablePred IsPlain := fun _ => inferInstanceAs (Decidable (_ = true))

variable {t u : Text} {ts us : List Token}

/-! ### Tokens -/

section Reads

variable {m m' m'' : Mode}

lemma Reads.nil (m : Mode) : Reads m [] [] m := rfl

lemma Reads.cons {c : CodePoint} (hc : m.next c = some (ts, m')) (h : Reads m' t us m'') :
    Reads m (c :: t) (ts ++ us) m'' := by
  rw [Reads] at h
  simp [Reads, Mode.run, hc, h]

lemma Reads.single {c : CodePoint} (h : m.next c = some (ts, m')) : Reads m [c] ts m' := by
  simpa using Reads.cons h (.nil m')

/-- Reading goes on where it stopped. -/
lemma Reads.append (h : Reads m t ts m') (h' : Reads m' u us m'') :
    Reads m (t ++ u) (ts ++ us) m'' := by
  induction t generalizing m ts with
  | nil =>
    cases h
    exact h'
  | cons c t ih =>
    rw [Reads, Mode.run] at h
    obtain ⟨⟨ts₁, m₁⟩, hc, h⟩ := Option.bind_eq_some_iff.mp h
    obtain ⟨⟨ts₂, m₂⟩, ht, h⟩ := Option.bind_eq_some_iff.mp h
    cases h
    rw [List.append_assoc]
    exact .cons hc (ih ht)

end Reads

lemma Builds.append {T T' T'' : Tree} (h : Builds T ts T') (h' : Builds T' us T'') :
    Builds T (ts ++ us) T'' := by
  rw [Builds, List.foldlM_append, h]
  exact h'

lemma Frame.add_nil (f : Frame) : f.add [] = f := by
  rw [Frame.add, List.append_nil]

lemma Frame.add_add (f : Frame) (ns ms : List Node) : (f.add ns).add ms = f.add (ns ++ ms) := by
  simp only [Frame.add, List.append_assoc]

variable {ns ms : List Node}

lemma Adds.nil : Adds [] [] :=
  ⟨[], .nil _, fun f fs => congrArg (fun f => some (Tree.inside f fs)) f.add_nil.symm⟩

lemma Adds.append (h : Adds t ns) (h' : Adds u ms) : Adds (t ++ u) (ns ++ ms) := by
  obtain ⟨ts, hr, ht⟩ := h
  obtain ⟨us, hr', ht'⟩ := h'
  refine ⟨ts ++ us, hr.append hr', fun f fs => ?_⟩
  rw [← Frame.add_add]
  exact (ht f fs).append (ht' (f.add ns) fs)

lemma Adds.flatMap {α : Type} {g : α → Text} {h : α → List Node} (hg : ∀ x, Adds (g x) (h x))
    (xs : List α) : Adds (xs.flatMap g) (xs.flatMap h) := by
  induction xs with
  | nil => exact .nil
  | cons x xs ih => exact (hg x).append ih

/-- What adds nodes adds an element when tags are put around it. -/
lemma Adds.element {name : Text} {as : List (Text × Text)} {a b : Text}
    (ha : Reads (.content 0) a [.opening name as] (.content 0)) (h : Adds t ns)
    (hb : Reads (.content 0) b [.closing name] (.content 0)) :
    Adds (a ++ t ++ b) [.element name as ns] := by
  obtain ⟨ts, hr, ht⟩ := h
  refine ⟨_, (ha.append hr).append hb, fun f fs => ?_⟩
  have ho : Builds (.inside f fs) [.opening name as] (.inside ⟨name, as, []⟩ (f :: fs)) := rfl
  have hc : Builds (.inside ⟨name, as, ns⟩ (f :: fs)) [.closing name]
      (.inside (f.add [.element name as ns]) fs) := by
    rw [Builds, List.foldlM_cons, Tree.next, if_pos rfl]
    rfl
  exact (ho.append (ht _ _)).append hc

lemma isPlain_iff : IsPlain t ↔ ∀ c ∈ t, isChar c = true ∧ c ≠ Text.carriageReturn := by
  simp [IsPlain]

lemma IsPlain.append (h : IsPlain t) (h' : IsPlain u) : IsPlain (t ++ u) := by
  rw [IsPlain] at *
  rw [List.all_append, h, h']
  rfl

lemma IsPlain.flatMap {α : Type} {g : α → Text} (hg : ∀ x, IsPlain (g x)) (xs : List α) :
    IsPlain (xs.flatMap g) := by
  rw [IsPlain, List.all_flatMap, List.all_eq_true]
  exact fun x _ => hg x

lemma IsPlain.isChar (h : IsPlain t) : ∀ c ∈ t, isChar c = true :=
  fun c hc => (isPlain_iff.mp h c hc).1

/-- A tab that is written as a reference stays one, and one that is not becomes a space. -/
example : read "<a b='&#9;\t'/>" = some (.element "a" [("b", "\t ")] []) := rfl

end ScriptLint.Xml
