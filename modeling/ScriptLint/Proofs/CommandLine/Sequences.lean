import Mathlib.Tactic.Common
import ScriptLint.CommandLine.Program

/-!
# Escape sequences

What is printed away from a terminal is the text without its escape sequences, which are looked for
from the front: `Stripped` says so without a search, and one text only is what is left of another.
-/

namespace ScriptLint.CommandLine

def escape : CodePoint := 0x1B

/-- A code point between the bracket and the letter of an escape sequence. -/
def isParameter (c : CodePoint) : Bool := c.isDigit || c = ';' || c = '?'

/-- An escape and a bracket, parameters, and a letter. -/
inductive IsSequence : Text → Prop
  | mk {parameters : Text} {final : CodePoint} (hp : ∀ c ∈ parameters, isParameter c = true)
      (hf : final.isLetter = true) : IsSequence (escape :: '[' :: (parameters ++ [final]))

/-- A text and what is left of it without the escape sequences. -/
inductive Stripped : Text → Text → Prop
  | nil : Stripped [] []
  | sequence {s t u : Text} (hs : IsSequence s) (h : Stripped t u) : Stripped (s ++ t) u
  | keep {c : CodePoint} {t u : Text} (hc : ∀ s, IsSequence s → ¬ s <+: c :: t)
      (h : Stripped t u) : Stripped (c :: t) (c :: u)

/-! ### Where a sequence ends -/

lemma isParameter_of_isLetter {c : CodePoint} (h : c.isLetter = true) : isParameter c = false := by
  have hq : c ≠ '?' := by
    rintro rfl
    cases h
  have hs : c ≠ ';' := by
    rintro rfl
    cases h
  simp only [CodePoint.isLetter, decide_eq_true_eq] at h
  simp only [isParameter, CodePoint.isDigit, hq, hs, decide_false, Bool.or_false,
    decide_eq_false_iff_not]
  omega

lemma afterSequence?_cons (c : CodePoint) (t : Text) :
    afterSequence? (c :: t) =
      if isParameter c then afterSequence? t else if c.isLetter then some t else none := rfl

lemma afterSequence?_append {parameters : Text} {final : CodePoint}
    (hp : ∀ c ∈ parameters, isParameter c = true) (hf : final.isLetter = true) (rest : Text) :
    afterSequence? (parameters ++ final :: rest) = some rest := by
  induction parameters with
  | nil =>
    rw [List.nil_append, afterSequence?_cons, isParameter_of_isLetter hf, if_pos hf]
    rfl
  | cons c parameters ih =>
    obtain ⟨hc, hp⟩ := List.forall_mem_cons.mp hp
    rw [List.cons_append, afterSequence?_cons, if_pos hc, ih hp]

lemma exists_of_afterSequence?_eq_some {t rest : Text} (h : afterSequence? t = some rest) :
    ∃ parameters final, (∀ c ∈ parameters, isParameter c = true) ∧ final.isLetter = true ∧
      t = parameters ++ final :: rest := by
  induction t with
  | nil => cases h
  | cons c t ih =>
    rw [afterSequence?_cons] at h
    split_ifs at h with hc hl
    · obtain ⟨parameters, final, hp, hf, rfl⟩ := ih h
      exact ⟨c :: parameters, final, List.forall_mem_cons.mpr ⟨hc, hp⟩, hf, rfl⟩
    · cases h
      exact ⟨[], c, List.forall_mem_nil _, hl, rfl⟩

/-- What follows the escape sequence at the front of a text, if there is one. -/
def afterLead? : Text → Option Text
  | 0x1B :: 0x5B :: t => afterSequence? t
  | _                 => none

lemma afterLead?_append {s : Text} (hs : IsSequence s) (rest : Text) :
    afterLead? (s ++ rest) = some rest := by
  obtain ⟨hp, hf⟩ := hs
  rw [List.cons_append, List.cons_append, List.append_assoc]
  exact afterSequence?_append hp hf rest

lemma exists_of_afterLead?_eq_some {t rest : Text} (h : afterLead? t = some rest) :
    ∃ s, IsSequence s ∧ t = s ++ rest := by
  unfold afterLead? at h
  split at h
  · obtain ⟨parameters, final, hp, hf, rfl⟩ := exists_of_afterSequence?_eq_some h
    refine ⟨_, .mk hp hf, ?_⟩
    rw [List.cons_append, List.cons_append, List.append_assoc]
    rfl
  · cases h

lemma stripSequences_cons (fuel : Nat) (c : CodePoint) (t : Text) :
    stripSequences (fuel + 1) (c :: t) =
      match afterLead? (c :: t) with
      | some rest => stripSequences fuel rest
      | none      => c :: stripSequences fuel t := by
  by_cases hl : ∃ u, c = 0x1B ∧ t = 0x5B :: u
  · obtain ⟨u, rfl, rfl⟩ := hl
    rw [stripSequences]
    rfl
  · have hn : afterLead? (c :: t) = none := by
      rw [afterLead?]
      rintro u h
      exact hl ⟨u, (List.cons.inj h).1, (List.cons.inj h).2⟩
    rw [stripSequences, hn]
    exact fun u hc ht => hl ⟨u, hc, ht⟩

/-! ### What is left -/

lemma IsSequence.length_pos {s : Text} (h : IsSequence s) : 0 < s.length := by
  cases h
  exact Nat.succ_pos _

/-- Nothing but what is stripped is left of a text. -/
lemma Stripped.eq {fuel : Nat} {t u : Text} (h : Stripped t u) (hl : t.length ≤ fuel) :
    u = stripSequences fuel t := by
  induction h generalizing fuel with
  | nil => cases fuel <;> rfl
  | @sequence s t u hs h ih =>
    have hpos := hs.length_pos
    rw [List.length_append] at hl
    obtain ⟨fuel, rfl⟩ := Nat.exists_eq_add_one_of_ne_zero (n := fuel) (by omega)
    obtain ⟨c, s, rfl⟩ := List.exists_cons_of_length_pos hpos
    rw [List.cons_append, stripSequences_cons, ← List.cons_append, afterLead?_append hs]
    exact ih (by omega)
  | @keep c t u hc h ih =>
    rw [List.length_cons] at hl
    obtain ⟨fuel, rfl⟩ := Nat.exists_eq_add_one_of_ne_zero (n := fuel) (by omega)
    have hn : afterLead? (c :: t) = none := by
      rw [Option.eq_none_iff_forall_not_mem]
      intro rest hr
      obtain ⟨s, hs, heq⟩ := exists_of_afterLead?_eq_some hr
      exact hc s hs ⟨rest, heq.symm⟩
    rw [stripSequences_cons, hn, ← ih (Nat.le_of_succ_le_succ hl)]

lemma Stripped.unique {t u u' : Text} (h : Stripped t u) (h' : Stripped t u') : u = u' :=
  (h.eq (Nat.le_refl _)).trans (h'.eq (Nat.le_refl _)).symm

/-- A text without escapes is left as it is. -/
lemma Stripped.refl_of_notMem {t : Text} (h : escape ∉ t) : Stripped t t := by
  induction t with
  | nil => exact .nil
  | cons c t ih =>
    rw [List.mem_cons, not_or] at h
    refine .keep ?_ (ih h.2)
    rintro _ ⟨_, _⟩ ⟨rest, hr⟩
    exact h.1 (List.cons.inj hr).1

end ScriptLint.CommandLine
