import Mathlib.Tactic.Common
import ScriptLint.Text.Lines

/-!
# Line ends

A line end is a line feed, a carriage return or both. Two texts differ in how line ends are written
only if and only if unifying line ends gives one text for both: `respelled_iff`.
-/

namespace ScriptLint.Text

/-! ### What unifying does -/

/-- A carriage return with a line feed is written as a line feed, and then a carriage return that
remains. -/
lemma unifyLineEnds_eq_replace (t : Text) :
    t.unifyLineEnds = t.unifyPairs.replace carriageReturn lineFeed := by
  fun_induction unifyLineEnds t with
  | case1 => rfl
  | case2 => rfl
  | case3 c hc => exact (congrArg (fun d => [d]) (if_neg hc)).symm
  | case4 t ih =>
    rw [unifyPairs, if_pos ⟨rfl, rfl⟩, ih]
    rfl
  | case5 d t hd ih =>
    rw [unifyPairs, if_neg fun h => hd h.2, ih]
    rfl
  | case6 c d t hc ih =>
    rw [unifyPairs, if_neg fun h => hc h.1, ih]
    exact congrArg (· :: _) (if_neg hc).symm

lemma carriageReturn_notMem_unifyLineEnds (t : Text) : carriageReturn ∉ t.unifyLineEnds := by
  rw [unifyLineEnds_eq_replace, replace, List.mem_map]
  rintro ⟨c, -, hc⟩
  split at hc
  · cases hc
  · contradiction

/-- Unifying line ends writes no code point but line feeds that was not there. -/
lemma eq_or_mem_of_mem_unifyLineEnds {t : Text} {c : CodePoint} (h : c ∈ t.unifyLineEnds) :
    c = lineFeed ∨ c ∈ t := by
  fun_induction unifyLineEnds t with
  | case1 => cases h
  | case2 => exact .inl (List.mem_singleton.mp h)
  | case3 => exact .inr h
  | case4 t ih =>
    rcases List.mem_cons.mp h with rfl | h
    · exact .inl rfl
    · exact (ih h).imp_right fun h => .tail _ (.tail _ h)
  | case5 d t _ ih =>
    rcases List.mem_cons.mp h with rfl | h
    · exact .inl rfl
    · exact (ih h).imp_right fun h => .tail _ h
  | case6 c d t _ ih =>
    rcases List.mem_cons.mp h with rfl | h
    · exact .inr (.head _)
    · exact (ih h).imp_right fun h => .tail _ h

lemma unifyLineEnds_cons {c : CodePoint} (hc : c ≠ carriageReturn) (t : Text) :
    unifyLineEnds (c :: t) = c :: t.unifyLineEnds := by
  cases t with
  | nil => exact if_neg hc
  | cons d t => rw [unifyLineEnds, if_neg hc]

lemma unifyLineEnds_of_notMem {t : Text} (h : carriageReturn ∉ t) : t.unifyLineEnds = t := by
  induction t with
  | nil => rfl
  | cons c t ih =>
    rw [List.mem_cons, not_or] at h
    rw [unifyLineEnds_cons (Ne.symm h.1), ih h.2]

/-! ### How line ends are written -/

inductive LineEnd
  | feed
  | carriage
  | both

namespace LineEnd

def text : LineEnd → Text
  | .feed     => [lineFeed]
  | .carriage => [carriageReturn]
  | .both     => [carriageReturn, lineFeed]

/-- Whether a line end stands alone before a text: a carriage return and a line feed after it are
one line end. -/
def Before (e : LineEnd) (t : Text) : Prop :=
  match e with
  | .carriage => t.head? ≠ some lineFeed
  | _         => True

lemma Before.unifyLineEnds_append {e : LineEnd} {t : Text} (h : e.Before t) :
    unifyLineEnds (e.text ++ t) = lineFeed :: t.unifyLineEnds := by
  cases e with
  | feed => exact unifyLineEnds_cons (by decide) t
  | both => rfl
  | carriage =>
    cases t with
    | nil => rfl
    | cons d t =>
      rw [text, List.singleton_append, unifyLineEnds, if_pos rfl,
        if_neg fun hd => h (congrArg some hd)]

end LineEnd

/-- Texts that are the same but for how their line ends are written. -/
inductive Respelled : Text → Text → Prop
  | nil : Respelled [] []
  | cons {c : CodePoint} {t u : Text} (hr : c ≠ carriageReturn) (hf : c ≠ lineFeed)
      (h : Respelled t u) : Respelled (c :: t) (c :: u)
  | lineEnd {e e' : LineEnd} {t u : Text} (he : e.Before t) (he' : e'.Before u)
      (h : Respelled t u) : Respelled (e.text ++ t) (e'.text ++ u)

/-- How a text begins. -/
lemma eq_nil_or_cons_or_lineEnd (t : Text) :
    t = [] ∨ (∃ (c : CodePoint) (u : Text), c ≠ carriageReturn ∧ c ≠ lineFeed ∧ t = c :: u) ∨
      ∃ (e : LineEnd) (u : Text), e.Before u ∧ t = e.text ++ u := by
  rcases t with _ | ⟨c, t⟩
  · exact .inl rfl
  · by_cases hf : c = lineFeed
    · exact .inr (.inr ⟨.feed, t, trivial, by rw [hf]; rfl⟩)
    · by_cases hr : c = carriageReturn
      · subst hr
        by_cases hd : t.head? = some lineFeed
        · obtain ⟨u, rfl⟩ := List.head?_eq_some_iff.mp hd
          exact .inr (.inr ⟨.both, u, trivial, rfl⟩)
        · exact .inr (.inr ⟨.carriage, t, hd, rfl⟩)
      · exact .inr (.inl ⟨c, t, hr, hf, rfl⟩)

/-- How a text begins whose line ends are unified to a text that begins with `c`. -/
lemma begins_of_unifyLineEnds_eq_cons {t v : Text} {c : CodePoint}
    (h : t.unifyLineEnds = c :: v) :
    (c ≠ carriageReturn ∧ c ≠ lineFeed ∧ ∃ u : Text, t = c :: u ∧ u.unifyLineEnds = v) ∨
      (c = lineFeed ∧ ∃ (e : LineEnd) (u : Text), e.Before u ∧ t = e.text ++ u ∧
        u.unifyLineEnds = v) := by
  obtain rfl | ⟨d, u, hr, hf, rfl⟩ | ⟨e, u, he, rfl⟩ := eq_nil_or_cons_or_lineEnd t
  · cases h
  · rw [unifyLineEnds_cons hr] at h
    obtain ⟨rfl, rfl⟩ := List.cons.inj h
    exact .inl ⟨hr, hf, u, rfl, rfl⟩
  · rw [he.unifyLineEnds_append] at h
    obtain ⟨rfl, rfl⟩ := List.cons.inj h
    exact .inr ⟨rfl, e, u, he, rfl, rfl⟩

lemma eq_nil_of_unifyLineEnds {t : Text} (h : t.unifyLineEnds = []) : t = [] := by
  obtain rfl | ⟨d, u, hr, -, rfl⟩ | ⟨e, u, he, rfl⟩ := eq_nil_or_cons_or_lineEnd t
  · rfl
  · rw [unifyLineEnds_cons hr] at h
    cases h
  · rw [he.unifyLineEnds_append] at h
    cases h

/-- Texts differ in how line ends are written only if and only if they are unified to one text. -/
lemma respelled_iff {t u : Text} : Respelled t u ↔ t.unifyLineEnds = u.unifyLineEnds := by
  constructor
  · intro h
    induction h with
    | nil => rfl
    | cons hr hf h ih => rw [unifyLineEnds_cons hr, unifyLineEnds_cons hr, ih]
    | lineEnd he he' h ih => rw [he.unifyLineEnds_append, he'.unifyLineEnds_append, ih]
  · intro h
    -- on the text that both are unified to
    generalize hv : u.unifyLineEnds = v at h
    induction v generalizing t u with
    | nil =>
      rw [eq_nil_of_unifyLineEnds h, eq_nil_of_unifyLineEnds hv]
      exact .nil
    | cons c v ih =>
      obtain ⟨hr, hf, t', rfl, ht⟩ | ⟨rfl, e, t', he, rfl, ht⟩ := begins_of_unifyLineEnds_eq_cons h
      · obtain ⟨-, -, u', rfl, hu⟩ | ⟨hc, -⟩ := begins_of_unifyLineEnds_eq_cons hv
        · exact .cons hr hf (ih hu ht)
        · exact absurd hc hf
      · obtain ⟨-, hf, -⟩ | ⟨-, e', u', he', rfl, hu⟩ := begins_of_unifyLineEnds_eq_cons hv
        · exact absurd rfl hf
        · exact .lineEnd he he' (ih hu ht)

end ScriptLint.Text
