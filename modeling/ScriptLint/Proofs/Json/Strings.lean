import Mathlib.Data.List.Chain
import Mathlib.Tactic.IntervalCases
import ScriptLint.Json.Printer
import ScriptLint.Json.Reader

/-!
# Strings in documents

Reading inverts the escape of strings: what is printed for a string, up to its closing quote, is
read as that string, whatever follows. The exception is a surrogate pair that stands as two code
points, since its two escapes are read as one.

`Quotes` says what is read of a text, with a rule for each kind of escape; `Escaped` says how a code
point is written. Where a string ends does not depend on what follows it either, `afterClosing`.
-/

namespace ScriptLint

/-- A text in which no surrogate pair stands as two code points. -/
def Text.Separate (t : Text) : Prop :=
  t.IsChain fun c d => ¬ (c.isHighSurrogate = true ∧ d.isLowSurrogate = true)

instance : DecidablePred Text.Separate := fun t => inferInstanceAs (Decidable (t.IsChain _))

namespace Text.Separate

lemma tail {c : CodePoint} {t : Text} (h : Text.Separate (c :: t)) : t.Separate :=
  List.IsChain.tail h

lemma of_not_isSurrogate {t : Text} (h : ∀ c ∈ t, c.isSurrogate = false) : t.Separate := by
  induction t with
  | nil => exact .nil
  | cons c t ih =>
    refine List.isChain_cons.mpr ⟨fun d _ hp => ?_, ih fun d hd => h d (.tail c hd)⟩
    have hc := h c (.head t)
    simp only [CodePoint.isHighSurrogate, CodePoint.isSurrogate, decide_eq_true_eq,
      decide_eq_false_iff_not] at hp hc
    omega

end Text.Separate

namespace Json

open Reader

/-! ### Escaped units -/

lemma hexValue?_hexDigit (n : Nat) : (CodePoint.hexDigit n).hexValue? = some (n % 16) := by
  have h : n % 16 < 16 := Nat.mod_lt n (by decide)
  rw [CodePoint.hexDigit]
  generalize n % 16 = m at h
  interval_cases m <;> rfl

lemma escapeUnit_eq (n : Nat) : escapeUnit n = [0x5C, 0x75, CodePoint.hexDigit (n / 16 / 16 / 16),
    CodePoint.hexDigit (n / 16 / 16), CodePoint.hexDigit (n / 16), CodePoint.hexDigit n] := rfl

lemma unit?_hexDigits {n : Nat} (h : n < 0x10000) :
    unit? (CodePoint.hexDigit (n / 16 / 16 / 16)) (CodePoint.hexDigit (n / 16 / 16))
      (CodePoint.hexDigit (n / 16)) (CodePoint.hexDigit n) = some n := by
  simp only [unit?, hexValue?_hexDigit, Option.bind_eq_bind, Option.bind_some, Option.pure_def,
    Option.some.injEq]
  omega

/-! ### What is read of a string -/

/-- The front of a text, after an opening quote, is read as a string, and the rest is left. -/
def Quotes (t s rest : Text) : Prop := ∀ opening, readString opening t = .ok (s, rest)

/-- An escaped unit at the front of a text is no second half of a surrogate pair. -/
def LowFree (t : Text) : Prop :=
  ∀ e f g h after rest, t = 0x5C :: 0x75 :: e :: f :: g :: h :: after :: rest →
    ∃ n, unit? e f g h = some n ∧ (CodePoint.ofNat n).isLowSurrogate = false

variable {t s rest : Text}

lemma Quotes.nil (rest : Text) : Quotes (0x22 :: rest) [] rest := fun opening => by
  rw [readString]

lemma Quotes.ne_nil (h : Quotes t s rest) : t ≠ [] := by
  rintro rfl
  have := h 0
  rw [readString] at this
  cases this

lemma Quotes.plain {c : CodePoint} (hq : c ≠ '"') (hb : c ≠ '\\') (hc : 0x1F < c.val)
    (h : Quotes t s rest) : Quotes (c :: t) (c :: s) rest := by
  intro opening
  rw [readString.eq_8 opening c t hq (fun e _ => hb e) (fun _ _ _ _ _ _ _ _ _ _ e _ => hb e)
    (fun _ _ _ _ _ _ e _ => hb e) (fun _ e _ => hb e) (fun _ _ e _ => hb e), if_neg (by omega),
    h opening]
  rfl

lemma Quotes.short {e c : CodePoint} (he : escaped? e = some c) (h : Quotes t s rest) :
    Quotes (0x5C :: e :: t) (c :: s) rest := by
  have hu : e ≠ 0x75 := by
    rintro rfl
    cases he
  intro opening
  rw [readString.eq_7 opening e t (fun _ _ _ _ _ _ _ _ _ _ h _ => hu h)
    (fun _ _ _ _ _ _ h _ => hu h) hu, he]
  dsimp only
  rw [h opening]
  rfl

/-- An escaped unit is read by itself, unless it is the first half of a pair. -/
lemma Quotes.unit {a b c d : CodePoint} {n : Nat} (hn : unit? a b c d = some n)
    (hp : (CodePoint.ofNat n).isHighSurrogate = true → LowFree t) (h : Quotes t s rest) :
    Quotes (0x5C :: 0x75 :: a :: b :: c :: d :: t) (.ofNat n :: s) rest := by
  intro opening
  obtain ⟨after, u, rfl⟩ := List.exists_cons_of_ne_nil h.ne_nil
  -- the reader looks for a second unit that is followed by one more code point
  by_cases hl : ∃ e f g h after' u', after = 0x5C ∧ u = 0x75 :: e :: f :: g :: h :: after' :: u'
  · obtain ⟨e, f, g, k, after, u, rfl, rfl⟩ := hl
    rw [readString, hn]
    dsimp only
    by_cases hh : (CodePoint.ofNat n).isHighSurrogate = true
    · obtain ⟨low, hlow, hno⟩ := hp hh e f g k after u rfl
      rw [if_pos hh, hlow]
      dsimp only
      rw [hno, if_neg Bool.false_ne_true, h opening]
      rfl
    · rw [if_neg hh, h opening]
      rfl
  · rw [readString.eq_5 opening a b c d after u
      (fun e f g k after' u' ha hu => hl ⟨e, f, g, k, after', u', ha, hu⟩), hn]
    dsimp only
    rw [h opening]
    rfl

/-- Two escaped units that are a surrogate pair are read as one code point. -/
lemma Quotes.pair {a b c d e f g k : CodePoint} {high low : Nat} (hh : unit? a b c d = some high)
    (hl : unit? e f g k = some low) (hhigh : (CodePoint.ofNat high).isHighSurrogate = true)
    (hlow : (CodePoint.ofNat low).isLowSurrogate = true) (h : Quotes t s rest) :
    Quotes (0x5C :: 0x75 :: a :: b :: c :: d :: 0x5C :: 0x75 :: e :: f :: g :: k :: t)
      (pair high low :: s) rest := by
  intro opening
  obtain ⟨after, u, rfl⟩ := List.exists_cons_of_ne_nil h.ne_nil
  rw [readString, hh]
  dsimp only
  rw [if_pos hhigh, hl]
  dsimp only
  rw [if_pos hlow, h opening]
  rfl

/-! ### Escaped code points -/

lemma ofNat_val (c : CodePoint) : CodePoint.ofNat c.val = c := dif_pos c.isLt

lemma val_ofNat {n : Nat} (h : n < 0x110000) : (CodePoint.ofNat n).val = n := by
  rw [CodePoint.ofNat, dif_pos h]

/-- The halves of a surrogate pair give back the code point they are made of. -/
lemma pair_halves {c : CodePoint} (h : 0x10000 ≤ c.val) :
    pair (0xD800 + (c.val - 0x10000) / 0x400) (0xDC00 + (c.val - 0x10000) % 0x400) = c := by
  have hc := c.isLt
  apply Fin.ext
  rw [pair, val_ofNat] <;> omega

/-- How a code point is written: as itself, by a short escape, or in units. -/
inductive Escaped (c : CodePoint) : Text → Prop
  | plain (hq : c ≠ '"') (hb : c ≠ '\\') (h : c.isPlain = true) : Escaped c [c]
  | short (e : CodePoint) (h : escaped? e = some c) : Escaped c [0x5C, e]
  | unit (h : c.val < 0x10000) : Escaped c (escapeUnit c.val)
  | pair (h : 0x10000 ≤ c.val) : Escaped c
      (escapeUnit (0xD800 + (c.val - 0x10000) / 0x400) ++
        escapeUnit (0xDC00 + (c.val - 0x10000) % 0x400))

lemma escaped_escape (c : CodePoint) : Escaped c (escape c) := by
  rw [escape]
  split_ifs with hq hb hc hn hr ht hbs hff hbmp
  · exact .short '"' (by rw [hq]; rfl)
  · exact .short '\\' (by rw [hb]; rfl)
  · exact .plain hq hb hc
  · exact .short 'n' (by rw [hn]; rfl)
  · exact .short 'r' (by rw [hr]; rfl)
  · exact .short 't' (by rw [ht]; rfl)
  · exact .short 'b' (by rw [hbs]; rfl)
  · exact .short 'f' (by rw [hff]; rfl)
  · exact .unit hbmp
  · exact .pair (Nat.le_of_not_lt hbmp)

lemma quotes_escape {c : CodePoint} (hp : c.isHighSurrogate = true → LowFree t)
    (h : Quotes t s rest) : Quotes (escape c ++ t) (c :: s) rest := by
  have he := escaped_escape c
  generalize escape c = w at he
  cases he with
  | plain hq hb hc =>
    simp only [CodePoint.isPlain, decide_eq_true_eq] at hc
    exact .plain hq hb (by omega) h
  | short e he => exact .short he h
  | unit hc =>
    have hu := Quotes.unit (unit?_hexDigits hc) (fun hh => hp (ofNat_val c ▸ hh)) h
    rwa [ofNat_val] at hu
  | pair hc =>
    have hlt := c.isLt
    have hu := Quotes.pair (unit?_hexDigits (n := 0xD800 + (c.val - 0x10000) / 0x400) (by omega))
      (unit?_hexDigits (n := 0xDC00 + (c.val - 0x10000) % 0x400) (by omega)) ?_ ?_ h
    · rwa [pair_halves hc] at hu
    · rw [CodePoint.isHighSurrogate, val_ofNat (by omega)]
      exact decide_eq_true (by omega)
    · rw [CodePoint.isLowSurrogate, val_ofNat (by omega)]
      exact decide_eq_true (by omega)

lemma lowFree_of_ne {c : CodePoint} (h : c ≠ '\\') : LowFree (c :: t) := by
  intro e f g k after u hu
  exact absurd (List.cons.inj hu).1 h

lemma lowFree_unit {n : Nat} (hn : n < 0x10000) (hl : (CodePoint.ofNat n).isLowSurrogate = false) :
    LowFree (escapeUnit n ++ t) := by
  intro e f g k after u hu
  simp only [escapeUnit_eq, List.cons_append, List.cons.injEq] at hu
  obtain ⟨-, -, rfl, rfl, rfl, rfl, -⟩ := hu
  exact ⟨n, unit?_hexDigits hn, hl⟩

/-- What is written for a code point other than the second half of a pair does not begin with such
a half. -/
lemma lowFree_escape {c : CodePoint} (hl : c.isLowSurrogate = false) :
    LowFree (escape c ++ t) := by
  have he := escaped_escape c
  generalize escape c = w at he
  cases he with
  | plain _ hb _ => exact lowFree_of_ne hb
  | short e he =>
    intro _ _ _ _ _ _ hu
    simp only [List.cons_append, List.cons.injEq] at hu
    rw [hu.2.1] at he
    cases he
  | unit hc => exact lowFree_unit hc ((ofNat_val c).symm ▸ hl)
  | pair hc =>
    have hlt := c.isLt
    rw [List.append_assoc]
    refine lowFree_unit (by omega) ?_
    rw [CodePoint.isLowSurrogate, val_ofNat (by omega)]
    exact decide_eq_false (by omega)

/-- A string that is printed is read again, whatever follows it. -/
theorem quotes_flatMap_escape {s : Text} (hs : s.Separate) (rest : Text) :
    Quotes (s.flatMap escape ++ 0x22 :: rest) s rest := by
  induction s with
  | nil => exact .nil rest
  | cons c s ih =>
    rw [List.flatMap_cons, List.append_assoc]
    refine quotes_escape (fun hc => ?_) (ih hs.tail)
    cases s with
    | nil => exact lowFree_of_ne (by decide)
    | cons d s =>
      rw [List.flatMap_cons, List.append_assoc]
      refine lowFree_escape ?_
      have hd := (List.isChain_cons_cons.mp hs).1
      simpa [hc] using hd

/-! ### What is written -/

lemma isPlain_hexDigit (n : Nat) : (CodePoint.hexDigit n).isPlain = true := by
  have h : n % 16 < 16 := Nat.mod_lt n (by decide)
  rw [CodePoint.hexDigit]
  generalize n % 16 = m at h
  interval_cases m <;> rfl

lemma isPlain_of_escaped? {e c : CodePoint} (h : escaped? e = some c) : e.isPlain = true := by
  rw [escaped?] at h
  split_ifs at h with h₁ h₂ h₃ h₄ h₅ h₆
  · rcases h₁ with rfl | rfl | rfl <;> rfl
  all_goals
    subst e
    rfl

lemma isPlain_escapeUnit {n : Nat} : ∀ d ∈ escapeUnit n, d.isPlain = true := by
  simp only [escapeUnit_eq, List.forall_mem_cons, isPlain_hexDigit, List.not_mem_nil,
    false_imp_iff, implies_true, and_true]
  decide

/-- A string is written in printable ASCII. -/
lemma isPlain_escape (c : CodePoint) : ∀ d ∈ escape c, d.isPlain = true := by
  have he := escaped_escape c
  generalize escape c = w at he
  cases he with
  | plain _ _ hc => simpa using hc
  | short e he =>
    rw [List.forall_mem_cons, List.forall_mem_singleton]
    exact ⟨rfl, isPlain_of_escaped? he⟩
  | unit _ => exact isPlain_escapeUnit
  | pair _ =>
    rw [List.forall_mem_append]
    exact ⟨isPlain_escapeUnit, isPlain_escapeUnit⟩

/-! ### Where a string ends -/

/-- The rest of a text after the quote that closes a string: the first that is not escaped. -/
def afterClosing : Text → Option Text
  | [] => none
  | c :: t =>
    if c = 0x22 then some t
    else if c = 0x5C then
      match t with
      | [] => none
      | _ :: t => afterClosing t
    else afterClosing t

lemma afterClosing_quote (t : Text) : afterClosing (0x22 :: t) = some t := by
  rw [afterClosing.eq_def]
  exact if_pos rfl

lemma afterClosing_escaped (c : CodePoint) (t : Text) :
    afterClosing (0x5C :: c :: t) = afterClosing t := rfl

lemma afterClosing_of_ne {c : CodePoint} (hq : c ≠ 0x22) (hb : c ≠ 0x5C) (t : Text) :
    afterClosing (c :: t) = afterClosing t := by
  rw [afterClosing.eq_def]
  dsimp only
  rw [if_neg hq, if_neg hb]

lemma afterClosing_append {r : Text} (h : afterClosing t = some r) (u : Text) :
    afterClosing (t ++ u) = some (r ++ u) := by
  fun_induction afterClosing t with
  | case1 => cases h
  | case2 t =>
    cases h
    exact afterClosing_quote _
  | case3 => cases h
  | case4 c t _ ih => exact ih h
  | case5 c t hq hb ih =>
    rw [List.cons_append, afterClosing_of_ne hq hb]
    exact ih h

lemma ne_of_hexValue? {a : CodePoint} {n : Nat} (h : a.hexValue? = some n) :
    a ≠ 0x22 ∧ a ≠ 0x5C := by
  constructor <;> rintro rfl <;> cases h

lemma afterClosing_unit {a b c d : CodePoint} {n : Nat} (h : unit? a b c d = some n) (t : Text) :
    afterClosing (0x5C :: 0x75 :: a :: b :: c :: d :: t) = afterClosing t := by
  simp only [unit?, Option.bind_eq_bind, Option.bind_eq_some_iff] at h
  obtain ⟨_, ha, _, hb, _, hc, _, hd, -⟩ := h
  obtain ⟨ha, ha'⟩ := ne_of_hexValue? ha
  obtain ⟨hb, hb'⟩ := ne_of_hexValue? hb
  obtain ⟨hc, hc'⟩ := ne_of_hexValue? hc
  obtain ⟨hd, hd'⟩ := ne_of_hexValue? hd
  rw [afterClosing_escaped, afterClosing_of_ne ha ha', afterClosing_of_ne hb hb',
    afterClosing_of_ne hc hc', afterClosing_of_ne hd hd']

lemma exists_of_bind_eq_ok {x : Except Stop (Text × Text)} {c : CodePoint}
    (h : (do let (t, rest) ← x; return (c :: t, rest)) = .ok (s, rest)) :
    ∃ s', x = .ok (s', rest) := by
  rcases x with _ | ⟨s', r⟩
  · cases h
  · cases h
    exact ⟨s', rfl⟩

/-- A string that is read ends where it is closed. -/
lemma afterClosing_of_readString {opening : Nat} (h : readString opening t = .ok (s, rest)) :
    afterClosing t = some rest := by
  fun_induction readString opening t generalizing s rest with
  | case2 => cases h; exact afterClosing_quote _
  | case6 a b c d e f g k after t high hh hhigh low hl hlow ih =>
    obtain ⟨s', h⟩ := exists_of_bind_eq_ok h
    rw [afterClosing_unit hh, afterClosing_unit hl, ih h]
  | case7 a b c d e f g k after t high hh hhigh low hl hlow ih =>
    obtain ⟨s', h⟩ := exists_of_bind_eq_ok h
    rw [afterClosing_unit hh, ih h]
  | case8 a b c d e f g k after t high hh hhigh ih =>
    obtain ⟨s', h⟩ := exists_of_bind_eq_ok h
    rw [afterClosing_unit hh, ih h]
  | case10 a b c d after t hne unit hu ih =>
    obtain ⟨s', h⟩ := exists_of_bind_eq_ok h
    rw [afterClosing_unit hu, ih h]
  | case13 c t _ _ _ e he ih =>
    obtain ⟨s', h⟩ := exists_of_bind_eq_ok h
    rw [afterClosing_escaped, ih h]
  | case15 c t hq hb₁ hb₂ hb₃ hb₄ hb₅ hc ih =>
    obtain ⟨s', h⟩ := exists_of_bind_eq_ok h
    rw [afterClosing_of_ne hq ?_, ih h]
    rintro rfl
    cases t with
    | nil => exact hb₁ rfl rfl
    | cons c t => exact hb₅ c t rfl rfl
  | case1 | case3 | case4 | case5 | case9 | case11 | case12 | case14 => cases h

end Json

end ScriptLint
