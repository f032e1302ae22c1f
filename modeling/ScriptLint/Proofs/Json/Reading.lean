import Mathlib.Data.List.TakeWhile
import ScriptLint.Proofs.Json.Integers
import ScriptLint.Proofs.Json.Strings

/-!
# Steps of the reader of documents

The reader takes a value off the front of a text, whatever follows it. A text that it reads so is
all that an array or an object around it has to know about one of its values.
-/

namespace ScriptLint.Json

open Reader

/-! ### Blanks -/

lemma skip_cons {c : CodePoint} (h : isBlank c = false) (t : Text) : skip (c :: t) = c :: t := by
  rw [skip, List.dropWhile_cons, h, if_neg Bool.false_ne_true]

lemma skip_append {u : Text} (h : ∀ c ∈ u, isBlank c = true) (t : Text) :
    skip (u ++ t) = skip t := List.dropWhile_append_of_pos h

/-! ### Steps of a reader -/

section Steps

variable {fuel : Nat} {t u rest : Text} {v : Json}

lemma readValue_string {s : Text} (h : Quotes t s rest) :
    readValue (fuel + 1) (0x22 :: t) = .ok (.string s, rest) := by
  rw [readValue.eq_def]
  dsimp only
  rw [if_pos (by decide), h]
  rfl

lemma readValue_emptyArray (rest : Text) :
    readValue (fuel + 1) ("[]" ++ rest) = .ok (.array [], rest) := rfl

lemma readValue_emptyObject (rest : Text) :
    readValue (fuel + 1) ("\x7b\x7d" ++ rest) = .ok (.object [], rest) := rfl

lemma readValue_array {c : CodePoint} {vs : List Json} (ht : skip t = c :: u) (hc : c ≠ 0x5D)
    (h : readItems fuel (c :: u) = .ok (vs, rest)) :
    readValue (fuel + 1) (0x5B :: t) = .ok (.array vs, rest) := by
  rw [readValue.eq_def]
  dsimp only
  rw [if_neg (by decide), if_pos (by decide), ht]
  split
  · next e => exact absurd (List.cons.inj e).1 hc
  · rw [h]
    rfl

lemma readValue_object {ms : List (Text × Json)} (ht : skip t = 0x22 :: u)
    (h : readMembers fuel (0x22 :: u) = .ok (ms, rest)) :
    readValue (fuel + 1) (0x7B :: t) = .ok (.object (Entries.ofList ms), rest) := by
  rw [readValue.eq_def]
  dsimp only
  rw [if_neg (by decide), if_neg (by decide), if_pos (by decide), ht]
  split
  · next e => cases e
  · rw [h]
    rfl

end Steps

/-! ### Values -/

/-- A text is read as a value whatever follows, with as much fuel as it is long. It begins with
neither a blank nor a closing bracket. -/
structure ReadsAs (t : Text) (v : Json) : Prop where
  read : ∀ fuel rest, t.length ≤ fuel → Numeral.stops rest = true →
    readValue fuel (t ++ rest) = .ok (v, rest)
  begins : ∃ c u, t = c :: u ∧ isBlank c = false ∧ c ≠ 0x5D

lemma ReadsAs.skip_append {t : Text} {v : Json} (h : ReadsAs t v) {u : Text}
    (hu : ∀ c ∈ u, isBlank c = true) (rest : Text) : skip (u ++ (t ++ rest)) = t ++ rest := by
  obtain ⟨c, t, rfl, hc, -⟩ := h.begins
  rw [Json.skip_append hu, List.cons_append, skip_cons hc]

/-- The first code point of a value takes the first unit of fuel. -/
lemma ReadsAs.of_cons {c : CodePoint} {t : Text} {v : Json} (hb : isBlank c = false)
    (hc : c ≠ 0x5D) (h : ∀ fuel rest, t.length ≤ fuel → Numeral.stops rest = true →
      readValue (fuel + 1) (c :: (t ++ rest)) = .ok (v, rest)) : ReadsAs (c :: t) v := by
  refine ⟨?_, c, t, rfl, hb, hc⟩
  rintro (_ | fuel) rest hf hr
  · cases hf
  · exact h fuel rest (Nat.le_of_succ_le_succ hf) hr

lemma readsAs_ofInt {n : Int} (hn : IsShort n) : ReadsAs (Text.ofInt n) (.int n) := by
  obtain ⟨c, t, ht, hc⟩ := Text.exists_ofInt_eq_cons n
  rw [ht]
  refine .of_cons ?_ (hc _ (by decide)) fun fuel rest hf hr => ?_
  · simp [isBlank, hc ' ' (by decide), hc '\t' (by decide), hc '\n' (by decide),
      hc '\r' (by decide)]
  · have hw := readWord_ofInt hn hr
    rw [ht, List.cons_append] at hw
    rw [readValue.eq_def]
    dsimp only
    rw [if_neg (hc _ (by decide)), if_neg (hc _ (by decide)), if_neg (hc _ (by decide)), hw]

lemma printText_append (s rest : Text) :
    printText s ++ rest = 0x22 :: (s.flatMap escape ++ 0x22 :: rest) := by
  rw [printText, List.append_assoc, List.append_assoc]
  rfl

lemma readsAs_printText {s : Text} (hs : s.Separate) : ReadsAs (printText s) (.string s) := by
  refine .of_cons (c := 0x22) (t := s.flatMap escape ++ [0x22]) rfl (by decide)
    fun fuel rest hf hr => ?_
  rw [List.append_assoc, List.singleton_append]
  exact readValue_string (quotes_flatMap_escape hs rest)

/-! ### Items and members -/

lemma readItems_last {fuel : Nat} {t u rest : Text} {v : Json} (hv : ReadsAs t v)
    (hf : t.length ≤ fuel) (hu : Numeral.stops u = true) (hs : skip u = 0x5D :: rest) :
    readItems (fuel + 1) (t ++ u) = .ok ([v], rest) := by
  rw [readItems, hv.read fuel u hf hu]
  simp only [bind, Except.bind, hs]
  rfl

lemma readItems_cons {fuel : Nat} {t u rest : Text} {v : Json} {vs : List Json}
    (hv : ReadsAs t v) (hf : t.length ≤ fuel) (h : readItems fuel (skip u) = .ok (vs, rest)) :
    readItems (fuel + 1) (t ++ 0x2C :: u) = .ok (v :: vs, rest) := by
  rw [readItems, hv.read fuel (0x2C :: u) hf rfl]
  simp only [bind, Except.bind, skip_cons (show isBlank 0x2C = false from rfl), h]
  rfl

/-- The text of a member, given that of its value. -/
def memberText (name t : Text) : Text := printText name ++ 0x3A :: 0x20 :: t

lemma memberText_append (name t rest : Text) : memberText name t ++ rest
    = 0x22 :: (name.flatMap escape ++ 0x22 :: 0x3A :: 0x20 :: (t ++ rest)) := by
  rw [memberText, List.append_assoc, printText_append]
  rfl

lemma length_lt_memberText (name t : Text) : t.length < (memberText name t).length := by
  simp only [memberText, List.length_append, List.length_cons]
  omega

lemma skip_space {t : Text} {v : Json} (hv : ReadsAs t v) (u : Text) :
    skip (0x20 :: (t ++ u)) = t ++ u :=
  hv.skip_append (u := [0x20]) (List.forall_mem_singleton.mpr rfl) u

lemma readMembers_last {fuel : Nat} {name t u rest : Text} {v : Json} (hn : name.Separate)
    (hv : ReadsAs t v) (hf : t.length ≤ fuel) (hu : Numeral.stops u = true)
    (hs : skip u = 0x7D :: rest) :
    readMembers (fuel + 1) (memberText name t ++ u) = .ok ([(name, v)], rest) := by
  rw [memberText_append, readMembers, quotes_flatMap_escape hn]
  simp only [bind, Except.bind, skip_cons (show isBlank 0x3A = false from rfl), skip_space hv,
    hv.read fuel u hf hu, hs]
  rfl

lemma readMembers_cons {fuel : Nat} {name t u rest : Text} {v : Json} {ms : List (Text × Json)}
    (hn : name.Separate) (hv : ReadsAs t v) (hf : t.length ≤ fuel)
    (h : readMembers fuel (skip u) = .ok (ms, rest)) :
    readMembers (fuel + 1) (memberText name t ++ 0x2C :: u) = .ok ((name, v) :: ms, rest) := by
  rw [memberText_append, readMembers, quotes_flatMap_escape hn]
  simp only [bind, Except.bind, skip_cons (show isBlank 0x3A = false from rfl), skip_space hv,
    hv.read fuel (0x2C :: u) hf rfl, skip_cons (show isBlank 0x2C = false from rfl), h]
  rfl

/-! ### Documents that are strings -/

lemma readNumber_ne_string {t rest : Text} {s : Text} : readNumber t ≠ .ok (.string s, rest) := by
  rw [readNumber]
  split
  · simp
  · split_ifs <;> simp

lemma readWord_ne_string {t rest : Text} {s : Text} : readWord t ≠ .ok (.string s, rest) := by
  rw [readWord]
  split
  · next found h =>
    intro he
    obtain ⟨w, hw, hf⟩ := List.exists_of_findSome?_eq_some h
    obtain ⟨u, -, rfl⟩ := Option.map_eq_some_iff.mp hf
    have hs : ∀ w ∈ words, ∀ s, w.2 ≠ .string s := by simp [words]
    exact hs w hw s (Prod.mk.inj (Except.ok.inj he)).1
  · exact readNumber_ne_string

/-- Only what begins with a quote is read as a string. -/
lemma readString_of_readValue {fuel : Nat} {t s rest : Text}
    (h : readValue fuel t = .ok (.string s, rest)) :
    ∃ opening u, t = 0x22 :: u ∧ readString opening u = .ok (s, rest) := by
  rw [readValue.eq_def] at h
  split at h
  · cases h
  · next fuel =>
    split at h
    · cases h
    · next c u =>
      split_ifs at h with hq ha ho
      · cases hu : readString (u.length + 1) u with
        | error e => simp [hu, bind, Except.bind] at h
        | ok r =>
          rw [hu] at h
          cases h
          exact ⟨_, u, congrArg (· :: u) hq, hu⟩
      · split at h
        · cases h
        · cases hi : readItems fuel (skip u) <;> rw [hi] at h <;> cases h
      · split at h
        · cases h
        · cases hm : readMembers fuel (skip u) <;> rw [hm] at h <;> cases h
      · exact absurd h readWord_ne_string

/-- A document that is a string: blanks, the string in its quotes, and blanks. -/
lemma exists_of_read_eq_string {t s : Text} (h : Json.read t = .ok (.string s)) :
    ∃ u rest, skip t = 0x22 :: u ∧ afterClosing u = some rest ∧ ∀ c ∈ rest, isBlank c = true := by
  have h : readDocument t = .ok (.string s) := by
    rw [Json.read] at h
    cases hd : readDocument t <;> rw [hd] at h <;> cases h
    rfl
  rw [readDocument.eq_def] at h
  split at h
  · cases h
  · cases hv : readValue (2 * t.length + 2) (skip t) with
    | error e => simp [hv, bind, Except.bind] at h
    | ok r =>
      obtain ⟨v, rest⟩ := r
      rw [hv] at h
      simp only [bind, Except.bind] at h
      split at h
      · next hr =>
        cases h
        obtain ⟨opening, u, hu, hs⟩ := readString_of_readValue hv
        exact ⟨u, rest, hu, afterClosing_of_readString hs, List.dropWhile_eq_nil_iff.mp hr⟩
      · cases h

end ScriptLint.Json
