import Mathlib.Tactic.Common
import Mathlib.Tactic.SplitIfs
import ScriptLint.Proofs.OrderedMap
import ScriptLint.Toml.Reader

/-!
# Tables with different keys

A table that is read of a document has no key twice, and neither has any table in it, whatever
tables and arrays that one is in: `distinct_of_read`.
-/

namespace ScriptLint

lemma Except.exists_of_bind_eq_ok {ε α β : Type} {x : Except ε α} {f : α → Except ε β} {y : β}
    (h : (x >>= f) = .ok y) : ∃ a, x = .ok a ∧ f a = .ok y := by
  rcases x with e | a
  · cases h
  · exact ⟨a, rfl, h⟩

namespace Toml

/-- Values in which every table has different keys. -/
inductive Value.Distinct : Value → Prop
  | string (t : Text) : Distinct (.string t)
  | integer (n : Int) : Distinct (.integer n)
  | float (x : Binary64) : Distinct (.float x)
  | boolean (b : Bool) : Distinct (.boolean b)
  | moment (t : Text) : Distinct (.moment t)
  | array {vs : List Value} (h : ∀ v ∈ vs, Distinct v) : Distinct (.array vs)
  | table {ms : Table} (hk : (Entries.keys ms).Nodup) (h : ∀ m ∈ ms, Distinct m.2) :
      Distinct (.table ms)

/-- Tables with different keys, and so every table in them. -/
structure Table.Distinct (ms : Table) : Prop where
  keys : (Entries.keys ms).Nodup
  values : ∀ m ∈ ms, m.2.Distinct

/-! ### Changing a table -/

namespace Table.Distinct

variable {ms ms' : Table} {k : Text} {v : Value}

lemma nil : Table.Distinct [] := ⟨List.nodup_nil, List.forall_mem_nil _⟩

lemma toValue (h : Table.Distinct ms) : (Value.table ms).Distinct := .table h.keys h.values

lemma ofValue (h : (Value.table ms).Distinct) : Table.Distinct ms := by
  cases h with
  | table hk h => exact ⟨hk, h⟩

lemma put (h : Table.Distinct ms) (k : Text) (hv : v.Distinct) :
    Table.Distinct (Entries.put k v ms) := by
  refine ⟨Entries.nodup_keys_put h.keys k v, ?_⟩
  intro m hm
  obtain rfl | hm := Entries.mem_put hm
  · exact hv
  · exact h.values m hm

lemma get? (h : Table.Distinct ms) (hv : Entries.get? k ms = some v) : v.Distinct :=
  h.values (k, v) (Entries.mem_of_get? hv)

lemma add (h : Table.Distinct ms) (hv : v.Distinct) (ha : Table.add? k v ms = some ms') :
    Table.Distinct ms' := by
  rw [Table.add?] at ha
  split_ifs at ha
  cases ha
  exact h.put k hv

/-- The items of an array with one more table at the end. -/
lemma concat (items : List Value) (h : ∀ v ∈ items, v.Distinct) (hm : Table.Distinct ms) :
    (Value.array (items ++ [.table ms])).Distinct :=
  .array (List.forall_mem_append.mpr ⟨h, List.forall_mem_singleton.mpr hm.toValue⟩)

lemma push (h : Table.Distinct ms) (hp : Table.push? k ms = some ms') : Table.Distinct ms' := by
  rw [Table.push?] at hp
  split at hp
  · cases hp
    exact h.put k (concat [] (List.forall_mem_nil _) nil)
  · next items hi =>
    cases hp
    cases h.get? hi with
    | array hitems => exact h.put k (concat items hitems nil)
  · cases hp

/-- A change of a table deep inside keeps keys different if it does so where it is made. -/
lemma update {arrays : Bool} {f : Table → Option Table}
    (hf : ∀ {ms ms' : Table}, Table.Distinct ms → f ms = some ms' → Table.Distinct ms') {ks : Key}
    (h : Table.Distinct ms) (hu : Table.update? arrays f ks ms = some ms') :
    Table.Distinct ms' := by
  induction ks generalizing ms ms' with
  | nil => exact hf h hu
  | cons k ks ih =>
    rw [Table.update?] at hu
    split at hu
    · obtain ⟨inner, hi, hu⟩ := Option.bind_eq_some_iff.mp hu
      cases hu
      exact h.put k (ih nil hi).toValue
    · next inner hk =>
      obtain ⟨inner', hi, hu⟩ := Option.bind_eq_some_iff.mp hu
      cases hu
      exact h.put k (ih (ofValue (h.get? hk)) hi).toValue
    · next items hk =>
      split at hu
      · next inner hlast =>
        obtain ⟨inner', hi, hu⟩ := Option.bind_eq_some_iff.mp hu
        cases hu
        cases h.get? hk with
        | array hitems =>
          have hinner := ofValue (hitems _ (List.mem_of_getLast? hlast))
          refine h.put k (concat _ ?_ (ih hinner hi))
          exact fun v hv => hitems v (List.dropLast_subset items hv)
      · cases hu
    · cases hu

end Table.Distinct

/-! ### Reading values -/

lemma distinct_of_readBased? {t rest : Text} {v : Value} (h : readBased? t = some (v, rest)) :
    v.Distinct := by
  rw [readBased?.eq_def] at h
  split at h
  case h_4 => cases h
  all_goals
    obtain ⟨ds, -, hd⟩ := Option.map_eq_some_iff.mp h
    cases hd
    exact .integer _

lemma distinct_of_readDecimal? {t rest : Text} {v : Value}
    (h : readDecimal? t = some (.ok (v, rest))) : v.Distinct := by
  rw [readDecimal?] at h
  generalize readSign t = sign at h
  obtain ⟨⟨whole, t'⟩, -, h⟩ := Option.bind_eq_some_iff.mp h
  dsimp only at h
  split at h
  · cases h
    exact .float _
  split at h
  · cases h
  · cases h
    exact .integer _

lemma distinct_of_readNotFinite? {t rest : Text} {v : Value}
    (h : readNotFinite? t = some (v, rest)) : v.Distinct := by
  obtain ⟨word, -, hw⟩ := List.exists_of_findSome?_eq_some h
  obtain ⟨rest, -, hr⟩ := Option.map_eq_some_iff.mp hw
  cases hr
  exact .float _

lemma distinct_of_readNumber {t rest : Text} {v : Value} (h : readNumber t = .ok (v, rest)) :
    v.Distinct := by
  rw [readNumber] at h
  split at h
  · next hb =>
    cases h
    exact distinct_of_readBased? hb
  split at h
  · next hd =>
    rw [h] at hd
    exact distinct_of_readDecimal? hd
  split at h
  · next hn =>
    cases h
    exact distinct_of_readNotFinite? hn
  · cases h

lemma distinct_of_readMoment? {t rest : Text} {v : Value}
    (h : readMoment? t = some (.ok (v, rest))) : v.Distinct := by
  rw [readMoment?] at h
  split at h
  · cases h
    exact .moment _
  · cases h
  · obtain ⟨rest, -, hr⟩ := Option.map_eq_some_iff.mp h
    cases hr
    exact .moment _

/-- What is read with some fuel has different keys. -/
structure ReadsDistinct (fuel : Nat) : Prop where
  value : ∀ {t v rest}, readValue fuel t = .ok (v, rest) → v.Distinct
  items : ∀ {t vs rest}, readItems fuel t = .ok (vs, rest) → ∀ v ∈ vs, v.Distinct
  members : ∀ {ms marks t ms' rest}, Table.Distinct ms →
    readMembers fuel ms marks t = .ok (ms', rest) → Table.Distinct ms'

namespace ReadsDistinct

variable {fuel : Nat} (ih : ReadsDistinct fuel)

include ih

lemma value_succ {t : Text} {v : Value} {rest : Text}
    (h : readValue (fuel + 1) t = .ok (v, rest)) : v.Distinct := by
  unfold readValue at h
  dsimp only at h
  split at h
  · obtain ⟨s, -, h⟩ := Except.exists_of_bind_eq_ok h
    cases h
    exact .string _
  split at h
  · cases h
    exact .boolean _
  · cases h
    exact .boolean _
  split at h
  · obtain ⟨t', -, h⟩ := Except.exists_of_bind_eq_ok h
    split at h
    · cases h
      exact .array (List.forall_mem_nil _)
    · obtain ⟨⟨vs, rest'⟩, hvs, h⟩ := Except.exists_of_bind_eq_ok h
      cases h
      exact .array (ih.items hvs)
  · split at h
    · cases h
      exact Table.Distinct.nil.toValue
    · obtain ⟨⟨ms, rest'⟩, hms, h⟩ := Except.exists_of_bind_eq_ok h
      cases h
      exact (ih.members .nil hms).toValue
  · split at h
    · next hm =>
      rw [h] at hm
      exact distinct_of_readMoment? hm
    · exact distinct_of_readNumber h

lemma items_succ {t : Text} {vs : List Value} {rest : Text}
    (h : readItems (fuel + 1) t = .ok (vs, rest)) : ∀ v ∈ vs, v.Distinct := by
  rw [readItems] at h
  obtain ⟨⟨v, t'⟩, hv, h⟩ := Except.exists_of_bind_eq_ok h
  have hv := ih.value hv
  obtain ⟨t', -, h⟩ := Except.exists_of_bind_eq_ok h
  split at h
  · cases h
    exact List.forall_mem_singleton.mpr hv
  · obtain ⟨t', -, h⟩ := Except.exists_of_bind_eq_ok h
    split at h
    · cases h
      exact List.forall_mem_singleton.mpr hv
    · obtain ⟨⟨vs', t'⟩, hvs, h⟩ := Except.exists_of_bind_eq_ok h
      cases h
      exact List.forall_mem_cons.mpr ⟨hv, ih.items hvs⟩
  · cases h

lemma members_succ {ms ms' : Table} {marks : Marks} {t rest : Text} (hd : Table.Distinct ms)
    (h : readMembers (fuel + 1) ms marks t = .ok (ms', rest)) : Table.Distinct ms' := by
  rw [readMembers] at h
  obtain ⟨⟨key, t'⟩, -, h⟩ := Except.exists_of_bind_eq_ok h
  dsimp only at h
  split at h
  · obtain ⟨⟨v, t'⟩, hv, h⟩ := Except.exists_of_bind_eq_ok h
    have hv := ih.value hv
    dsimp only at h
    split at h
    · cases h
    split at h
    · cases h
    · next hu =>
      have hd := hd.update (fun hd ha => hd.add hv ha) hu
      split at h
      · cases h
        exact hd
      · exact ih.members hd h
      · cases h
  · cases h

end ReadsDistinct

lemma readsDistinct (fuel : Nat) : ReadsDistinct fuel := by
  induction fuel with
  | zero =>
    refine ⟨fun h => ?_, fun h => ?_, fun _ h => ?_⟩
    · rw [readValue] at h
      cases h
    · rw [readItems] at h
      cases h
    · rw [readMembers] at h
      cases h
  | succ fuel ih => exact ⟨ih.value_succ, ih.items_succ, ih.members_succ⟩

/-! ### Reading statements -/

namespace Progress

variable {p p' : Progress} {k : Key} {t rest : Text}

lemma distinct_of_openTable (hd : Table.Distinct p.root) (h : p.openTable k = .ok p') :
    Table.Distinct p'.root := by
  rw [openTable] at h
  split at h
  · cases h
  split at h
  · next hu =>
    cases h
    refine hd.update (fun hd hf => ?_) hu
    cases hf
    exact hd
  · cases h

lemma distinct_of_openItem (hd : Table.Distinct p.root) (h : p.openItem k = .ok p') :
    Table.Distinct p'.root := by
  rw [openItem] at h
  dsimp only at h
  split at h
  · cases h
  split at h
  · next hu =>
    cases h
    exact hd.update (fun hd hp => hd.push hp) hu
  · cases h

lemma distinct_of_addMember {v : Value} (hd : Table.Distinct p.root) (hv : v.Distinct)
    (h : p.addMember k v = .ok p') : Table.Distinct p'.root := by
  rw [addMember] at h
  dsimp only at h
  split at h
  · cases h
  split at h
  · cases h
  · next hu =>
    cases h
    exact hd.update (fun hd ha => hd.add hv ha) hu

lemma distinct_of_readStatement (hd : Table.Distinct p.root)
    (h : p.readStatement t = .ok (p', rest)) : Table.Distinct p'.root := by
  rw [readStatement.eq_def] at h
  split at h
  · obtain ⟨⟨key, t'⟩, -, h⟩ := Except.exists_of_bind_eq_ok h
    obtain ⟨q, hq, h⟩ := Except.exists_of_bind_eq_ok h
    have hq := distinct_of_openItem hd hq
    split at h <;> cases h
    exact hq
  · obtain ⟨⟨key, t'⟩, -, h⟩ := Except.exists_of_bind_eq_ok h
    obtain ⟨q, hq, h⟩ := Except.exists_of_bind_eq_ok h
    have hq := distinct_of_openTable hd hq
    split at h <;> cases h
    exact hq
  · obtain ⟨⟨key, t'⟩, -, h⟩ := Except.exists_of_bind_eq_ok h
    dsimp only at h
    split at h
    · obtain ⟨⟨v, t'⟩, hv, h⟩ := Except.exists_of_bind_eq_ok h
      obtain ⟨q, hq, h⟩ := Except.exists_of_bind_eq_ok h
      cases h
      exact distinct_of_addMember hd ((readsDistinct _).value hv) hq
    · cases h

lemma distinct_of_readLines {fuel : Nat} (hd : Table.Distinct p.root)
    (h : p.readLines fuel t = .ok p') : Table.Distinct p'.root := by
  induction fuel generalizing p t with
  | zero =>
    rw [readLines] at h
    cases h
    exact hd
  | succ fuel ih =>
    rw [readLines] at h
    split at h
    · cases h
      exact hd
    · exact ih hd h
    · dsimp only at h
      split at h <;> obtain ⟨⟨q, t'⟩, hq, h⟩ := Except.exists_of_bind_eq_ok h
      on_goal 1 => cases hq
      on_goal 2 => replace hd := distinct_of_readStatement hd hq
      -- the end of a line is read alike whether a statement stands before it or not
      all_goals
        obtain ⟨t', -, h⟩ := Except.exists_of_bind_eq_ok h
        split at h
        · cases h
          exact hd
        · exact ih hd h
        · cases h

end Progress

/-- The table of a document has different keys, and so has every table in it. -/
lemma distinct_of_read {t : Text} {table : Table} (h : read t = .ok table) :
    Table.Distinct table := by
  rw [read] at h
  obtain ⟨p, hp, h⟩ := Except.exists_of_bind_eq_ok h
  cases h
  exact Progress.distinct_of_readLines (p := .start) .nil hp

end Toml

end ScriptLint
