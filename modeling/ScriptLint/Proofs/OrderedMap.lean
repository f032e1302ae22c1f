import Mathlib.Data.List.Induction
import Mathlib.Tactic.Common
import ScriptLint.OrderedMap

/-!
# Keys and values of ordered maps

Putting entries one after another leaves the keys in the order in which they first came, and gives
each key the value that came last.
-/

namespace ScriptLint

variable {κ α ι : Type}

/-! ### Lists without duplicates -/

section EraseDups

variable [BEq κ] [LawfulBEq κ] {as bs : List κ} {a : κ}

lemma eraseDups_of_nodup (h : as.Nodup) : as.eraseDups = as := by
  induction as with
  | nil => exact List.eraseDups_nil
  | cons a as ih =>
    obtain ⟨ha, has⟩ := List.nodup_cons.mp h
    have hf : as.filter (fun b => !b == a) = as := by
      rw [List.filter_eq_self]
      intro b hb
      have hne : b ≠ a := fun e => ha (e ▸ hb)
      simp [hne]
    rw [List.eraseDups_cons, hf, ih has]

/-- What is there already adds nothing. -/
lemma eraseDups_append_cons (h : a ∈ as) : (as ++ a :: bs).eraseDups = (as ++ bs).eraseDups := by
  rw [List.eraseDups_append, List.eraseDups_append]
  simp [List.removeAll, h]

lemma eraseDups_concat (as : List κ) (a : κ) :
    (as ++ [a]).eraseDups = if a ∈ as then as.eraseDups else as.eraseDups ++ [a] := by
  rw [List.eraseDups_append]
  by_cases h : a ∈ as
  · simp [List.removeAll, h]
  · simp [List.removeAll, h, List.eraseDups_cons]

lemma nodup_eraseDups (as : List κ) : as.eraseDups.Nodup := by
  induction as using List.reverseRecOn with
  | nil => exact List.nodup_nil
  | append_singleton as a ih =>
    rw [eraseDups_concat]
    split_ifs with h
    · exact ih
    · rw [List.nodup_append]
      refine ⟨ih, by simp, ?_⟩
      rintro b hb _ hc rfl
      rw [List.mem_singleton.mp hc] at hb
      exact h (List.mem_eraseDups.mp hb)

lemma eraseDups_filter (p : κ → Bool) (as : List κ) :
    (as.filter p).eraseDups = as.eraseDups.filter p := by
  induction as using List.reverseRecOn with
  | nil => rfl
  | append_singleton as a ih =>
    rw [eraseDups_concat, List.filter_append]
    by_cases hp : p a = true
    · have hm : a ∈ as.filter p ↔ a ∈ as := by simp [hp]
      rw [List.filter_cons_of_pos hp, List.filter_nil, eraseDups_concat, ih]
      by_cases ha : a ∈ as
      · rw [if_pos (hm.mpr ha), if_pos ha]
      · rw [if_neg (mt hm.mp ha), if_neg ha, List.filter_append, List.filter_cons_of_pos hp,
          List.filter_nil]
    · rw [List.filter_cons_of_neg hp, List.filter_nil, List.append_nil, ih]
      split_ifs
      · rfl
      · rw [List.filter_append, List.filter_cons_of_neg hp, List.filter_nil, List.append_nil]

/-- Duplicates may be left out before they are looked for. -/
lemma eraseDups_append_eraseDups (as bs : List κ) :
    (as ++ bs.eraseDups).eraseDups = (as ++ bs).eraseDups := by
  rw [List.eraseDups_append, List.eraseDups_append, List.removeAll, List.removeAll,
    eraseDups_filter, eraseDups_of_nodup (nodup_eraseDups _), ← eraseDups_filter]

lemma eraseDups_eraseDups_append (as bs : List κ) :
    (as.eraseDups ++ bs).eraseDups = (as ++ bs).eraseDups := by
  have hr : bs.removeAll as.eraseDups = bs.removeAll as := by
    apply List.filter_congr
    intro b _
    simp [List.mem_eraseDups]
  rw [List.eraseDups_append, List.eraseDups_append, eraseDups_of_nodup (nodup_eraseDups _), hr]

end EraseDups

variable [DecidableEq κ]

namespace Entries

lemma keys_putAll [BEq κ] [LawfulBEq κ] {es : List (κ × α)} (h : (keys es).Nodup)
    (new : List (κ × α)) :
    keys (putAll es new) = (keys es ++ keys new).eraseDups := by
  induction new generalizing es with
  | nil => exact ((congrArg List.eraseDups (List.append_nil _)).trans (eraseDups_of_nodup h)).symm
  | cons e new ih =>
    rw [putAll, List.foldl_cons, ← putAll, ih (nodup_keys_put h e.1 e.2), keys_put]
    split_ifs with hm
    · exact (eraseDups_append_cons hm).symm
    · rw [List.append_assoc]
      rfl

/-- A key has the value that was put last, or else the one it had. -/
lemma get?_putAll_reverse (k : κ) (es new : List (κ × α)) :
    get? k (putAll es new) = (get? k new.reverse).or (get? k es) := by
  induction new using List.reverseRecOn with
  | nil => rfl
  | append_singleton new e ih =>
    have hput : putAll es (new ++ [e]) = put e.1 e.2 (putAll es new) := List.foldl_append
    rw [hput, get?_put, ih, List.reverse_append, List.reverse_singleton, List.singleton_append,
      get?_cons]
    split_ifs <;> rfl

lemma get?_ofList (k : κ) (new : List (κ × α)) : get? k (ofList new) = get? k new.reverse := by
  rw [ofList, get?_putAll_reverse]
  exact Option.or_none

lemma mem_of_get? {k : κ} {v : α} {es : List (κ × α)} (h : get? k es = some v) : (k, v) ∈ es := by
  induction es with
  | nil => cases h
  | cons e es ih =>
    obtain ⟨k', v'⟩ := e
    rw [get?_cons] at h
    split at h
    · next hk =>
      cases h
      rw [hk]
      exact List.mem_cons_self
    · exact List.mem_cons_of_mem _ (ih h)

lemma mem_put {k : κ} {v : α} {es : List (κ × α)} {e : κ × α} (h : e ∈ put k v es) :
    e = (k, v) ∨ e ∈ es := by
  induction es with
  | nil => exact .inl (List.mem_singleton.mp h)
  | cons e' es ih =>
    obtain ⟨k', v'⟩ := e'
    rw [put_cons] at h
    split at h
    · next hk =>
      rw [hk] at h
      exact (List.mem_cons.mp h).imp_right fun h => List.mem_cons_of_mem _ h
    · obtain rfl | h := List.mem_cons.mp h
      · exact .inr List.mem_cons_self
      · exact (ih h).imp_right fun h => List.mem_cons_of_mem _ h

lemma mem_putAll {es new : List (κ × α)} {e : κ × α} (h : e ∈ putAll es new) :
    e ∈ es ∨ e ∈ new := by
  induction new generalizing es with
  | nil => exact .inl h
  | cons e' new ih =>
    obtain h | h := ih h
    · obtain rfl | h := mem_put h
      · exact .inr List.mem_cons_self
      · exact .inl h
    · exact .inr (List.mem_cons_of_mem _ h)

lemma mem_ofList {new : List (κ × α)} {e : κ × α} (h : e ∈ ofList new) : e ∈ new :=
  (mem_putAll h).resolve_left List.not_mem_nil

/-- Where entries are made of the items of a list, a key has the value of the first item that has
the key. -/
lemma get?_map (k : κ) (key : ι → κ) (value : ι → α) (items : List ι) :
    get? k (items.map fun x => (key x, value x)) = (items.find? fun x => key x = k).map value := by
  induction items with
  | nil => rfl
  | cons x items ih =>
    rw [List.map_cons, get?_cons, List.find?_cons, ih]
    by_cases h : key x = k <;> simp [h]

section FilterMap

variable {β : Type} (g : κ → α → Option β)

end FilterMap

end Entries

namespace OrderedMap

lemma keys_union [BEq κ] [LawfulBEq κ] (m n : OrderedMap κ α) :
    Entries.keys (m.union n).entries = (Entries.keys m.entries ++ Entries.keys n.entries).eraseDups :=
  Entries.keys_putAll m.distinct n.entries

lemma keys_ofList [BEq κ] [LawfulBEq κ] (new : List (κ × α)) :
    Entries.keys (ofList new).entries = (Entries.keys new).eraseDups := by
  have h : (Entries.keys ([] : List (κ × α))).Nodup := List.nodup_nil
  exact Entries.keys_putAll h new

/-- The keys of the map of a list with the entries of another list put into it. -/
lemma keys_union_ofList [BEq κ] [LawfulBEq κ] (own new : List (κ × α)) :
    Entries.keys ((ofList own).union (ofList new)).entries
      = (Entries.keys own ++ Entries.keys new).eraseDups := by
  rw [keys_union, keys_ofList, keys_ofList, eraseDups_append_eraseDups, eraseDups_eraseDups_append]

lemma get?_ofList (k : κ) (new : List (κ × α)) :
    (ofList new).get? k = Entries.get? k new.reverse :=
  Entries.get?_ofList k new

end OrderedMap

end ScriptLint
