/-!
# Ordered maps

A map keeps its keys in the order in which they first came. A new value for a key that is there
takes the place of the old one; a new key goes to the end.
-/

namespace ScriptLint

variable {κ α : Type}

namespace Entries

/-- Put a value under a key: in the place of the first key that is the same, or else at the end. -/
def putBy (same : κ → κ → Bool) (k : κ) (v : α) : List (κ × α) → List (κ × α)
  | [] => [(k, v)]
  | (k', v') :: es => if same k' k then (k', v) :: es else (k', v') :: putBy same k v es

variable [DecidableEq κ]

def put (k : κ) (v : α) (es : List (κ × α)) : List (κ × α) := putBy (fun a b => a = b) k v es

def get? (k : κ) : List (κ × α) → Option α
  | [] => none
  | (k', v) :: es => if k' = k then some v else get? k es

/-- Put every entry of a list into `es`, from the first on. -/
def putAll (es new : List (κ × α)) : List (κ × α) := new.foldl (fun es e => put e.1 e.2 es) es

/-- The entries of a list in which a later entry for a key replaces the earlier value. -/
def ofList (new : List (κ × α)) : List (κ × α) := putAll [] new

def keys (es : List (κ × α)) : List κ := es.map Prod.fst

@[simp] theorem put_nil (k : κ) (v : α) : put k v [] = [(k, v)] := rfl

theorem put_cons (k k' : κ) (v v' : α) (es : List (κ × α)) :
    put k v ((k', v') :: es) = if k' = k then (k', v) :: es else (k', v') :: put k v es := by
  simp [put, putBy]

/-- Putting a value keeps the keys, or adds the key at the end. -/
theorem keys_put (k : κ) (v : α) (es : List (κ × α)) :
    keys (put k v es) = if k ∈ keys es then keys es else keys es ++ [k] := by
  induction es with
  | nil => simp [keys]
  | cons e es ih =>
    obtain ⟨k', v'⟩ := e
    by_cases h : k' = k
    · simp [put_cons, keys, h]
    · have hne : ¬ k = k' := fun e => h e.symm
      simp only [put_cons, h, if_false, keys, List.map_cons, List.mem_cons, hne, false_or] at ih ⊢
      rw [ih]
      split <;> simp_all

theorem nodup_keys_put {es : List (κ × α)} (h : (keys es).Nodup) (k : κ) (v : α) :
    (keys (put k v es)).Nodup := by
  rw [keys_put]
  split
  · exact h
  · rename_i hk
    rw [List.nodup_append]
    refine ⟨h, by simp, ?_⟩
    intro a ha b hb
    rw [List.mem_singleton] at hb
    exact fun e => hk (hb ▸ e ▸ ha)

theorem nodup_keys_putAll (new : List (κ × α)) {es : List (κ × α)} (h : (keys es).Nodup) :
    (keys (putAll es new)).Nodup := by
  induction new generalizing es with
  | nil => exact h
  | cons e new ih => exact ih (nodup_keys_put h e.1 e.2)

theorem put_of_notMem {k : κ} {es : List (κ × α)} (h : k ∉ keys es) (v : α) :
    put k v es = es ++ [(k, v)] := by
  induction es with
  | nil => rfl
  | cons e es ih =>
    rw [keys, List.map_cons, List.mem_cons, not_or] at h
    rw [put_cons, if_neg fun hk => h.1 hk.symm, ih h.2, List.cons_append]

theorem putAll_of_nodup {es new : List (κ × α)} (h : (keys (es ++ new)).Nodup) :
    putAll es new = es ++ new := by
  induction new generalizing es with
  | nil => rw [List.append_nil]; rfl
  | cons e new ih =>
    have hk : e.1 ∉ keys es := by
      rw [keys, List.map_append, List.nodup_append] at h
      exact fun hm => h.2.2 e.1 hm e.1 List.mem_cons_self rfl
    rw [List.append_cons] at h ⊢
    rw [putAll, List.foldl_cons, put_of_notMem hk]
    exact ih h

/-- Entries with different keys stay as they are. -/
theorem ofList_of_nodup {es : List (κ × α)} (h : (keys es).Nodup) : ofList es = es :=
  putAll_of_nodup h

@[simp] theorem get?_nil (k : κ) : get? k ([] : List (κ × α)) = none := rfl

theorem get?_cons (k k' : κ) (v : α) (es : List (κ × α)) :
    get? k ((k', v) :: es) = if k' = k then some v else get? k es := rfl

theorem get?_eq_none {k : κ} {es : List (κ × α)} (h : k ∉ keys es) : get? k es = none := by
  induction es with
  | nil => rfl
  | cons e es ih =>
    rw [keys, List.map_cons, List.mem_cons, not_or] at h
    rw [get?_cons, if_neg fun hk => h.1 hk.symm]
    exact ih h.2

theorem get?_put (k k' : κ) (v : α) (es : List (κ × α)) :
    get? k (put k' v es) = if k' = k then some v else get? k es := by
  induction es with
  | nil => rfl
  | cons e es ih =>
    obtain ⟨k'', v''⟩ := e
    rw [put_cons]
    by_cases h : k'' = k'
    · subst h
      simp only [if_true, get?_cons]
      split <;> rfl
    · by_cases hk : k' = k
      · subst hk
        simp only [if_neg h, get?_cons, ih, if_true]
      · simp only [if_neg h, get?_cons, ih, if_neg hk]

/-- A key of the new entries has its new value, any other key the value that it had. -/
theorem get?_putAll {new : List (κ × α)} (h : (keys new).Nodup) (k : κ) (es : List (κ × α)) :
    get? k (putAll es new) = (get? k new).or (get? k es) := by
  induction new generalizing es with
  | nil => rfl
  | cons e new ih =>
    obtain ⟨k', v⟩ := e
    rw [keys, List.map_cons, List.nodup_cons] at h
    rw [putAll, List.foldl_cons, ← putAll, ih h.2, get?_put, get?_cons]
    by_cases hk : k' = k
    · subst hk
      simp [get?_eq_none h.1]
    · simp [hk]

end Entries

/-- A map that keeps the order of its keys. -/
structure OrderedMap (κ α : Type) where
  entries : List (κ × α)
  distinct : (Entries.keys entries).Nodup

namespace OrderedMap

variable [DecidableEq κ]

def empty : OrderedMap κ α := ⟨[], List.nodup_nil⟩

def get? (m : OrderedMap κ α) (k : κ) : Option α := Entries.get? k m.entries

/-- The map with all entries of a list put into it, from the first on. -/
def insertAll (m : OrderedMap κ α) (new : List (κ × α)) : OrderedMap κ α :=
  ⟨Entries.putAll m.entries new, Entries.nodup_keys_putAll new m.distinct⟩

/-- The map of a list of entries; a later entry for a key replaces the earlier value. -/
def ofList (new : List (κ × α)) : OrderedMap κ α := empty.insertAll new

/-- The map with the entries of another put into it. -/
def union (m n : OrderedMap κ α) : OrderedMap κ α := m.insertAll n.entries

theorem get?_union (m n : OrderedMap κ α) (k : κ) :
    (m.union n).get? k = (n.get? k).or (m.get? k) :=
  Entries.get?_putAll n.distinct k m.entries

@[simp] theorem ofList_entries (m : OrderedMap κ α) : ofList m.entries = m := by
  obtain ⟨entries, distinct⟩ := m
  simp only [ofList, insertAll, mk.injEq]
  exact Entries.ofList_of_nodup distinct

end OrderedMap

end ScriptLint
