import ScriptLint.Datum.Basic

/-!
# Linter options

A caller gives options as a mapping, which is taken as it comes: a name is the text of its key, and
an option is on if its value counts as true.
-/

namespace ScriptLint

/-- Which options of a linter are on, by name. -/
abbrev Options := OrderedMap Text Bool

namespace Options

/-- The members of a mapping of options that a caller gives. -/
abbrev Given := List (Datum × Datum)

/-- The options among given ones, unless a name holds an integer that cannot be written. Of members
with one name the last value counts. -/
def ofGiven? (given : Given) : Option Options := do
  let named ← given.mapM fun m => m.1.display?.map fun name => (name, m.2.truth)
  return .ofList named

/-- The options as a caller would give them. -/
def given (o : Options) : Given := o.entries.map fun e => (.text e.1, .bool e.2)

instance : Coe Options Given := ⟨given⟩

@[simp] theorem ofGiven?_given (o : Options) : ofGiven? o.given = some o := by
  have h : o.given.mapM (fun m => m.1.display?.map fun name => (name, m.2.truth))
      = some o.entries := by
    rw [given]
    induction o.entries with
    | nil => rfl
    | cons e es ih => rw [List.map_cons, List.mapM_cons, ih]; rfl
  rw [ofGiven?, h]
  exact congrArg some (OrderedMap.ofList_entries o)

end Options

end ScriptLint
