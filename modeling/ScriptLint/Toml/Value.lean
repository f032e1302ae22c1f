import ScriptLint.Datum.Basic

/-!
# TOML values

The values of a TOML document, and how a table is changed deep inside: along a path of keys,
tables that are not there yet are made, and an array of tables stands for its last one.
-/

namespace ScriptLint.Toml

/-- A TOML value. Dates and times are kept as they are written. -/
inductive Value
  | string (t : Text)
  | integer (n : Int)
  | float (x : Binary64)
  | boolean (b : Bool)
  | moment (t : Text)
  | array (items : List Value)
  | table (members : List (Text × Value))
  deriving Inhabited

/-- The members of a table. -/
abbrev Table := List (Text × Value)

/-- A dotted key. -/
abbrev Key := List Text

/-- Change the table at a path, or give none if something else is in the way. Arrays are entered
only if `arrays` says so. -/
def Table.update? (arrays : Bool) (f : Table → Option Table) : Key → Table → Option Table
  | [], ms => f ms
  | k :: ks, ms =>
    match Entries.get? k ms with
    | none => do return Entries.put k (.table (← update? arrays f ks [])) ms
    | some (.table inner) => do return Entries.put k (.table (← update? arrays f ks inner)) ms
    | some (.array items) =>
      match arrays, items.getLast? with
      | true, some (.table inner) => do
        return Entries.put k (.array (items.dropLast ++ [.table (← update? arrays f ks inner)])) ms
      | _, _ => none
    | some _ => none

/-- Add a member that is not there yet. -/
def Table.add? (k : Text) (v : Value) (ms : Table) : Option Table :=
  if (Entries.get? k ms).isSome then none else some (Entries.put k v ms)

/-- Add an empty table to the array of tables under a key, which is made if it is not there. -/
def Table.push? (k : Text) (ms : Table) : Option Table :=
  match Entries.get? k ms with
  | none => some (Entries.put k (.array [.table []]) ms)
  | some (.array items) => some (Entries.put k (.array (items ++ [.table []])) ms)
  | some _ => none

mutual

/-- A value as a caller would pass it. -/
def Value.toDatum : Value → Datum
  | .string t  => .text t
  | .integer n => .int n
  | .float x   => .float x
  | .boolean b => .bool b
  | .moment _  => .foreign "datetime"
  | .array vs  => .list (itemsToDatum vs)
  | .table ms  => .mapping (membersToDatum ms)

/-- Values as a caller would pass them. -/
def itemsToDatum : List Value → List Datum
  | []      => []
  | v :: vs => v.toDatum :: itemsToDatum vs

/-- The members of a table as a caller would pass them. -/
def membersToDatum : List (Text × Value) → List (Datum × Datum)
  | []           => []
  | (k, v) :: ms => (.text k, v.toDatum) :: membersToDatum ms

end

end ScriptLint.Toml
