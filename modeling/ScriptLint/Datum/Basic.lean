import ScriptLint.Files.Path
import ScriptLint.Number.Layout
import ScriptLint.Number.Written
import ScriptLint.OrderedMap
import ScriptLint.Text.Quoted

/-!
# Values from callers

What a caller passes before anything is known of its shape: options, settings, the fields of a
diagnostic, a value to be bound in an interpreter. The keys of a mapping are values themselves,
and numbers of one size are one key, whatever their kind.
-/

namespace ScriptLint

/-- A value from a caller. -/
inductive Datum
  | null
  | bool (b : Bool)
  | int (n : Int)
  | float (x : Binary64)
  | text (t : Text)
  /-- Octets, which a check may take for the text that they encode. -/
  | bytes (content : List Byte)
  | list (items : List Datum)
  | tuple (items : List Datum)
  | mapping (members : List (Datum × Datum))
  | path (p : Path)
  /-- A list that holds itself. -/
  | circular
  /-- A value of a type that no check accepts. -/
  | foreign (typeName : Text)
  deriving Inhabited

namespace Datum

def typeName : Datum → Text
  | .null         => "NoneType"
  | .bool _       => "bool"
  | .int _        => "int"
  | .float _      => "float"
  | .text _       => "str"
  | .bytes _      => "bytes"
  | .list _       => "list"
  | .tuple _      => "tuple"
  | .mapping _    => "dict"
  | .path _       => "PosixPath"
  | .circular     => "list"
  | .foreign name => name

/-- Whether a value counts as true: zeros and empty values do not. -/
def truth : Datum → Bool
  | .null       => false
  | .bool b     => b
  | .int n      => n ≠ 0
  | .float x    => !x.isZero
  | .text t     => t ≠ []
  | .bytes b    => !b.isEmpty
  | .list items => !items.isEmpty
  | .tuple items => !items.isEmpty
  | .mapping ms => !ms.isEmpty
  | .path _ | .circular | .foreign _ => true

mutual

/-- How a value is shown within another, unless it holds an integer that cannot be written. -/
def shown? : Datum → Option Text
  | .null         => some "None"
  | .bool true    => some "True"
  | .bool false   => some "False"
  | .int n        => Text.ofInt? n
  | .float x      => some (x.text Binary64.inMessages)
  | .text t       => some (Text.quoted t)
  | .bytes b      => some (Text.quotedBytes b)
  | .list items   => (shownItems? items).map fun vs => "[" ++ Text.join ", " vs ++ "]"
  | .tuple items  =>
    (shownItems? items).map fun
      | [v] => "(" ++ v ++ ",)"
      | vs  => "(" ++ Text.join ", " vs ++ ")"
  | .mapping ms   => (shownMembers? ms).map fun ms => "\x7b" ++ Text.join ", " ms ++ "\x7d"
  | .path p       => some ("PosixPath(" ++ Text.quoted p.text ++ ")")
  | .circular     => some "[[...]]"
  | .foreign name => some ("<" ++ name ++ ">")

def shownItems? : List Datum → Option (List Text)
  | []      => some []
  | v :: vs => do
    let v ← v.shown?
    let vs ← shownItems? vs
    return v :: vs

def shownMembers? : List (Datum × Datum) → Option (List Text)
  | []           => some []
  | (k, v) :: ms => do
    let k ← k.shown?
    let v ← v.shown?
    let ms ← shownMembers? ms
    return (k ++ ": " ++ v) :: ms

end

/-- A value as a text: texts and paths as they are, all else as shown. -/
def display? : Datum → Option Text
  | .text t => some t
  | .path p => some p.text
  | v       => v.shown?

/-- How a key is named in a location. -/
def label : Datum → Text
  | .text t => t
  | v       => v.shown?.getD ("<unprintable " ++ v.typeName ++ " object>")

/-- The integer that a value equals, if it is a number. -/
def integer? : Datum → Option Int
  | .bool b  => some (if b then 1 else 0)
  | .int n   => some n
  | .float x => x.toInt?
  | _        => none

mutual

/-- Whether two values are one key. -/
def sameKey : Datum → Datum → Bool
  | .null, .null           => true
  | .text t, .text u       => t = u
  | .bytes b, .bytes c     => b = c
  | .path p, .path q       => p = q
  | .tuple vs, .tuple ws   => sameKeys vs ws
  | .float x, .float y     => x ≠ .nan && (x = y || (x.isZero && y.isZero))
  | .bool b, w             => some (if b then 1 else 0 : Int) = w.integer?
  | .int n, w              => some n = w.integer?
  | .float x, .int n       => x.toInt? = some n
  | .float x, .bool b      => x.toInt? = some (if b then 1 else 0 : Int)
  | _, _                   => false

/-- Whether two lists are keys in pairs. -/
def sameKeys : List Datum → List Datum → Bool
  | [], []           => true
  | v :: vs, w :: ws => sameKey v w && sameKeys vs ws
  | _, _             => false

end

/-- Members with new ones put into them, from the first on; a new member of a key that is there
replaces the value. -/
def putMembers (own new : List (Datum × Datum)) : List (Datum × Datum) :=
  new.foldl (fun ms m => Entries.putBy sameKey m.1 m.2 ms) own

/-- The mapping of a list of members; a later member of one key replaces the value of the earlier
one. -/
def ofMembers (ms : List (Datum × Datum)) : Datum := .mapping (putMembers [] ms)

end Datum

end ScriptLint
