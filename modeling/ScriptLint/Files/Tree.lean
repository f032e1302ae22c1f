import ScriptLint.Files.Error
import ScriptLint.Files.Path

/-!
# Trees of files

A tree gives every location, the list of names that leads to it from the root, at most one entry.
Following a path resolves links as it goes and gives up after forty of them; `..` is the parent of
the directory that has been reached, not of the name before it.
-/

namespace ScriptLint

/-- What is at a location. -/
inductive Entry
  | file (content : List Byte)
  | link (target : Text)
  | directory
  deriving DecidableEq

/-- The names that lead to an entry from the root, none of them a link. -/
abbrev Location := List Text

/-- The entries of a tree but for its root, which is a directory. -/
structure FileTree where
  entries : List (Location × Entry)

namespace FileTree

def find? (t : FileTree) (place : Location) : Option Entry :=
  if place = [] then some .directory
  else (t.entries.find? fun e => e.1 = place).map (·.2)

def put (t : FileTree) (place : Location) (e : Entry) : FileTree :=
  ⟨(t.entries.filter fun e => e.1 ≠ place) ++ [(place, e)]⟩

/-- How many links a path may lead through. -/
def maxLinks : Nat := 40

/-- How many octets a name may have. -/
def maxName : Nat := 255

/-- How many octets a path has at least that is too long. -/
def maxPath : Nat := 4096

/-- Where a link leads from a directory: the names to follow, and where to start. A slash at the
end asks for a directory, as the name `.` does. -/
def target (base : Location) (t : Text) : Location × List Text :=
  let pieces := Text.splitAt Path.slash t
  let names := pieces.filter (· ≠ [])
  let names := if pieces.getLast? = some [] && pieces.length > 1 then names ++ [Path.dot] else names
  (if t.head? = some Path.slash then [] else base, names)

/-- Follow names from a directory, handing the names of a link to `follow`. A final name may be
missing: then its location is given without an entry. -/
def walkWith (t : FileTree)
    (follow : Location → List Text → Except FileFault (Location × Option Entry)) :
    Location → List Text → Except FileFault (Location × Option Entry)
  | base, [] => .ok (base, some .directory)
  | base, name :: rest =>
    if name = Path.dot then walkWith t follow base rest
    else if name = Path.dotDot then walkWith t follow base.dropLast rest
    else if maxName < Utf8.byteLength name then .error .nameTooLong
    else
      let here := base ++ [name]
      match t.find? here with
      | none => if rest = [] then .ok (here, none) else .error .missing
      | some .directory => walkWith t follow here rest
      | some (.link text) =>
        let (base, names) := target base text
        follow base (names ++ rest)
      | some (.file content) =>
        if rest = [] then .ok (here, some (.file content)) else .error .notDirectory

/-- Follow names from a directory through at most so many links. -/
def walk (t : FileTree) : (links : Nat) → Location → List Text →
    Except FileFault (Location × Option Entry)
  | 0 => t.walkWith fun _ _ => .error .tooManyLinks
  | links + 1 => t.walkWith (t.walk links)

/-- What a path from a directory leads to: the location after all links, and its entry, which is
no link, or none if only the last name is missing. -/
def reach (t : FileTree) (base : Location) (names : List Text) :
    Except FileFault (Location × Option Entry) := t.walk maxLinks base names

/-- The tree with a directory made at a path, whose last name must be new. -/
def makeDirectory (t : FileTree) (base : Location) (names : List Text) :
    Except FileFault FileTree :=
  match names.getLast? with
  | none => .error .exists
  | some name => do
    match ← t.reach base names.dropLast with
    | (_, none) => .error .missing
    | (_, some (.file _)) => .error .notDirectory
    | (here, some _) =>
      if name = Path.dotDot then .error .exists
      else if maxName < Utf8.byteLength name then .error .nameTooLong
      else if (t.find? (here ++ [name])).isSome then .error .exists
      else .ok (t.put (here ++ [name]) .directory)

/-- Resolve every link of a path that can be resolved, whether or not it leads to an entry, and
give up where a link leads back to itself. `opened` are the links that are being resolved. -/
def resolveWith (t : FileTree) (opened : List Location)
    (follow : List Location → Location → List Text → Except (List Text) Location) :
    Location → List Text → Except (List Text) Location
  | base, [] => .ok base
  | base, name :: rest =>
    if name = Path.dot then resolveWith t opened follow base rest
    else if name = Path.dotDot then resolveWith t opened follow base.dropLast rest
    else
      let here := base ++ [name]
      match t.find? here with
      | some (.link text) =>
        if opened.contains here then .error (here ++ rest)
        else
          let (base, names) := target base text
          match follow (here :: opened) base names with
          | .ok base    => resolveWith t opened follow base rest
          | .error loop => .error (loop ++ rest)
      | _ => resolveWith t opened follow here rest

/-- Resolve a path within so many nested links. -/
def resolve (t : FileTree) : (fuel : Nat) → List Location → Location → List Text →
    Except (List Text) Location
  | 0, _ => fun base names => .error (base ++ names)
  | fuel + 1, opened => t.resolveWith opened (t.resolve fuel)

end FileTree

end ScriptLint
