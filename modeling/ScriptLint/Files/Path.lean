import ScriptLint.Text.Basic

/-!
# Paths

A path is read in a normal form: repeated slashes, a slash at the end and the name `.` are
dropped, while `..` stays, since it may lead through a link. Exactly two slashes at the front are
kept apart from one.
-/

namespace ScriptLint

/-- Where a path starts: at the current directory, or at the root, written in one of two ways. -/
inductive Root
  | current
  | slash
  | doubleSlash
  deriving DecidableEq

/-- A path: where it starts, and the names to follow from there. -/
structure Path where
  root : Root
  names : List Text
  deriving DecidableEq

namespace Path

def slash : CodePoint := '/'

/-- The name of the directory itself. -/
def dot : Text := "."

/-- The name of the parent directory. -/
def dotDot : Text := ".."

/-- The start of a path with so many slashes in front. -/
def rootOf (slashes : Nat) : Root :=
  match slashes with
  | 0 => .current
  | 2 => .doubleSlash
  | _ => .slash

/-- The path that a text writes. -/
def ofText (t : Text) : Path :=
  ⟨rootOf (t.takeWhile (· = slash)).length,
    (Text.splitAt slash t).filter fun name => name ≠ [] && name ≠ dot⟩

def Root.text : Root → Text
  | .current     => []
  | .slash       => "/"
  | .doubleSlash => "//"

/-- The text of a path; the current directory is a dot. -/
def text (p : Path) : Text :=
  match p.root, p.names with
  | .current, [] => dot
  | root, names  => Root.text root ++ Text.join [slash] names

def isAbsolute (p : Path) : Bool := p.root ≠ .current

/-- A path taken from another: an absolute path is itself. -/
def append (p q : Path) : Path := if q.isAbsolute then q else ⟨p.root, p.names ++ q.names⟩

/-- The path of the directory that a path is in. The root, and the current directory, are their
own. -/
def parent (p : Path) : Path := ⟨p.root, p.names.dropLast⟩

end Path

end ScriptLint
