import ScriptLint.Files.Tree
import ScriptLint.Text.Lines

/-!
# Workspaces

A workspace is the tree of files together with the current directory, at which relative paths
start, and the home directories of users. Its operations take paths, and their errors name the
path as it was given.
-/

namespace ScriptLint

/-- The files a program sees, and where it stands among them. -/
structure Workspace where
  tree : FileTree
  current : Location
  /-- The home directory of the user. -/
  home : Path
  /-- The home directories of users by name. -/
  homes : List (Text × Path)

namespace Workspace

/-- The first surrogates of a path that have no encoded form. A surrogate from U+DC80 to U+DCFF
stands for an octet of a name that is not UTF-8. -/
def unencodable? : (position : Nat) → Text → Option Utf8.EncodeError
  | _, [] => none
  | position, c :: t =>
    if c.isSurrogate && !(0xDC80 ≤ c.val && c.val ≤ 0xDCFF) then
      some ⟨position, 1 + (t.takeWhile CodePoint.isSurrogate).length, c⟩
    else unencodable? (position + 1) t

/-- Whether a path can be handed to the file system. -/
def check (t : Text) : Except FileError Unit :=
  match unencodable? 0 t with
  | some e => .error (.unencodablePath e)
  | none   => if t.contains 0 then .error .nullByte else .ok ()

/-- The directory at which a path starts. -/
def base (w : Workspace) (p : Path) : Location := if p.isAbsolute then [] else w.current

def currentPath (w : Workspace) : Path := ⟨.slash, w.current⟩

/-- What a path leads to. -/
def reach (w : Workspace) (p : Path) : Except FileError (Location × Option Entry) := do
  check p.text
  if FileTree.maxPath ≤ Utf8.byteLength p.text then .error (.refused .nameTooLong p.text)
  else (w.tree.reach (w.base p) p.names).mapError fun fault => .refused fault p.text

/-- What a path leads to, if it leads anywhere; a name that is too long is an error. -/
def entry? (w : Workspace) (p : Path) : Except FileError (Option Entry) :=
  match w.reach p with
  | .ok (_, found)                     => .ok found
  | .error (.refused .nameTooLong path) => .error (.refused .nameTooLong path)
  | .error _                           => .ok none

def isFile (w : Workspace) (p : Path) : Except FileError Bool := do
  match ← w.entry? p with
  | some (.file _) => return true
  | _              => return false

def isDirectory (w : Workspace) (p : Path) : Except FileError Bool := do
  match ← w.entry? p with
  | some .directory => return true
  | _               => return false

def isThere (w : Workspace) (p : Path) : Except FileError Bool := return (← w.entry? p).isSome

def read (w : Workspace) (p : Path) : Except FileError (List Byte) := do
  match ← w.reach p with
  | (_, some (.file content)) => .ok content
  | (_, some _)               => .error (.refused .isDirectory p.text)
  | (_, none)                 => .error (.refused .missing p.text)

/-- The text of a file, with every line end a line feed. -/
def readText (w : Workspace) (p : Path) : Except FileError Text := do
  let content ← w.read p
  match Utf8.decode content with
  | .ok t    => .ok t.unifyLineEnds
  | .error e => .error (.undecodable e)

/-- Write a text to a file, which is made or replaced. If the text cannot be encoded the file is
left empty. -/
def writeText (w : Workspace) (p : Path) (t : Text) : Workspace × Except FileError Unit :=
  match w.reach p with
  | .error e => (w, .error e)
  | .ok (_, some .directory) => (w, .error (.refused .isDirectory p.text))
  | .ok (here, _) =>
    match Utf8.encode t with
    | .ok content => ({ w with tree := w.tree.put here (.file content) }, .ok ())
    | .error e    => ({ w with tree := w.tree.put here (.file []) }, .error (.unencodable e))

def makeDirectory (w : Workspace) (p : Path) : Except FileError Workspace := do
  check p.text
  if FileTree.maxPath ≤ Utf8.byteLength p.text then .error (.refused .nameTooLong p.text)
  else match w.tree.makeDirectory (w.base p) p.names with
  | .ok tree     => .ok { w with tree }
  | .error fault => .error (.refused fault p.text)

/-- Make a directory at a path, unless there is one. -/
def makeDirectoryUnlessThere (w : Workspace) (p : Path) : Except FileError Workspace :=
  match w.makeDirectory p with
  | .error (.refused fault path) => do
    if ← w.isDirectory p then .ok w else .error (.refused fault path)
  | made => made

/-- Make a directory and the directories it is in, given its names from the last to the first. -/
def makeDirectoriesFrom (w : Workspace) (root : Root) :
    List Text → Workspace × Except FileError Unit
  | [] =>
    match w.makeDirectoryUnlessThere ⟨root, []⟩ with
    | .ok w    => (w, .ok ())
    | .error e => (w, .error e)
  | name :: names =>
    let p : Path := ⟨root, (name :: names).reverse⟩
    match w.makeDirectory p with
    | .error (.refused .missing _) =>
      match makeDirectoriesFrom w root names with
      | (w, .error e) => (w, .error e)
      | (w, .ok ()) =>
        match w.makeDirectoryUnlessThere p with
        | .ok w    => (w, .ok ())
        | .error e => (w, .error e)
    | .error _ =>
      match w.makeDirectoryUnlessThere p with
      | .ok w    => (w, .ok ())
      | .error e => (w, .error e)
    | .ok w => (w, .ok ())

/-- Make the directories of a path that are not there yet. What was made before an error stays. -/
def makeDirectories (w : Workspace) (p : Path) : Workspace × Except FileError Unit :=
  w.makeDirectoriesFrom p.root p.names.reverse

/-- Names from the root in which every `..` has taken back the name before it. -/
def collapse (names : List Text) : Location :=
  names.foldl (fun place name =>
    if name = Path.dot then place
    else if name = Path.dotDot then place.dropLast
    else place ++ [name]) []

/-- The absolute path without links that a path leads to, whether or not there is an entry. Where
links lead back to themselves the rest of the path is taken as it is written, and it is an error
only if that path leads in a circle too. -/
def resolve (w : Workspace) (p : Path) : Except FileError Path := do
  check p.text
  match w.tree.resolve (w.tree.entries.length + 1) [] (w.base p) p.names with
  | .ok here => return ⟨.slash, here⟩
  | .error loop =>
    let written : Path := ⟨.slash, collapse loop⟩
    match w.tree.reach [] written.names with
    | .error .tooManyLinks => .error (.linkLoop written.text)
    | _                    => return written

/-- A path with a home directory in the place of a tilde at its front: `~` is the user's own, and
`~name` that of another. -/
def expandHome (w : Workspace) (p : Path) : Except FileError Path :=
  match p.root, p.names with
  | .current, (0x7E :: user) :: names => do
    if user = [] then return ⟨w.home.root, w.home.names ++ names⟩
    else
      check user
      match w.homes.lookup user with
      | some home => return ⟨home.root, home.names ++ names⟩
      | none      => .error .unknownHome
  | _, _ => .ok p

end Workspace

end ScriptLint
