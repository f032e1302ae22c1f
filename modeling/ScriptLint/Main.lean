import ScriptLint.CommandLine.Program
import ScriptLint.Linter.Globals
import ScriptLint.Linter.Marker

/-!
# The executable

The outer layer: it looks at the files that the arguments and the configuration lead to, runs the
program on them, prints what it wrote, and writes the files it left. Nothing is decided here.
-/

namespace ScriptLint.Executable

def toBytes (content : ByteArray) : List Byte := content.toList.map fun b => Fin.ofNat 256 b.toNat

def ofBytes (content : List Byte) : ByteArray := ⟨(content.map fun b => b.val.toUInt8).toArray⟩

/-- The absolute path without links that a path leads to, if it leads anywhere. -/
def real? (p : String) : IO (Option String) := do
  try return some (toString (← IO.FS.realPath p)) catch _ => return none

/-- The location that an absolute path spells. -/
def location (p : String) : Location := (Path.ofText p).names

def spelled (place : Location) : String := Text.toString (Path.text ⟨.slash, place⟩)

/-- Add the directories that a location is in. -/
def addParents (t : FileTree) (place : Location) : FileTree :=
  (List.range place.length).foldl
    (fun t n => if n = 0 then t else t.put (place.take n) .directory) t

/-- Add what is at a location that no link leads to. -/
def addReal (t : FileTree) (place : Location) : IO FileTree := do
  let t := addParents t place
  if place = [] then return t
  if (← real? (spelled place ++ "/.")).isSome then return t.put place .directory
  try
    return t.put place (.file (toBytes (← IO.FS.readBinFile (spelled place))))
  catch _ => return t

/-- Add all that names lead to from a directory. -/
def survey (t : FileTree) (base : Location) : List Text → IO FileTree
  | [] => return t
  | name :: rest => do
    match ← real? (spelled base ++ "/" ++ Text.toString name) with
    | none => return t
    | some target =>
      let here := location target
      let t ← addReal t here
      let there := base ++ [name]
      let t := if name = Path.dotDot || there = here then t else t.put there (.link target)
      survey t here rest

/-- Add what a path leads to. -/
def look (w : Workspace) (p : Path) : IO Workspace := do
  let p := match w.expandHome p with
    | .ok p    => p
    | .error _ => p
  return { w with tree := ← survey w.tree (w.base p) p.names }

/-- The paths that arguments name. -/
def named (a : CommandLine.Arguments) : List Path :=
  (a.files ++ [a.out, a.linterScript, a.config].filterMap id).map Path.ofText

/-- The workspace with all that the program may ask for. -/
def observe (args : List Text) : IO Workspace := do
  let current := location (toString (← IO.currentDir))
  let home := Path.ofText ((← IO.getEnv "HOME").getD "/")
  let w : Workspace := ⟨addParents ⟨[(current, .directory)]⟩ current, current, home, []⟩
  let paths := match CommandLine.parse args with
    | .ok a    => named a
    | .error _ => []
  let candidates := (Script.ancestors .slash current).map fun p => p.append Script.installed
  let w ← (paths ++ [Path.ofText Config.documentName] ++ candidates).foldlM look w
  match CommandLine.parse args with
  | .error _ => return w
  | .ok a =>
    match CommandLine.configFor w a with
    | .ok config => (config.linterScript.toList ++ config.outputPath.toList).foldlM look w
    | .error _   => return w

/-- Write an entry that the program left. -/
def keep (e : Location × Entry) : IO Unit :=
  match e.2 with
  | .directory    => IO.FS.createDirAll (spelled e.1)
  | .file content => IO.FS.writeBinFile (spelled e.1) (ofBytes content)
  | .link _       => pure ()

/-- What a stream is. -/
def stream (s : IO.FS.Stream) : IO Terminal.Stream := do
  return if ← s.isTty then .terminal else .file

/-- The line on an ending that the program has not written itself. -/
def remark : CommandLine.Ending → Text
  | .exit _      => []
  | .usage _     => "Usage: lint [OPTIONS] FILES...\n"
  | .badConfig e => "Error: " ++ e.message ++ "\n"
  | .crash f     => "Error: " ++ f.message ++ "\n"

end ScriptLint.Executable

section

open ScriptLint ScriptLint.Executable

/-- Lint the files that the arguments name. -/
def main (args : List String) : IO UInt32 := do
  let args := args.map Text.ofString
  let out ← IO.getStdout
  let error ← IO.getStderr
  let w ← observe args
  let streams : CommandLine.Streams := ⟨← stream out, ← stream error⟩
  let run := CommandLine.run (.ofGlobals Linter.known) .empty streams w args
  for e in run.workspace.tree.entries do
    if !w.tree.entries.contains e then keep e
  error.putStr (Text.toString (run.error ++ remark run.ending))
  out.putStr (Text.toString run.out)
  return run.ending.code.toUInt32

end
