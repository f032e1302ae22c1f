import ScriptLint.Text.Lines
import ScriptLint.Toml.Numbers
import ScriptLint.Toml.Strings

/-!
# Reading TOML

A document is read statement by statement into one table. Which tables a later statement may still
open or change is kept in marks: a table that was declared cannot be declared again, and what was
written as one value, an array or an inline table, cannot be changed.
-/

namespace ScriptLint.Toml

/-- A step that fails where there is no result. -/
def step? (r : Option (α × Text)) : Except ReadError (α × Text) :=
  match r with
  | some found => .ok found
  | none       => .error .malformed

/-- The text without the blanks at its front. -/
def skip (t : Text) : Text := t.dropWhile isSpace

/-- The text after a comment, if it starts with one. -/
def skipComment? : Text → Except ReadError Text
  | 0x23 :: t =>
    if (t.takeWhile (· ≠ 0x0A)).any (isIllegal false) then .error .malformed
    else .ok (t.dropWhile (· ≠ 0x0A))
  | t => .ok t

/-- The text without the blanks, line ends and comments at its front. -/
def skipLines : (fuel : Nat) → Text → Except ReadError Text
  | 0, t => .ok t
  | fuel + 1, t =>
    match t.dropWhile isSpaceOrBreak with
    | 0x23 :: rest => do skipLines fuel (← skipComment? (0x23 :: rest))
    | rest         => .ok rest

/-! ### Keys -/

/-- A code point of a key without quotes. -/
def isBare (c : CodePoint) : Bool := c.isLetter || c.isDigit || c = '-' || c = '_'

/-- Read one part of a key. -/
def readPart : Text → Except ReadError (Text × Text)
  | 0x27 :: t => step? (readLiteral false t)
  | 0x22 :: t => step? (readEscaped false .text t)
  | t =>
    match t.takeWhile isBare with
    | []   => .error .malformed
    | part => .ok (part, t.dropWhile isBare)

/-- Read a dotted key and the blanks after it. -/
def readKey : (fuel : Nat) → Text → Except ReadError (Key × Text)
  | 0, _ => .error .malformed
  | fuel + 1, t => do
    let (part, rest) ← readPart t
    match skip rest with
    | 0x2E :: rest =>
      let (parts, rest) ← readKey fuel (skip rest)
      return (part :: parts, rest)
    | rest => return ([part], rest)

/-! ### Marks -/

/-- What has been said about tables so far. -/
structure Marks where
  /-- Tables that were declared. -/
  declared : List Key
  /-- Values that cannot be changed, nor anything in them. -/
  frozen : List Key
  /-- Tables that count as declared from the next declaration on. -/
  pending : List Key

namespace Marks

def empty : Marks := ⟨[], [], []⟩

/-- Whether a table was declared. -/
def isDeclared (m : Marks) (k : Key) : Bool := m.declared.contains k

/-- Whether a key is, or leads through, a value that cannot be changed. -/
def isFrozen (m : Marks) (k : Key) : Bool := m.frozen.any (·.isPrefixOf k)

/-- Forget what was said about a key and all that it leads to. -/
def forget (m : Marks) (k : Key) : Marks :=
  { m with
    declared := m.declared.filter fun l => !k.isPrefixOf l
    frozen := m.frozen.filter fun l => !k.isPrefixOf l }

/-- Mark a table as declared. -/
def declare (m : Marks) (k : Key) : Marks := { m with declared := k :: m.declared }

/-- Mark a value as one that cannot be changed. -/
def freeze (m : Marks) (k : Key) : Marks := { m with frozen := k :: m.frozen }

/-- Count the pending tables as declared. -/
def settle (m : Marks) : Marks := { m with declared := m.pending ++ m.declared, pending := [] }

end Marks

/-- The key without its last part, and its last part. -/
def splitKey (k : Key) : Key × Text := (k.dropLast, k.getLast?.getD [])

/-- Whether a value was written as a whole and cannot be changed. -/
def Value.isClosed : Value → Bool
  | .array _ | .table _ => true
  | _                   => false

/-! ### Values -/

mutual

/-- Read a value. The fuel is spent with every part of a value. -/
def readValue : (fuel : Nat) → Text → Except ReadError (Value × Text)
  | 0, _ => .error .malformed
  | fuel + 1, t =>
    match readString? t with
    | some r => do
      let (s, rest) ← step? r
      return (.string s, rest)
    | none =>
      match Text.dropLead? "true" t, Text.dropLead? "false" t with
      | some rest, _ => .ok (.boolean true, rest)
      | _, some rest => .ok (.boolean false, rest)
      | none, none =>
        match t with
        | 0x5B :: rest => do
          match ← skipLines rest.length rest with
          | 0x5D :: rest => return (.array [], rest)
          | rest =>
            let (vs, rest) ← readItems fuel rest
            return (.array vs, rest)
        | 0x7B :: rest =>
          match skip rest with
          | 0x7D :: rest => .ok (.table [], rest)
          | rest => do
            let (ms, rest) ← readMembers fuel [] .empty rest
            return (.table ms, rest)
        | t =>
          match readMoment? t with
          | some r => r
          | none   => readNumber t

/-- Read the items of an array from an item on, up to and with the closing bracket. -/
def readItems : (fuel : Nat) → Text → Except ReadError (List Value × Text)
  | 0, _ => .error .malformed
  | fuel + 1, t => do
    let (v, rest) ← readValue fuel t
    match ← skipLines rest.length rest with
    | 0x5D :: rest => return ([v], rest)
    | 0x2C :: rest =>
      match ← skipLines rest.length rest with
      | 0x5D :: rest => return ([v], rest)
      | rest =>
        let (vs, rest) ← readItems fuel rest
        return (v :: vs, rest)
    | _ => throw .malformed

/-- Read the members of an inline table from a key on, up to and with the closing brace, into a
table. -/
def readMembers : (fuel : Nat) → Table → Marks → Text → Except ReadError (Table × Text)
  | 0, _, _, _ => .error .malformed
  | fuel + 1, ms, marks, t => do
    let (key, rest) ← readKey (t.length + 1) t
    match rest with
    | 0x3D :: rest =>
      let (v, rest) ← readValue fuel (skip rest)
      if marks.isFrozen key then throw .malformed
      let (base, last) := splitKey key
      match ms.update? false (Table.add? last v) base with
      | none => throw .malformed
      | some ms =>
        let marks := if v.isClosed then marks.freeze key else marks
        match skip rest with
        | 0x7D :: rest => return (ms, rest)
        | 0x2C :: rest => readMembers fuel ms marks (skip rest)
        | _ => throw .malformed
    | _ => throw .malformed

end

/-! ### Statements -/

/-- What has been read of a document: its table, the marks, and the key of the table that
statements are in. -/
structure Progress where
  root : Table
  marks : Marks
  header : Key

namespace Progress

def start : Progress := ⟨[], .empty, []⟩

/-- Declare a table. -/
def openTable (p : Progress) (k : Key) : Except ReadError Progress :=
  let marks := p.marks.settle
  if marks.isDeclared k || marks.isFrozen k then .error .malformed
  else match p.root.update? true some k with
  | some root => .ok ⟨root, marks.declare k, k⟩
  | none      => .error .malformed

/-- Declare another table of an array of tables. -/
def openItem (p : Progress) (k : Key) : Except ReadError Progress :=
  let marks := p.marks.settle
  let (base, last) := splitKey k
  if marks.isFrozen k then .error .malformed
  else match p.root.update? true (Table.push? last) base with
  | some root => .ok ⟨root, (marks.forget k).declare k, k⟩
  | none      => .error .malformed

/-- The tables that a dotted key leads through. -/
def through (header key : Key) : List Key :=
  (List.range (key.length - 1)).map fun i => header ++ key.take (i + 1)

/-- Add a member to the table that statements are in. -/
def addMember (p : Progress) (key : Key) (v : Value) : Except ReadError Progress :=
  let (base, last) := splitKey (p.header ++ key)
  let tables := through p.header key
  if tables.any p.marks.isDeclared || p.marks.isFrozen base then .error .malformed
  else match p.root.update? true (Table.add? last v) base with
  | none => .error .malformed
  | some root =>
    let marks := { p.marks with pending := tables ++ p.marks.pending }
    .ok { p with root, marks := if v.isClosed then marks.freeze (p.header ++ key) else marks }

def readStatement (p : Progress) : Text → Except ReadError (Progress × Text)
  | 0x5B :: 0x5B :: t => do
    let (key, rest) ← readKey (t.length + 1) (skip t)
    let p ← p.openItem key
    match rest with
    | 0x5D :: 0x5D :: rest => return (p, rest)
    | _ => throw .malformed
  | 0x5B :: t => do
    let (key, rest) ← readKey (t.length + 1) (skip t)
    let p ← p.openTable key
    match rest with
    | 0x5D :: rest => return (p, rest)
    | _ => throw .malformed
  | t => do
    let (key, rest) ← readKey (t.length + 1) t
    match rest with
    | 0x3D :: rest =>
      let (v, rest) ← readValue (2 * rest.length + 2) (skip rest)
      return (← p.addMember key v, rest)
    | _ => throw .malformed

/-- Read the lines of a document. -/
def readLines : (fuel : Nat) → Progress → Text → Except ReadError Progress
  | 0, p, _ => .ok p
  | fuel + 1, p, t =>
    match skip t with
    | []           => .ok p
    | 0x0A :: rest => readLines fuel p rest
    | t => do
      let (p, rest) ← if t.head? = some 0x23 then pure (p, t) else p.readStatement t
      match ← skipComment? (skip rest) with
      | []           => return p
      | 0x0A :: rest => readLines fuel p rest
      | _            => throw .malformed

end Progress

/-- The table that a document writes. -/
def read (t : Text) : Except ReadError Table := do
  let t := t.unifyPairs
  return (← Progress.start.readLines (t.length + 1) t).root

end ScriptLint.Toml
