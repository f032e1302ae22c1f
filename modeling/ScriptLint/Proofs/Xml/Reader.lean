import ScriptLint.Text.Lines

/-!
# A reader of XML

What XML 1.0 has a processor report of a document, for documents of elements, character data and
references to characters and to the five predefined entities. A document that is not well formed is
refused, and so is one with a comment, a processing instruction, a CDATA section or a document type.

Reading has two steps, and each is a machine with an explicit state: code points become tokens
(`Mode.next`), and tokens become a tree (`Tree.next`).
-/

namespace ScriptLint.Xml

/-! ### Characters -/

/-- A code point that may stand in a document. -/
def isChar (c : CodePoint) : Bool :=
  c.val = 0x9 ∨ c.val = 0xA ∨ c.val = 0xD ∨ (0x20 ≤ c.val ∧ c.val ≤ 0xD7FF) ∨
    (0xE000 ≤ c.val ∧ c.val ≤ 0xFFFD) ∨ 0x10000 ≤ c.val

def isBlank (c : CodePoint) : Bool := c.val = 0x20 ∨ c.val = 0x9 ∨ c.val = 0xD ∨ c.val = 0xA

/-- Whether a code point is in one of some ranges. -/
def isWithin (ranges : List (Nat × Nat)) (c : CodePoint) : Bool :=
  ranges.any fun r => r.1 ≤ c.val ∧ c.val ≤ r.2

/-- A code point that a name may start with. -/
def isNameStart (c : CodePoint) : Bool :=
  c.isLetter || c = ':' || c = '_' || isWithin [(0xC0, 0xD6), (0xD8, 0xF6), (0xF8, 0x2FF),
    (0x370, 0x37D), (0x37F, 0x1FFF), (0x200C, 0x200D), (0x2070, 0x218F), (0x2C00, 0x2FEF),
    (0x3001, 0xD7FF), (0xF900, 0xFDCF), (0xFDF0, 0xFFFD), (0x10000, 0xEFFFF)] c

/-- A code point that a name may go on with. -/
def isNameChar (c : CodePoint) : Bool :=
  isNameStart c || c.isDigit || c = '-' || c = '.' ||
    isWithin [(0xB7, 0xB7), (0x300, 0x36F), (0x203F, 0x2040)] c

/-- Whether a name that is read so far goes on with a code point. -/
def extendsName (name : Text) (c : CodePoint) : Bool :=
  if name = [] then isNameStart c else isNameChar c

/-! ### References -/

def entities : List (Text × CodePoint) :=
  [("amp", '&'), ("lt", '<'), ("gt", '>'), ("quot", '"'), ("apos", 0x27)]

/-- The character of a number. -/
def charOfNat? (n : Nat) : Option CodePoint :=
  if h : n < 0x110000 then if isChar ⟨n, h⟩ then some ⟨n, h⟩ else none else none

def decimal? (t : Text) : Option Nat :=
  if t ≠ [] ∧ t.all CodePoint.isDigit then some t.digitsValue else none

def hexadecimal? (t : Text) : Option Nat :=
  if t = [] then none
  else (t.mapM CodePoint.hexValue?).map fun ds => ds.foldl (fun n d => 16 * n + d) 0

/-- What the reference with a name stands for. -/
def resolve (name : Text) : Option CodePoint :=
  match Text.dropLead? "#x" name, Text.dropLead? "#" name with
  | some digits, _    => (hexadecimal? digits).bind charOfNat?
  | none, some digits => (decimal? digits).bind charOfNat?
  | none, none        => entities.lookup name

/-! ### Tokens -/

/-- A tag of an element, or the declaration in front of a document, as far as it is read. -/
structure Tag where
  isDeclaration : Bool
  name : Text
  attributes : List (Text × Text)

/-- A piece of a document. -/
inductive Token
  | declaration (attributes : List (Text × Text))
  | opening (name : Text) (attributes : List (Text × Text))
  | empty (name : Text) (attributes : List (Text × Text))
  | closing (name : Text)
  | char (c : CodePoint)
  | reference (c : CodePoint)

/-- Where in a document a reader is, with what it keeps of the piece that is not complete. -/
inductive Mode
  /-- Between tags, after so many closing brackets. -/
  | content (brackets : Nat)
  | reference (name : Text)
  /-- After the mark that opens a tag. -/
  | opened
  | tagName (tag : Tag)
  /-- Between the attributes of a tag, after a blank or not. -/
  | inTag (tag : Tag) (spaced : Bool)
  /-- Before the mark that closes a tag. -/
  | tagEnd (tag : Tag)
  | attributeName (tag : Tag) (name : Text)
  | beforeEquals (tag : Tag) (name : Text)
  | beforeValue (tag : Tag) (name : Text)
  /-- In the value of an attribute, which ends at a mark. -/
  | value (tag : Tag) (name : Text) (mark : CodePoint) (t : Text)
  | valueReference (tag : Tag) (name : Text) (mark : CodePoint) (t r : Text)
  | closingName (name : Text)
  | closingEnd (name : Text)

/-- The mark that stands in front of the one that closes a tag. -/
def Tag.closer (tag : Tag) : CodePoint := if tag.isDeclaration then '?' else '/'

/-- The piece that a tag is, when it has its closing mark in front of the last one. -/
def Tag.token (tag : Tag) : Option Token :=
  if ¬ tag.isDeclaration then some (.empty tag.name tag.attributes)
  else if tag.name = "xml" then some (.declaration tag.attributes)
  else none

/-- What a code point after the name or an attribute of a tag does. -/
def Tag.next (tag : Tag) (spaced : Bool) (c : CodePoint) : Option (List Token × Mode) :=
  if isBlank c then some ([], .inTag tag true)
  else if c = tag.closer then some ([], .tagEnd tag)
  else if c = '>' ∧ ¬ tag.isDeclaration then
    some ([.opening tag.name tag.attributes], .content 0)
  else if spaced ∧ isNameStart c then some ([], .attributeName tag [c])
  else none

/-- The tag with one attribute more, of a new name. -/
def Tag.add (tag : Tag) (name value : Text) : Option Tag :=
  if name ∈ tag.attributes.map Prod.fst then none
  else some { tag with attributes := tag.attributes ++ [(name, value)] }

/-- What the next code point completes, and where the reader is after it. -/
def Mode.next : Mode → CodePoint → Option (List Token × Mode)
  | .content brackets, c =>
    if c = '<' then some ([], .opened)
    else if c = '&' then some ([], .reference [])
    else if c = '>' ∧ 2 ≤ brackets then none
    else some ([.char c], .content (if c = ']' then brackets + 1 else 0))
  | .reference name, c =>
    if c = ';' then (resolve name).map fun c => ([.reference c], .content 0)
    else some ([], .reference (name ++ [c]))
  | .opened, c =>
    if c = '/' then some ([], .closingName [])
    else if c = '?' then some ([], .tagName ⟨true, [], []⟩)
    else if isNameStart c then some ([], .tagName ⟨false, [c], []⟩)
    else none
  | .tagName tag, c =>
    if extendsName tag.name c then some ([], .tagName { tag with name := tag.name ++ [c] })
    else if tag.name = [] then none
    else tag.next false c
  | .inTag tag spaced, c => tag.next spaced c
  | .tagEnd tag, c =>
    if c = '>' then tag.token.map fun token => ([token], .content 0)
    else none
  | .attributeName tag name, c =>
    if isNameChar c then some ([], .attributeName tag (name ++ [c]))
    else if isBlank c then some ([], .beforeEquals tag name)
    else if c = '=' then some ([], .beforeValue tag name)
    else none
  | .beforeEquals tag name, c =>
    if isBlank c then some ([], .beforeEquals tag name)
    else if c = '=' then some ([], .beforeValue tag name)
    else none
  | .beforeValue tag name, c =>
    if isBlank c then some ([], .beforeValue tag name)
    else if c = '"' ∨ c = 0x27 then some ([], .value tag name c [])
    else none
  | .value tag name mark t, c =>
    if c = mark then (tag.add name t).map fun tag => ([], .inTag tag false)
    else if c = '<' ∨ (c = '&' ∧ tag.isDeclaration) then none
    else if c = '&' then some ([], .valueReference tag name mark t [])
    else some ([], .value tag name mark (t ++ [if isBlank c then (' ' : CodePoint) else c]))
  | .valueReference tag name mark t r, c =>
    if c = ';' then (resolve r).map fun c => ([], .value tag name mark (t ++ [c]))
    else some ([], .valueReference tag name mark t (r ++ [c]))
  | .closingName name, c =>
    if extendsName name c then some ([], .closingName (name ++ [c]))
    else if name = [] then none
    else if isBlank c then some ([], .closingEnd name)
    else if c = '>' then some ([.closing name], .content 0)
    else none
  | .closingEnd name, c =>
    if isBlank c then some ([], .closingEnd name)
    else if c = '>' then some ([.closing name], .content 0)
    else none

/-- The pieces that a text completes, and where the reader is after it. -/
def Mode.run (m : Mode) : Text → Option (List Token × Mode)
  | []     => some ([], m)
  | c :: t => do
    let (tokens, m) ← m.next c
    let (rest, m) ← m.run t
    return (tokens ++ rest, m)

/-! ### Trees -/

/-- An element with what is between its tags, or a character. -/
inductive Node
  | element (name : Text) (attributes : List (Text × Text)) (content : List Node)
  | char (c : CodePoint)

mutual

/-- A node without the white space in it, and nothing for white space itself. -/
def Node.withoutBlanks : Node → List Node
  | .element name as content => [.element name as (withoutBlanks content)]
  | .char c                  => if isBlank c then [] else [.char c]

/-- Nodes without the white space among them and in them. -/
def withoutBlanks : List Node → List Node
  | []     => []
  | n :: l => n.withoutBlanks ++ withoutBlanks l

end

/-- An element that is not closed yet. -/
structure Frame where
  name : Text
  attributes : List (Text × Text)
  content : List Node

/-- The element with more content. -/
def Frame.add (f : Frame) (nodes : List Node) : Frame := { f with content := f.content ++ nodes }

def Frame.node (f : Frame) : Node := .element f.name f.attributes f.content

/-- The tree of a document as far as it is read. -/
inductive Tree
  | prolog (atStart : Bool)
  /-- The innermost open element, and those around it. -/
  | inside (frame : Frame) (outer : List Frame)
  | complete (root : Node)

/-- The version of a document. -/
def isVersion (t : Text) : Bool :=
  match Text.dropLead? "1." t with
  | some digits => (decimal? digits).isSome
  | none        => false

/-- The name of an encoding. -/
def isEncoding : Text → Bool
  | []     => false
  | c :: t => c.isLetter && t.all fun c => c.isLetter || c.isDigit || c = '.' || c = '_' || c = '-'

/-- The attributes without the first one, if that is the one of a name and its value is as it
must be. -/
def dropAttribute (name : Text) (ok : Text → Bool) : List (Text × Text) → List (Text × Text)
  | []     => []
  | a :: l => if a.1 = name ∧ ok a.2 then l else a :: l

/-- Whether attributes are those of a declaration: a version, then what may follow it. -/
def isDeclaration : List (Text × Text) → Bool
  | []     => false
  | a :: l =>
    a.1 = "version" && isVersion a.2 &&
      (dropAttribute "standalone" (fun t => t = "yes" || t = "no")
        (dropAttribute "encoding" isEncoding l)).isEmpty

/-- The tree with one piece more. -/
def Tree.next : Tree → Token → Option Tree
  | .prolog atStart, .declaration as =>
    if atStart ∧ isDeclaration as then some (.prolog false) else none
  | .prolog _, .char c               => if isBlank c then some (.prolog false) else none
  | .prolog _, .opening name as      => some (.inside ⟨name, as, []⟩ [])
  | .prolog _, .empty name as        => some (.complete (.element name as []))
  | .inside f fs, .char c            => some (.inside (f.add [.char c]) fs)
  | .inside f fs, .reference c       => some (.inside (f.add [.char c]) fs)
  | .inside f fs, .opening name as   => some (.inside ⟨name, as, []⟩ (f :: fs))
  | .inside f fs, .empty name as     => some (.inside (f.add [.element name as []]) fs)
  | .inside f [], .closing name      => if name = f.name then some (.complete f.node) else none
  | .inside f (g :: fs), .closing name =>
    if name = f.name then some (.inside (g.add [f.node]) fs) else none
  | .complete root, .char c          => if isBlank c then some (.complete root) else none
  | _, _                             => none

/-- The root element of a document. -/
def read (document : Text) : Option Node :=
  if document.all isChar then
    match Mode.run (.content 0) document.unifyLineEnds with
    | some (tokens, .content _) =>
      match tokens.foldlM Tree.next (.prolog true) with
      | some (.complete root) => some root
      | _                     => none
    | _ => none
  else none

end ScriptLint.Xml
