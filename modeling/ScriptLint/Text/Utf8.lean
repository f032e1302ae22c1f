import ScriptLint.Text.Basic

/-!
# UTF-8

Decoding refuses at the first octet that no encoded text could continue with, and says which
octets are at fault: `start` octets are well formed before them, and no longer part of the content
is. Encoding refuses surrogates, which UTF-8 cannot carry.
-/

namespace ScriptLint

abbrev Byte := Fin 256

-- in full, as for code points
instance Byte.neZero : @NeZero Nat Zero.ofOfNat0 256 := ⟨Nat.succ_ne_zero 255⟩

namespace Utf8

/-- Why octets cannot be decoded. -/
inductive Reason
  | invalidStart
  | invalidContinuation
  | truncated
  deriving DecidableEq, Repr

def Reason.message : Reason → Text
  | .invalidStart        => "invalid start byte"
  | .invalidContinuation => "invalid continuation byte"
  | .truncated           => "unexpected end of data"

/-- Octets that cannot be decoded: `count` of them from offset `start` on, the first being
`octet`. -/
structure DecodeError where
  reason : Reason
  start : Nat
  count : Nat
  octet : Byte
  deriving DecidableEq, Repr

/-- The offset of an octet, or the offsets of a run of them. -/
def span (one many : Text) (start count : Nat) : Text :=
  if count = 1 then one ++ " in position " ++ Text.ofNat start
  else many ++ " in position " ++ Text.ofNat start ++ "-" ++ Text.ofNat (start + count - 1)

def DecodeError.message (e : DecodeError) : Text :=
  "'utf-8' codec can't decode " ++
    span ("byte 0x" ++ Text.hex 2 e.octet.val) "bytes" e.start e.count ++ ": " ++ e.reason.message

/-- What the first octet of a longer sequence says about the rest: the bits it contributes, the
range of the second octet, and how many octets follow the second. -/
structure Lead where
  bits : Nat
  low : Nat
  high : Nat
  more : Nat

/-- The sequences an octet can start, if it can start any of more than one octet. -/
def lead? (b : Byte) : Option Lead :=
  if 0xC2 ≤ b.val ∧ b.val ≤ 0xDF then some ⟨b.val - 0xC0, 0x80, 0xBF, 0⟩
  else if b.val = 0xE0 then some ⟨0, 0xA0, 0xBF, 1⟩
  else if b.val = 0xED then some ⟨0xD, 0x80, 0x9F, 1⟩
  else if 0xE1 ≤ b.val ∧ b.val ≤ 0xEF then some ⟨b.val - 0xE0, 0x80, 0xBF, 1⟩
  else if b.val = 0xF0 then some ⟨0, 0x90, 0xBF, 2⟩
  else if 0xF1 ≤ b.val ∧ b.val ≤ 0xF3 then some ⟨b.val - 0xF0, 0x80, 0xBF, 2⟩
  else if b.val = 0xF4 then some ⟨4, 0x80, 0x8F, 2⟩
  else none

/-- An octet that continues a sequence. -/
def isTail (b : Byte) : Bool := 0x80 ≤ b.val ∧ b.val ≤ 0xBF

/-- Append the six bits of a continuing octet. -/
def push (bits : Nat) (b : Byte) : Nat := 64 * bits + (b.val - 0x80)

/-- Decode octets whose first stands at an offset of the whole. -/
def decodeFrom (offset : Nat) : List Byte → Except DecodeError Text
  | [] => .ok []
  | a :: bs =>
    if a.val < 0x80 then (CodePoint.ofNat a.val :: ·) <$> decodeFrom (offset + 1) bs
    else match lead? a with
    | none => .error ⟨.invalidStart, offset, 1, a⟩
    | some lead =>
      match bs with
      | [] => .error ⟨.truncated, offset, 1, a⟩
      | b :: bs =>
        if b.val < lead.low ∨ lead.high < b.val then .error ⟨.invalidContinuation, offset, 1, a⟩
        else if lead.more = 0 then
          (CodePoint.ofNat (push lead.bits b) :: ·) <$> decodeFrom (offset + 2) bs
        else match bs with
        | [] => .error ⟨.truncated, offset, 2, a⟩
        | c :: bs =>
          if ¬ isTail c then .error ⟨.invalidContinuation, offset, 2, a⟩
          else if lead.more = 1 then
            (CodePoint.ofNat (push (push lead.bits b) c) :: ·) <$> decodeFrom (offset + 3) bs
          else match bs with
          | [] => .error ⟨.truncated, offset, 3, a⟩
          | d :: bs =>
            if ¬ isTail d then .error ⟨.invalidContinuation, offset, 3, a⟩
            else (CodePoint.ofNat (push (push (push lead.bits b) c) d) :: ·) <$>
              decodeFrom (offset + 4) bs

/-- The text that octets encode. -/
def decode (bytes : List Byte) : Except DecodeError Text := decodeFrom 0 bytes

/-- Surrogates that cannot be encoded: `count` of them from position `start` on, the first being
`unit`. -/
structure EncodeError where
  start : Nat
  count : Nat
  unit : CodePoint
  deriving DecidableEq, Repr

def EncodeError.message (e : EncodeError) : Text :=
  "'utf-8' codec can't encode " ++
    span ("character '\\u" ++ Text.hex 4 e.unit.val ++ "'") "characters" e.start e.count ++
    ": surrogates not allowed"

def octets (c : CodePoint) : List Byte :=
  let octet (n : Nat) : Byte := Fin.ofNat 256 n
  let n := c.val
  if n < 0x80 then [octet n]
  else if n < 0x800 then [octet (0xC0 + n / 64), octet (0x80 + n % 64)]
  else if n < 0x10000 then
    [octet (0xE0 + n / 4096), octet (0x80 + n / 64 % 64), octet (0x80 + n % 64)]
  else [octet (0xF0 + n / 262144), octet (0x80 + n / 4096 % 64), octet (0x80 + n / 64 % 64),
    octet (0x80 + n % 64)]

/-- Encode a text whose first code point stands at a position of the whole. -/
def encodeFrom (position : Nat) : Text → Except EncodeError (List Byte)
  | [] => .ok []
  | c :: t =>
    if c.isSurrogate then
      .error ⟨position, 1 + (t.takeWhile CodePoint.isSurrogate).length, c⟩
    else (octets c ++ ·) <$> encodeFrom (position + 1) t

def encode (t : Text) : Except EncodeError (List Byte) := encodeFrom 0 t

/-- How many octets a text takes; a surrogate that stands for an undecodable octet takes one. -/
def byteLength (t : Text) : Nat :=
  t.foldl (fun n c => n + if c.isLowSurrogate then 1 else (octets c).length) 0

end Utf8

end ScriptLint
