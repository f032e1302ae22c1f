import ScriptLint.Datum.Basic
import ScriptLint.Flaw
import ScriptLint.Number.Lenient

/-!
# Checks of single values

What fields accept. A check gives the value in its own type, or the check that rejects it.
-/

namespace ScriptLint.Datum

/-- A text, which may hold surrogates, or octets that encode one. -/
def asText : Datum → Except Check Text
  | .text t  => .ok t
  | .bytes b => (Utf8.decode b).mapError fun _ => .unicode
  | _        => .error .string

/-- A text with at least one code point and no surrogates. -/
def asName (v : Datum) :
    Except Check { t : Text // t ≠ [] ∧ t.any CodePoint.isSurrogate = false } := do
  let t ← v.asText
  if hs : t.any CodePoint.isSurrogate then .error .unicode
  else if hn : t = [] then .error .nonempty
  else .ok ⟨t, hn, by simpa using hs⟩

/-- The greatest size of an integer that is given as a number with a fraction. -/
def maxWhole : Int := Nat.pow 2 63

/-- The integer that a text gives in lenient notation. -/
def readInteger (t : Text) : Except Check Int :=
  match Lenient.integer t with
  | .ok n => .ok n
  | .error .notInteger => .error .integerText
  | .error .tooLong => .error .integerSize

/-- An integer: also a truth value, a whole number, or a text in lenient notation, which may be
encoded. -/
def asInteger : Datum → Except Check Int
  | .bool b => .ok (if b then 1 else 0)
  | .int n => .ok n
  | .float x =>
    if ¬ x.isFinite then .error .finite
    else match x.toInt? with
    | none   => .error .wholeNumber
    | some n => if -maxWhole < n ∧ n < maxWhole then .ok n else .error .integerSize
  | .text t => if t.any CodePoint.isSurrogate then .error .unicode else readInteger t
  | .bytes b =>
    match Utf8.decode b with
    | .ok t    => readInteger t
    | .error _ => .error .integerText
  | _ => .error .integer

/-- A number of things. -/
def asCount (v : Datum) : Except Check Nat := do
  let n ← v.asInteger
  if n < 0 then .error (.atLeast 0) else .ok n.toNat

/-- A place in a row that counts from one. -/
def asPosition (v : Datum) : Except Check { n : Nat // 1 ≤ n } := do
  let n ← v.asInteger
  if h : 1 ≤ n then .ok ⟨n.toNat, by omega⟩ else .error (.atLeast 1)

def asPath : Datum → Except Check (Option Path)
  | .null   => .ok none
  | .text t => .ok (some (Path.ofText t))
  | .path p => .ok (some p)
  | _       => .error .path

def asBool : Datum → Except Check Bool
  | .bool b => .ok b
  | _       => .error .boolean

end ScriptLint.Datum
