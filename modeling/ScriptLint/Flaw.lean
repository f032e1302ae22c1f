import ScriptLint.Text.Basic

/-!
# Flaws

A flaw is a place in a caller's value that a check rejects, and the check that rejects it.
-/

namespace ScriptLint

/-- The checks. -/
inductive Check
  | missing
  | string
  | unicode
  | nonempty
  | integer
  | integerText
  | integerSize
  | wholeNumber
  | finite
  | atLeast (bound : Nat)
  | path
  | format
  | mapping
  | boolean
  | knownField
  | knownAttribute (name : Text)
  | frozen
  deriving DecidableEq

def Check.label : Check → Text
  | .missing     => "missing"
  | .string      => "string_type"
  | .unicode     => "string_unicode"
  | .nonempty    => "string_too_short"
  | .integer     => "int_type"
  | .integerText => "int_parsing"
  | .integerSize => "int_parsing_size"
  | .wholeNumber => "int_from_float"
  | .finite      => "finite_number"
  | .atLeast _   => "greater_than_equal"
  | .path        => "path_type"
  | .format      => "literal_error"
  | .mapping     => "dict_type"
  | .boolean     => "bool_type"
  | .knownField  => "extra_forbidden"
  | .knownAttribute _ => "no_such_attribute"
  | .frozen      => "frozen_instance"

/-- What a check says of a value that it rejects. -/
def Check.message : Check → Text
  | .missing     => "Field required"
  | .string      => "Input should be a valid string"
  | .unicode     => "Input should be a valid string, unable to parse raw data as a unicode string"
  | .nonempty    => "String should have at least 1 character"
  | .integer     => "Input should be a valid integer"
  | .integerText => "Input should be a valid integer, unable to parse string as an integer"
  | .integerSize => "Unable to parse input string as an integer, exceeded maximum size"
  | .wholeNumber => "Input should be a valid integer, got a number with a fractional part"
  | .finite      => "Input should be a finite number"
  | .atLeast n   => "Input should be greater than or equal to " ++ Text.ofNat n
  | .path        => "Input is not a valid path for <class 'pathlib.Path'>"
  | .format      => "Input should be 'plain', 'xml' or 'json'"
  | .mapping     => "Input should be a valid dictionary"
  | .boolean     => "Input should be a valid boolean"
  | .knownField  => "Extra inputs are not permitted"
  | .knownAttribute n => "Object has no attribute '" ++ n ++ "'"
  | .frozen      => "Instance is frozen"

/-- A rejected part of a value: the names that lead to it, and the check. -/
structure Flaw where
  location : List Text
  check : Check
  deriving DecidableEq

def Flaw.message (f : Flaw) : Text := f.check.message

end ScriptLint
