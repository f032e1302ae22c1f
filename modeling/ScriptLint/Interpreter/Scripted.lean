import ScriptLint.Interpreter.Basic

/-!
# Scripted interpreters

An interpreter that answers by rules: a rule matches the sources that start in its way, all of them
or only the one of a given number, and the first rule that matches decides. Without a rule the
linter's entry point is a function, and what is read of a global is an empty array.
-/

namespace ScriptLint

/-- A rule: the sources that start with `lead`, or only the `nth` of them, get an answer. -/
structure Rule where
  lead : Text
  nth : Option Int
  answer : Except Raised Json

namespace Scripted

def defaultAnswer (source : Text) : Json :=
  if source = "typeof JSHINT" then .string "function"
  else if source.startsWith "JSON.stringify(" then .string "[]"
  else .null

/-- Rules with the number of sources that each has met. -/
abbrev State := List (Rule × Nat)

/-- The rules with a source counted where it matches. -/
def count (source : Text) (s : State) : State :=
  s.map fun (rule, n) => (rule, if source.startsWith rule.lead then n + 1 else n)

/-- Whether a rule decides for a source, which is counted already. -/
def decides (source : Text) (e : Rule × Nat) : Bool :=
  source.startsWith e.1.lead &&
    match e.1.nth with
    | none   => true
    | some k => k = e.2

end Scripted

/-- The interpreter that answers by rules. -/
def Interpreter.scripted : Interpreter Scripted.State where
  eval source s :=
    let s := Scripted.count source s
    match s.find? (Scripted.decides source) with
    | some (rule, _) => (rule.answer, s)
    | none           => (.ok (Scripted.defaultAnswer source), s)
  close s := s

/-- The state of a scripted interpreter that has met no source. -/
def Scripted.start (rules : List Rule) : Scripted.State := rules.map fun rule => (rule, 0)

end ScriptLint
