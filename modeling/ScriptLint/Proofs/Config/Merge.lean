import ScriptLint.CommandLine.Program
import ScriptLint.Proofs.Config.Fields

/-!
# Fields and overrides

A configuration is read back from its own fields, and overrides that fit their fields give the
configuration in which they replace what was there, the options name by name.
-/

namespace ScriptLint.Config

/-! ### Lists of fields -/

lemma Field.name_injective : Function.Injective Field.name := by
  intro f g
  cases f <;> cases g <;> decide

/-- Every field with a value. -/
def fieldsOf (value : Field → Datum) : List (Text × Datum) :=
  Field.all.map fun f => (f.name, value f)

lemma toFields_eq (c : Config) : c.toFields = fieldsOf c.get := rfl

lemma get?_fieldsOf_eq (value : Field → Datum) (name : Text) :
    Entries.get? name (fieldsOf value) = (Field.ofName? name).map value :=
  Entries.get?_map name Field.name value Field.all

lemma get?_fieldsOf (value : Field → Datum) (f : Field) :
    Entries.get? f.name (fieldsOf value) = some (value f) := by
  rw [get?_fieldsOf_eq, f.ofName?_name, Option.map_some]

lemma put_fieldsOf (value : Field → Datum) (f : Field) (v : Datum) :
    Entries.put f.name v (fieldsOf value) = fieldsOf (Function.update value f v) := by
  cases f <;> rfl

/-- A configuration is read back from its fields. -/
lemma ofFields_toFields (c : Config) : ofFields c.toFields = .ok c := by
  rw [toFields_eq, ofFields_eq_ok_iff]
  refine ⟨fun name hname => ?_, fun f => ?_⟩
  · rwa [get?_fieldsOf_eq, Option.isSome_map] at hname
  · rw [get?_fieldsOf]
    exact read_get c f

/-! ### Overrides -/

section Members

variable {α : Type} (value : α → Datum)

/-- A member whose key is a name. -/
def textMember (e : Text × α) : Datum × Datum := (.text e.1, value e.2)

lemma putBy_sameKey_textMember (name : Text) (v : α) (es : List (Text × α)) :
    Entries.putBy Datum.sameKey (.text name) (value v) (es.map (textMember value))
      = (Entries.put name v es).map (textMember value) := by
  induction es with
  | nil => rfl
  | cons e es ih =>
    obtain ⟨name', v'⟩ := e
    rw [List.map_cons, Entries.put_cons, textMember, Entries.putBy, Datum.sameKey, ih]
    by_cases h : name' = name <;> simp [h, textMember]

/-- Members whose keys are names are put one into the other as entries are. -/
lemma putMembers_textMember (own new : List (Text × α)) :
    Datum.putMembers (own.map (textMember value)) (new.map (textMember value))
      = (Entries.putAll own new).map (textMember value) := by
  induction new generalizing own with
  | nil => rfl
  | cons e new ih =>
    rw [List.map_cons, Datum.putMembers, List.foldl_cons]
    exact (congrArg (fun ms => Datum.putMembers ms (new.map (textMember value)))
      (putBy_sameKey_textMember value e.1 e.2 own)).trans (ih _)

end Members

lemma putMembers_optionMember (own new : List (Text × Bool)) :
    Datum.putMembers (own.map optionMember) (new.map optionMember)
      = (Entries.putAll own new).map optionMember :=
  putMembers_textMember .bool own new

variable (value : Field → Datum)

/-- An override of a field that is not the options replaces its value, if it is given. -/
lemma override_fieldsOf {α : Type} {f : Field} (hf : f ≠ .options) {given : α → Datum}
    (hg : ∀ x, given x ≠ .null) (x : Option α) :
    override (fieldsOf value) f.name ((x.map given).getD .null)
      = .ok (fieldsOf (Function.update value f ((x.map given).getD (value f)))) := by
  cases x with
  | none =>
    rw [Option.map_none, Option.getD_none, Option.getD_none, Function.update_eq_self]
    rfl
  | some x =>
    have hn : f.name ≠ Field.options.name := fun h => hf (Field.name_injective h)
    rw [Option.map_some, Option.getD_some, Option.getD_some, override, if_neg hn, put_fieldsOf]
    exact hg x

/-- An override of the options is put into them. -/
lemma override_options {own : List (Text × Bool)}
    (ho : value .options = .mapping (own.map optionMember)) (new : List (Text × Bool)) :
    override (fieldsOf value) Field.options.name (.mapping (new.map optionMember))
      = .ok (fieldsOf (Function.update value .options
          (.mapping ((Entries.putAll own new).map optionMember)))) := by
  rw [override, if_pos rfl, get?_fieldsOf, ho]
  · dsimp only
    rw [mergeOptions, putMembers_optionMember, ← put_fieldsOf]
    rfl
  · nofun

open CommandLine (Arguments)

/-- The configuration with what arguments override, where `format` is the format that they name. -/
def overriddenBy (c : Config) (a : Arguments) (format : Option Format)
    (options : List (Text × Bool)) : Config where
  linterScript := (a.linterScript.map Path.ofText).or c.linterScript
  options := c.options.union (.ofList options)
  output := format.getD c.output
  outputPath := (a.out.map Path.ofText).or c.outputPath

/-- The fields of a configuration with what arguments override. -/
lemma overridden_overrides (c : Config) {a : Arguments} {format : Option Format}
    (hf : a.format = format.map Format.name) (options : List (Text × Bool)) :
    c.overridden (CommandLine.overrides a options)
      = .ok (c.overriddenBy a format options).toFields := by
  have hpath (t : Text) : Datum.path (Path.ofText t) ≠ .null := nofun
  have htext (f : Format) : (Datum.text ∘ Format.name) f ≠ .null := nofun
  -- the overrides before that of the options leave them alone
  have hown : c.get .options = .mapping (c.options.entries.map optionMember) := rfl
  have hoptions (u v x : Datum) := override_options (Function.update (Function.update
    (Function.update c.get .linterScript u) .output v) .outputPath x) hown (Entries.ofList options)
  have hmember : (fun e : Text × Bool => (Datum.text e.1, Datum.bool e.2)) = optionMember := rfl
  rw [overridden, toFields_eq, toFields_eq]
  simp only [CommandLine.overrides, List.foldlM_cons, List.foldlM_nil, hf, hmember, Option.map_map]
  rw [override_fieldsOf c.get (by decide) hpath]
  dsimp only [bind, Except.bind]
  rw [override_fieldsOf _ (by decide) htext]
  dsimp only
  rw [override_fieldsOf _ (by decide) hpath]
  dsimp only
  rw [hoptions, overriddenBy]
  refine congrArg (fun value => Except.ok (fieldsOf value)) (funext fun f => ?_)
  cases f with
  | linterScript => cases a.linterScript <;> rfl
  | options => rfl
  | output => cases format <;> rfl
  | outputPath => cases a.out <;> rfl

/-- The overrides of arguments that name a format, or none, always fit. -/
lemma merge_overrides (c : Config) {a : Arguments} {format : Option Format}
    (hf : a.format = format.map Format.name) (options : List (Text × Bool)) :
    c.merge (CommandLine.overrides a options) = .ok (c.overriddenBy a format options) := by
  rw [merge, overridden_overrides c hf]
  exact congrArg (Except.mapError _) (ofFields_toFields _)

end ScriptLint.Config
