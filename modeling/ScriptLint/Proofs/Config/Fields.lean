import Mathlib.Logic.Function.Basic
import Mathlib.Tactic.Common
import Mathlib.Tactic.SplitIfs
import ScriptLint.Config.Basic
import ScriptLint.Proofs.OrderedMap

/-!
# Fields that a caller gives

Given fields make a configuration if all of them are known and every value is accepted, and a field
that is not given has its default. Otherwise there are the flaws of the fields in their order, and
then those of the names that are no fields: `ofFields_eq`.
-/

namespace ScriptLint

/-! ### Names that are there -/

lemma Entries.isSome_get?_iff {κ α : Type} [DecidableEq κ] {k : κ} {es : List (κ × α)} :
    (get? k es).isSome ↔ k ∈ keys es := by
  induction es with
  | nil => simp [keys]
  | cons e es ih =>
    obtain ⟨k', v⟩ := e
    rw [get?_cons, keys, List.map_cons, List.mem_cons, ← keys, ← ih]
    by_cases h : k' = k
    · simp [h]
    · rw [if_neg h, or_iff_right (Ne.symm h)]

namespace Config

/-! ### The values of a configuration -/

/-- The type of what a field holds. -/
def Field.Value : Field → Type
  | .linterScript | .outputPath => Option Path
  | .options                    => Options
  | .output                     => Format

/-- What a field holds if a caller gives a value for it. -/
def Field.read : (f : Field) → Datum → Except (List Flaw) f.Value
  | .linterScript, v => v.asPath.mapError fun check => [⟨[Field.linterScript.name], check⟩]
  | .options, v      => asOptions v
  | .output, v       => (asFormat v).mapError fun check => [⟨[Field.output.name], check⟩]
  | .outputPath, v   => v.asPath.mapError fun check => [⟨[Field.outputPath.name], check⟩]

/-- What the fields of a configuration hold. -/
def value (c : Config) : (f : Field) → f.Value
  | .linterScript => c.linterScript
  | .options      => c.options
  | .output       => c.output
  | .outputPath   => c.outputPath

/-- The configuration whose fields hold what is given. -/
def ofValues (x : (f : Field) → f.Value) : Config :=
  ⟨x .linterScript, x .options, x .output, x .outputPath⟩

@[simp] lemma value_ofValues (x : (f : Field) → f.Value) : (ofValues x).value = x := by
  funext f
  cases f <;> rfl

lemma value_injective : Function.Injective value := by
  intro c c' h
  exact congrArg ofValues h

lemma set_eq (c : Config) (f : Field) (v : Datum) :
    c.set f v = (f.read v).map fun x => ofValues (Function.update c.value f x) := by
  cases f with
  | linterScript | outputPath =>
    simp only [set, Field.read]
    rcases v.asPath with check | p <;> rfl
  | options =>
    simp only [set, Field.read]
    rcases asOptions v with flaws | options <;> rfl
  | output =>
    simp only [set, Field.read]
    rcases asFormat v with check | format <;> rfl

/-! ### Values that fit their fields -/

/-- An option as a caller gives it. -/
def optionMember (e : Text × Bool) : Datum × Datum := (.text e.1, .bool e.2)

lemma asPath_getD (p : Option Path) : ((p.map Datum.path).getD .null).asPath = .ok p := by
  cases p <;> rfl

lemma asFormat_name (f : Format) : asFormat (.text f.name) = .ok f := by
  cases f <;> rfl

lemma asOptions_mapping (es : List (Text × Bool)) :
    asOptions (.mapping (es.map optionMember)) = .ok (.ofList es) := by
  have hflaws : (es.map optionMember).flatMap (fun m => optionFlaws m.1 m.2) = [] := by
    simp [List.flatMap_map, optionMember, optionFlaws, Datum.asText, Datum.asBool]
  have hentries : (es.map optionMember).filterMap optionEntry? = es := by
    rw [List.filterMap_map]
    exact List.filterMap_some
  rw [asOptions, hflaws, hentries]

/-- A key that is not given as octets. -/
def NotBytes (key : Datum) : Prop := ∀ content, key ≠ .bytes content

lemma exists_of_optionFlaws {key v : Datum} (hb : NotBytes key) (h : optionFlaws key v = []) :
    ∃ e, (key, v) = optionMember e := by
  obtain ⟨hkey, hv⟩ := List.append_eq_nil_iff.mp h
  cases key with
  | text name =>
    cases v with
    | bool b => exact ⟨(name, b), rfl⟩
    | _ => cases hv
  | bytes content => exact absurd rfl (hb content)
  | _ => cases hkey

/-- But for keys that are octets, only options as a caller gives them are read as options. -/
lemma exists_of_asOptions {ms : List (Datum × Datum)} {options : Options}
    (hb : ∀ m ∈ ms, NotBytes m.1) (h : asOptions (.mapping ms) = .ok options) :
    ∃ es : List (Text × Bool), ms = es.map optionMember ∧ options = .ofList es := by
  have hms : ∃ es : List (Text × Bool), ms = es.map optionMember := by
    rw [asOptions] at h
    split at h
    · next hflaws =>
      clear h
      induction ms with
      | nil => exact ⟨[], rfl⟩
      | cons m ms ih =>
        rw [List.flatMap_cons, List.append_eq_nil_iff] at hflaws
        obtain ⟨hm, hms⟩ := List.forall_mem_cons.mp hb
        obtain ⟨e, he⟩ := exists_of_optionFlaws hm hflaws.1
        obtain ⟨es, rfl⟩ := ih hms hflaws.2
        exact ⟨e :: es, by rw [List.map_cons, ← he]⟩
    · cases h
  obtain ⟨es, rfl⟩ := hms
  rw [asOptions_mapping] at h
  exact ⟨es, rfl, (Except.ok.inj h).symm⟩

/-- What a field holds is read back from its value. -/
lemma read_get (c : Config) (f : Field) : f.read (c.get f) = .ok (c.value f) := by
  cases f with
  | options =>
    have h := asOptions_mapping c.options.entries
    rwa [OrderedMap.ofList_entries] at h
  | linterScript | outputPath => simp only [Field.read, get, asPath_getD, Except.mapError, value]
  | output => simp only [Field.read, get, asFormat_name, Except.mapError, value]

/-! ### Flaws of values -/

/-- A value that is not accepted has flaws. -/
lemma Field.read_ne_error_nil (f : Field) (v : Datum) : f.read v ≠ .error [] := by
  intro h
  cases f with
  | options =>
    rw [read, asOptions.eq_def] at h
    split at h
    · split at h
      · cases h
      · next hne => exact hne (Except.error.inj h)
    · cases h
  | linterScript | outputPath =>
    simp only [read] at h
    rcases hp : v.asPath with check | p <;> rw [hp] at h <;> cases h
  | output =>
    simp only [read] at h
    rcases hf : asFormat v with check | format <;> rw [hf] at h <;> cases h

/-- The flaws of a value that is given for a field. -/
def Field.flaws (f : Field) (v : Datum) : List Flaw :=
  match f.read v with
  | .ok _        => []
  | .error flaws => flaws

lemma Field.flaws_eq_nil_iff {f : Field} {v : Datum} : f.flaws v = [] ↔ ∃ x, f.read v = .ok x := by
  rw [flaws]
  rcases h : f.read v with flaws | x
  · have hne : flaws ≠ [] := by
      rintro rfl
      exact f.read_ne_error_nil v h
    simp [hne]
  · simp

/-! ### Given fields -/

variable {given : List (Text × Datum)}

/-- The flaws of what is given for a field, if anything is. -/
def fieldFlaws (given : List (Text × Datum)) (f : Field) : List Flaw :=
  ((Entries.get? f.name given).map f.flaws).getD []

/-- What a field holds by what is given for it, if it is given and accepted. -/
def taken? (given : List (Text × Datum)) (f : Field) : Option f.Value :=
  (Entries.get? f.name given).bind fun v => (f.read v).toOption

lemma setAll_snd (fields : List Field) (c : Config) (flaws : List Flaw) :
    (setAll given fields (c, flaws)).2 = flaws ++ fields.flatMap (fieldFlaws given) := by
  induction fields generalizing c flaws with
  | nil => simp [setAll]
  | cons f fields ih =>
    rw [setAll, List.flatMap_cons, fieldFlaws]
    rcases Entries.get? f.name given with _ | v
    · simp [ih]
    · rw [Option.map_some, Option.map_some, set_eq, Field.flaws]
      rcases f.read v with new | x <;> simp [Except.map, ih]

/-- A field that is set holds what is given for it, if that is accepted, and any other field what it
held before. -/
lemma value_setAll (fields : List Field) (c : Config) (flaws : List Flaw) (f : Field) :
    (setAll given fields (c, flaws)).1.value f
      = if f ∈ fields then (taken? given f).getD (c.value f) else c.value f := by
  induction fields generalizing c flaws with
  | nil => rfl
  | cons g fields ih =>
    -- setting `g` once more changes nothing
    have hset (c' : Config) (flaws' : List Flaw)
        (hc : c'.value = Function.update c.value g ((taken? given g).getD (c.value g))) :
        (setAll given fields (c', flaws')).1.value f
          = if f ∈ g :: fields then (taken? given f).getD (c.value f) else c.value f := by
      rw [ih, hc]
      by_cases hf : f = g
      · subst hf
        rw [Function.update_self]
        rcases taken? given f with _ | x <;> simp
      · simp [hf]
    rw [setAll]
    rcases hg : Entries.get? g.name given with _ | v
    · exact hset c flaws (by simp [taken?, hg])
    · rw [Option.map_some, set_eq]
      rcases hr : g.read v with new | x
      · exact hset c _ (by simp [taken?, hg, hr, Except.toOption])
      · exact hset _ flaws (by simp [taken?, hg, hr, Except.toOption])

/-- All flaws of given fields. -/
def givenFlaws (given : List (Text × Datum)) : List Flaw :=
  Field.all.flatMap (fieldFlaws given) ++ unknownFlaws given

/-- The configuration of given fields, where a field that is not given or not accepted has its
default. -/
def givenConfig (given : List (Text × Datum)) : Config :=
  ofValues fun f => (taken? given f).getD (default.value f)

lemma Field.mem_all (f : Field) : f ∈ Field.all := by
  cases f <;> decide

lemma Field.ofName?_name (f : Field) : Field.ofName? f.name = some f := by
  cases f <;> decide

/-- Given fields are the configuration that they say, or all their flaws. -/
lemma ofFields_eq (given : List (Text × Datum)) :
    ofFields given
      = if givenFlaws given = [] then .ok (givenConfig given) else .error (givenFlaws given) := by
  have hflaws : (setAll given Field.all (default, [])).2 = _ := setAll_snd Field.all default []
  have hconfig : (setAll given Field.all (default, [])).1 = givenConfig given := by
    apply value_injective
    funext f
    rw [value_setAll, if_pos f.mem_all, givenConfig, value_ofValues]
  rw [ofFields, givenFlaws]
  generalize setAll given Field.all (default, []) = so at hflaws hconfig
  obtain ⟨c, flaws⟩ := so
  dsimp only at hflaws hconfig ⊢
  rw [hflaws, hconfig, List.nil_append]
  split
  · next h => rw [if_pos h]
  · next h => rw [if_neg h]

/-- What a field holds by what is given for it. -/
def ReadAs (f : Field) : Option Datum → f.Value → Prop
  | none, x   => x = default.value f
  | some v, x => f.read v = .ok x

lemma fieldFlaws_eq_nil_iff {f : Field} :
    fieldFlaws given f = [] ↔ ∃ x, ReadAs f (Entries.get? f.name given) x := by
  rw [fieldFlaws]
  rcases Entries.get? f.name given with _ | v
  · simp [ReadAs]
  · exact Field.flaws_eq_nil_iff

lemma readAs_iff {f : Field} (h : fieldFlaws given f = []) (x : f.Value) :
    ReadAs f (Entries.get? f.name given) x ↔ x = (taken? given f).getD (default.value f) := by
  obtain ⟨y, hy⟩ := fieldFlaws_eq_nil_iff.mp h
  rw [taken?]
  rcases hg : Entries.get? f.name given with _ | v <;> rw [hg] at hy
  · exact Iff.rfl
  · have hy : f.read v = .ok y := hy
    change f.read v = .ok x ↔ x = ((f.read v).toOption).getD _
    rw [hy, Except.ok.injEq, eq_comm]
    exact Iff.rfl

lemma unknownFlaws_eq_nil_iff :
    unknownFlaws given = [] ↔
      ∀ name, (Entries.get? name given).isSome → (Field.ofName? name).isSome := by
  simp only [Entries.isSome_get?_iff, unknownFlaws, List.map_eq_nil_iff, List.filter_eq_nil_iff,
    Entries.keys, List.mem_map]
  constructor
  · rintro h _ ⟨e, he, rfl⟩
    simpa [Option.isSome_iff_ne_none] using h e he
  · intro h e he
    simpa [Option.isSome_iff_ne_none] using h e.1 ⟨e, he, rfl⟩

/-- Given fields make a configuration if and only if all of them are known and accepted as what it
holds. -/
lemma ofFields_eq_ok_iff {c : Config} :
    ofFields given = .ok c ↔
      (∀ name, (Entries.get? name given).isSome → (Field.ofName? name).isSome) ∧
        ∀ f, ReadAs f (Entries.get? f.name given) (c.value f) := by
  rw [ofFields_eq, ← unknownFlaws_eq_nil_iff]
  have hflaws : givenFlaws given = [] ↔
      unknownFlaws given = [] ∧ ∀ f, fieldFlaws given f = [] := by
    simp only [givenFlaws, List.append_eq_nil_iff, List.flatMap_eq_nil_iff, and_comm]
    simp [Field.mem_all]
  constructor
  · intro h
    split_ifs at h with hf
    obtain rfl := Except.ok.inj h
    obtain ⟨hu, hf⟩ := hflaws.mp hf
    refine ⟨hu, fun f => (readAs_iff (hf f) _).mpr ?_⟩
    rw [givenConfig, value_ofValues]
  · rintro ⟨hu, hr⟩
    have hf (f : Field) : fieldFlaws given f = [] := fieldFlaws_eq_nil_iff.mpr ⟨_, hr f⟩
    rw [if_pos (hflaws.mpr ⟨hu, hf⟩)]
    congr 1
    apply value_injective
    funext f
    rw [givenConfig, value_ofValues]
    exact ((readAs_iff (hf f) _).mp (hr f)).symm

end Config

end ScriptLint
