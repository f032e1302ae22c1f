import Mathlib.Data.List.Nodup
import ScriptLint.Proofs.Config.Failures
import ScriptLint.Proofs.Toml.Distinct

/-!
# What the section of a document says

A key of the section stands for a field, with hyphens for underscores, and the last key that stands
for a field gives its value. The section is well formed if every key stands for a field and every
value fits its field. What does not fit, and which keys are unknown, is found for all of the section
at once: `map_location_givenFlaws`.
-/

namespace ScriptLint.Config

/-! ### Sections -/

/-- The entry of a document for the linter. -/
def toolValue? (table : Toml.Table) : Option Toml.Value :=
  match Entries.get? ("tool" : Text) table with
  | some (.table tool) => Entries.get? ("pyjshint" : Text) tool
  | _                  => none

/-- The name that a key of a section stands for. -/
def nameOf (key : Text) : Text := Text.replace '-' '_' key

/-- The value that a section gives under a name. -/
def given? (found : Toml.Table) (name : Text) : Option Toml.Value :=
  (found.reverse.find? fun m => nameOf m.1 = name).map Prod.snd

/-- The values that fit a field. -/
inductive Fits : Field → Toml.Value → Prop
  | linterScript (t : Text) : Fits .linterScript (.string t)
  | options (listed : List (Text × Bool)) : Fits .options (optionTable listed)
  | output (format : Format) : Fits .output (.string format.name)
  | outputPath (t : Text) : Fits .outputPath (.string t)

/-- A section in which every key stands for a field and every value fits. -/
structure WellFormed (found : Toml.Table) : Prop where
  known : ∀ m ∈ found, ∃ f : Field, nameOf m.1 = f.name
  fits : ∀ (f : Field) v, given? found f.name = some v → Fits f v

/-! ### What is wrong with a section -/

def isBoolean : Toml.Value → Bool
  | .boolean _ => true
  | _          => false

/-- The places in a value that do not fit a field. -/
def offences : Field → Toml.Value → List (List Text)
  | .linterScript, .string _ | .outputPath, .string _ => []
  | .output, .string t  =>
    if ∃ format ∈ Format.all, format.name = t then [] else [[Field.output.name]]
  | .options, .table ms =>
    (ms.filter fun m => !isBoolean m.2).map fun m => [Field.options.name, m.1]
  | f, _                => [[f.name]]

/-- The places in what a section gives for a field. -/
def fieldOffences (found : Toml.Table) (f : Field) : List (List Text) :=
  ((given? found f.name).map (offences f)).getD []

/-- The names in a section that are no fields, in the order in which they first come. -/
def unknownNames (found : Toml.Table) : List Text :=
  (found.map fun m => nameOf m.1).eraseDups.filter fun name => (Field.ofName? name).isNone

/-- All places in a section that do not fit, in the order of the fields, and then the unknown
names. -/
def offenders (found : Toml.Table) : List (List Text) :=
  Field.all.flatMap (fieldOffences found) ++ (unknownNames found).map fun name => [name]

lemma fits_options_iff {ms : Toml.Table} :
    Fits .options (.table ms) ↔ ∀ m ∈ ms, isBoolean m.2 = true := by
  constructor
  · rintro h m hm
    obtain ⟨listed, hl⟩ : ∃ listed, Toml.Value.table ms = optionTable listed := by
      cases h
      exact ⟨_, rfl⟩
    obtain rfl := Toml.Value.table.inj hl
    obtain ⟨e, -, rfl⟩ := List.mem_map.mp hm
    rfl
  · intro h
    have hms : ∃ listed : List (Text × Bool), ms = listed.map fun e => (e.1, .boolean e.2) := by
      induction ms with
      | nil => exact ⟨[], rfl⟩
      | cons m ms ih =>
        obtain ⟨hm, hms⟩ := List.forall_mem_cons.mp h
        obtain ⟨listed, rfl⟩ := ih hms
        obtain ⟨name, v⟩ := m
        cases v with
        | boolean b => exact ⟨(name, b) :: listed, rfl⟩
        | _ => cases hm
    obtain ⟨listed, rfl⟩ := hms
    exact .options listed

/-- Nothing in a value is out of place if and only if the value fits. -/
lemma offences_eq_nil_iff {f : Field} {v : Toml.Value} : offences f v = [] ↔ Fits f v := by
  cases f with
  | linterScript =>
    cases v with
    | string t => exact iff_of_true rfl (.linterScript t)
    | _ => exact iff_of_false (List.cons_ne_nil _ _) nofun
  | outputPath =>
    cases v with
    | string t => exact iff_of_true rfl (.outputPath t)
    | _ => exact iff_of_false (List.cons_ne_nil _ _) nofun
  | output =>
    cases v with
    | string t =>
      rw [offences]
      split
      · next h =>
        obtain ⟨format, -, rfl⟩ := h
        exact iff_of_true rfl (.output format)
      · next h =>
        refine iff_of_false (List.cons_ne_nil _ _) fun hf => h ?_
        cases hf with
        | output format => exact ⟨format, by cases format <;> decide, rfl⟩
    | _ => exact iff_of_false (List.cons_ne_nil _ _) nofun
  | options =>
    cases v with
    | table ms =>
      rw [fits_options_iff, offences, List.map_eq_nil_iff, List.filter_eq_nil_iff]
      simp
    | _ => exact iff_of_false (List.cons_ne_nil _ _) nofun

/-! ### Flaws of the fields that a section gives -/

lemma flaws_mapping (members : List (Datum × Datum)) :
    Field.flaws .options (.mapping members)
      = members.flatMap fun m => optionFlaws m.1 m.2 := by
  rw [Field.flaws, Field.read, asOptions]
  generalize (members.flatMap fun m => optionFlaws m.1 m.2) = flaws
  cases flaws <;> rfl

/-- An option that is no truth value has one flaw, at its name. -/
lemma map_location_optionFlaws (name : Text) (v : Toml.Value) :
    (optionFlaws (.text name) v.toDatum).map Flaw.location
      = if isBoolean v then [] else [[Field.options.name, name]] := by
  cases v <;> rfl

lemma map_location_membersToDatum (ms : Toml.Table) :
    ((Toml.membersToDatum ms).flatMap fun m => optionFlaws m.1 m.2).map Flaw.location
      = offences .options (.table ms) := by
  rw [offences]
  induction ms with
  | nil => rfl
  | cons m ms ih =>
    obtain ⟨name, v⟩ := m
    rw [Toml.membersToDatum, List.flatMap_cons, List.map_append, ih, map_location_optionFlaws]
    rcases hv : isBoolean v with _ | _ <;> simp [hv]

lemma isSome_ofName?_iff (t : Text) :
    (Format.ofName? t).isSome = true ↔ ∃ format ∈ Format.all, format.name = t := by
  rw [Format.ofName?, List.find?_isSome]
  exact exists_congr fun format => and_congr_right fun _ => decide_eq_true_iff

lemma map_location_asFormat (t : Text) :
    (Field.flaws .output (.text t)).map Flaw.location = offences .output (.string t) := by
  rw [Field.flaws, Field.read, asFormat, offences]
  have ht := isSome_ofName?_iff t
  rcases hf : Format.ofName? t with _ | format <;> rw [hf] at ht
  · rw [if_neg (mt ht.mpr Bool.false_ne_true)]
    rfl
  · rw [if_pos (ht.mp rfl)]
    rfl

/-- The flaws of a value are at the places in it that do not fit. -/
lemma map_location_flaws (f : Field) (v : Toml.Value) :
    (f.flaws v.toDatum).map Flaw.location = offences f v := by
  cases f with
  | linterScript | outputPath => cases v <;> rfl
  | output =>
    cases v with
    | string t => exact map_location_asFormat t
    | _ => rfl
  | options =>
    cases v with
    | table ms =>
      rw [Toml.Value.toDatum, flaws_mapping]
      exact map_location_membersToDatum ms
    | _ => rfl

/-! ### All flaws of a section -/

variable {w : Workspace} {p : Path} {found : Toml.Table}

/-- The fields of a section have the values that the section gives. -/
lemma get?_sectionFields_eq (found : Toml.Table) (name : Text) :
    Entries.get? name (sectionFields found) = (given? found name).map Toml.Value.toDatum := by
  rw [sectionFields, Entries.get?_ofList, ← List.map_reverse, Entries.get?_map, given?,
    Option.map_map]
  rfl

lemma keys_sectionFields (found : Toml.Table) :
    Entries.keys (sectionFields found) = (found.map fun m => nameOf m.1).eraseDups := by
  have hnil : (Entries.keys ([] : List (Text × Datum))).Nodup := List.nodup_nil
  rw [sectionFields, Entries.ofList, Entries.keys_putAll hnil, Entries.keys, Entries.keys,
    List.map_map]
  rfl

lemma unknownFlaws_eq (given : List (Text × Datum)) :
    unknownFlaws given
      = ((Entries.keys given).filter fun name => (Field.ofName? name).isNone).map
        fun name => ⟨[name], .knownField⟩ := by
  rw [unknownFlaws, Entries.keys, List.filter_map, List.map_map]
  rfl

/-- Fields have flaws where the section does not fit. -/
lemma map_location_givenFlaws (found : Toml.Table) :
    (givenFlaws (sectionFields found)).map Flaw.location = offenders found := by
  rw [givenFlaws, List.map_append, unknownFlaws_eq, List.map_map, keys_sectionFields,
    List.map_flatMap, offenders, unknownNames]
  congr 1
  refine List.flatMap_congr fun f _ => ?_
  rw [fieldFlaws, get?_sectionFields_eq, fieldOffences]
  rcases given? found f.name with _ | v
  · rfl
  · exact map_location_flaws f v

/-- A script that is found from the document has no more flaws than its text. -/
lemma givenFlaws_of_anchored {fields fields' : List (Text × Datum)}
    (h : anchored w p fields = .ok fields') : givenFlaws fields' = givenFlaws fields := by
  obtain ⟨script, q, hs, -, rfl⟩ | ⟨rfl, -⟩ := cases_of_anchored h
  · have hkeys : Entries.keys (Entries.put Field.linterScript.name (.path q) fields)
        = Entries.keys fields := by
      rw [Entries.keys_put, if_pos]
      exact Entries.isSome_get?_iff.mp (by rw [hs]; rfl)
    rw [givenFlaws, givenFlaws, unknownFlaws_eq, hkeys, ← unknownFlaws_eq]
    congr 1
    refine List.flatMap_congr fun f _ => ?_
    rw [fieldFlaws, fieldFlaws, Entries.get?_put]
    split
    · next hf =>
      rw [← hf, hs]
      cases f with
      | linterScript => rfl
      | _ => cases hf
    · rfl
  · rfl

/-! ### Each place once -/

/-- The places in a value begin with the name of its field. -/
lemma head?_of_mem_offences {f : Field} {v : Toml.Value} {place : List Text}
    (h : place ∈ offences f v) : place.head? = some f.name := by
  rw [offences.eq_def] at h
  split at h
  · cases h
  · cases h
  · split at h
    · cases h
    · rw [List.mem_singleton.mp h]
      rfl
  · obtain ⟨m, -, rfl⟩ := List.mem_map.mp h
    rfl
  · rw [List.mem_singleton.mp h]
    rfl

lemma nodup_offences {f : Field} {v : Toml.Value} (hv : v.Distinct) : (offences f v).Nodup := by
  rw [offences.eq_def]
  split
  · exact List.nodup_nil
  · exact List.nodup_nil
  · split
    · exact List.nodup_nil
    · exact List.nodup_singleton _
  · next ms =>
    have hkeys : (ms.map Prod.fst).Nodup := (Toml.Table.Distinct.ofValue hv).keys
    have hmap : (ms.filter fun m => !isBoolean m.2).map (fun m => [Field.options.name, m.1])
        = ((ms.filter fun m => !isBoolean m.2).map Prod.fst).map
          fun name => [Field.options.name, name] := by
      rw [List.map_map]
      rfl
    rw [hmap]
    refine (hkeys.sublist (List.filter_sublist.map _)).map fun name name' h => ?_
    simpa using h
  · exact List.nodup_singleton _

lemma distinct_of_given? (h : Toml.Table.Distinct found) {name : Text} {v : Toml.Value}
    (hv : given? found name = some v) : v.Distinct := by
  obtain ⟨m, hm, rfl⟩ := Option.map_eq_some_iff.mp hv
  exact h.values m (List.mem_reverse.mp (List.mem_of_find?_eq_some hm))

/-- Every place in a section that does not fit is told once. -/
lemma nodup_offenders (h : Toml.Table.Distinct found) : (offenders found).Nodup := by
  have hhead {f : Field} {place : List Text}
      (hp : place ∈ fieldOffences found f) : place.head? = some f.name := by
    rw [fieldOffences] at hp
    rcases hg : given? found f.name with _ | v <;> rw [hg] at hp
    · cases hp
    · exact head?_of_mem_offences hp
  rw [offenders, List.nodup_append]
  refine ⟨List.nodup_flatMap.mpr ⟨fun f _ => ?_, ?_⟩, ?_, ?_⟩
  · rw [fieldOffences]
    rcases hg : given? found f.name with _ | v
    · exact List.nodup_nil
    · exact nodup_offences (distinct_of_given? h hg)
  · have hall : Field.all.Pairwise fun f g => f.name ≠ g.name := by decide
    refine hall.imp fun {f g} hne place hf hg => hne ?_
    exact Option.some.inj ((hhead hf).symm.trans (hhead hg))
  · refine ((nodup_eraseDups _).filter _).map fun name name' he => ?_
    simpa using he
  · rintro place hplace _ hunknown rfl
    obtain ⟨f, -, hf⟩ := List.mem_flatMap.mp hplace
    obtain ⟨name, hn, rfl⟩ := List.mem_map.mp hunknown
    obtain rfl := Option.some.inj (hhead hf)
    have hnone := (List.mem_filter.mp hn).2
    rw [f.ofName?_name] at hnone
    cases hnone

end ScriptLint.Config
