import Mathlib
import ScriptLint.Proofs.Config.Section

/-!
# What the section of a document means

A document without a section gives the defaults. A section that is well formed gives a configuration
that holds what the section says, and any other gives an error that tells everything that does not
fit. All that counts is the table of the document, its path, and the home directories.
-/

namespace ScriptLint.Config

variable {w : Workspace} {root document : Option Path} {p : Path} {table found : Toml.Table}
  {c : Config} {f : Failure}

/-! ### Sections that are well formed -/

lemma Field.isSome_ofName?_iff {name : Text} :
    (Field.ofName? name).isSome = true ↔ ∃ f : Field, name = f.name := by
  constructor
  · intro h
    obtain ⟨f, hf⟩ := Option.isSome_iff_exists.mp h
    rw [Field.ofName?] at hf
    have hname := List.find?_some hf
    exact ⟨f, (of_decide_eq_true hname).symm⟩
  · rintro ⟨f, rfl⟩
    rw [f.ofName?_name]
    rfl

/-- Nothing is out of place in a section if and only if it is well formed. -/
lemma offenders_eq_nil_iff : offenders found = [] ↔ WellFormed found := by
  have hfields : Field.all.flatMap (fieldOffences found) = [] ↔
      ∀ (f : Field) v, given? found f.name = some v → Fits f v := by
    rw [List.flatMap_eq_nil_iff]
    constructor
    · intro h f v hv
      have hf := h f f.mem_all
      rw [fieldOffences, hv] at hf
      exact offences_eq_nil_iff.mp hf
    · intro h f _
      rw [fieldOffences]
      rcases hg : given? found f.name with _ | v
      · rfl
      · exact offences_eq_nil_iff.mpr (h f v hg)
  have hunknown : unknownNames found = [] ↔ ∀ m ∈ found, ∃ f : Field, nameOf m.1 = f.name := by
    rw [unknownNames, List.filter_eq_nil_iff]
    simp only [List.mem_eraseDups, List.forall_mem_map, Option.isNone_iff_eq_none,
      ← Option.isSome_iff_ne_none, Field.isSome_ofName?_iff]
  rw [offenders, List.append_eq_nil_iff, List.map_eq_nil_iff, hfields, hunknown]
  exact ⟨fun h => ⟨h.2, h.1⟩, fun h => ⟨h.fits, h.known⟩⟩

/-! ### What a configuration holds -/

/-- A configuration holds what a section says, and the defaults for what it does not say. The
linter script is found from the directory of the document. -/
structure Holds (w : Workspace) (p : Path) (found : Toml.Table) (c : Config) : Prop where
  linterScript :
    (given? found Field.linterScript.name = none ∧ c.linterScript = none) ∨
      ∃ t q, given? found Field.linterScript.name = some (.string t) ∧
        w.expandHome (Path.ofText t) = .ok q ∧
        c.linterScript = some
          (if q.isAbsolute then q else ⟨p.parent.root, p.parent.names ++ q.names⟩)
  options :
    (given? found Field.options.name = none ∧ c.options.entries = []) ∨
      ∃ listed, given? found Field.options.name = some (optionTable listed) ∧
        c.options.entries = listed
  output :
    (given? found Field.output.name = none ∧ c.output = .plain) ∨
      given? found Field.output.name = some (.string c.output.name)
  outputPath :
    (given? found Field.outputPath.name = none ∧ c.outputPath = none) ∨
      ∃ t, given? found Field.outputPath.name = some (.string t) ∧
        c.outputPath = some (Path.ofText t)

/-- Only the name of a format is read as one. -/
lemma eq_of_read_output {v : Toml.Value} {format : Format}
    (h : Field.read .output v.toDatum = .ok format) : v = .string format.name := by
  cases v with
  | string t =>
    rw [Toml.Value.toDatum, Field.read, asFormat] at h
    rcases hf : Format.ofName? t with _ | format' <;> rw [hf] at h <;> cases h
    rw [Format.ofName?] at hf
    have hname := List.find?_some hf
    rw [of_decide_eq_true hname]
  | _ => cases h

lemma exists_of_read_outputPath {v : Toml.Value} {q : Option Path}
    (h : Field.read .outputPath v.toDatum = .ok q) :
    ∃ t, v = .string t ∧ q = some (Path.ofText t) := by
  cases v with
  | string t =>
    cases h
    exact ⟨t, rfl, rfl⟩
  | _ => cases h

/-- A script that is read as a path is a text. -/
lemma exists_of_read_linterScript {v : Toml.Value} {q : Option Path}
    (h : Field.read .linterScript v.toDatum = .ok q) : ∃ t, v = .string t := by
  cases v with
  | string t => exact ⟨t, rfl⟩
  | _ => cases h

lemma toDatum_eq_text {v : Toml.Value} {t : Text} (h : v.toDatum = .text t) : v = .string t := by
  cases v with
  | string u =>
    cases h
    rfl
  | _ => cases h

lemma exists_of_anchor {script : Text} {q : Path} (h : anchor w p script = .ok q) :
    ∃ q', w.expandHome (Path.ofText script) = .ok q' ∧
      q = if q'.isAbsolute then q' else ⟨p.parent.root, p.parent.names ++ q'.names⟩ := by
  rw [anchor] at h
  rcases he : w.expandHome (Path.ofText script) with e | q' <;> rw [he] at h <;> cases h
  exact ⟨q', rfl, rfl⟩

lemma entries_ofList_of_distinct {listed : List (Text × Bool)}
    (h : (optionTable listed).Distinct) : (OrderedMap.ofList listed).entries = listed := by
  have hkeys := (Toml.Table.Distinct.ofValue h).keys
  rw [Entries.keys, List.map_map] at hkeys
  exact Entries.ofList_of_nodup hkeys

/-- What is read for a field that is not given, or is given and accepted. -/
lemma readAs_cases {f : Field} {x : f.Value}
    (h : ReadAs f ((given? found f.name).map Toml.Value.toDatum) x) :
    (given? found f.name = none ∧ x = default.value f) ∨
      ∃ v, given? found f.name = some v ∧ f.read v.toDatum = .ok x := by
  rcases hg : given? found f.name with _ | v <;> rw [hg] at h
  · exact .inl ⟨rfl, h⟩
  · exact .inr ⟨v, rfl, h⟩

/-- A configuration of the fields of a section holds what the section says. -/
lemma holds_of_ofFields (hd : Toml.Table.Distinct found) {fields : List (Text × Datum)}
    (ha : anchored w p (sectionFields found) = .ok fields) (h : ofFields fields = .ok c) :
    Holds w p found c := by
  obtain ⟨-, hread⟩ := ofFields_eq_ok_iff.mp h
  have hother {f : Field} (hf : Field.linterScript.name ≠ f.name) :
      ReadAs f ((given? found f.name).map Toml.Value.toDatum) (c.value f) := by
    rw [← get?_sectionFields_eq, ← get?_of_anchored ha hf]
    exact hread f
  have hscript := hread .linterScript
  refine ⟨?_, ?_, ?_, ?_⟩
  · obtain ⟨script, q, hs, hq, rfl⟩ | ⟨rfl, hn⟩ := cases_of_anchored ha
    · obtain ⟨v, hg, hv⟩ := Option.map_eq_some_iff.mp ((get?_sectionFields_eq _ _).symm.trans hs)
      obtain rfl := toDatum_eq_text hv
      obtain ⟨q', hq', rfl⟩ := exists_of_anchor hq
      rw [Entries.get?_put, if_pos rfl] at hscript
      exact .inr ⟨script, q', hg, hq', (Except.ok.inj hscript).symm⟩
    · rw [get?_sectionFields_eq] at hscript hn
      obtain ⟨hg, hx⟩ | ⟨v, hg, hx⟩ := readAs_cases hscript
      · exact .inl ⟨hg, hx⟩
      · obtain ⟨t, rfl⟩ := exists_of_read_linterScript hx
        exact absurd (congrArg (Option.map Toml.Value.toDatum) hg) (hn t)
  · obtain ⟨hg, hx⟩ | ⟨v, hg, hx⟩ := readAs_cases (f := .options) (hother (by decide))
    · exact .inl ⟨hg, congrArg OrderedMap.entries hx⟩
    · obtain ⟨listed, rfl, ho⟩ := optionTable_of_asOptions hx
      refine .inr ⟨listed, hg, ?_⟩
      rw [← entries_ofList_of_distinct (distinct_of_given? hd hg)]
      exact congrArg OrderedMap.entries ho
  · obtain ⟨hg, hx⟩ | ⟨v, hg, hx⟩ := readAs_cases (f := .output) (hother (by decide))
    · exact .inl ⟨hg, hx⟩
    · exact .inr (hg.trans (congrArg some (eq_of_read_output hx)))
  · obtain ⟨hg, hx⟩ | ⟨v, hg, hx⟩ := readAs_cases (f := .outputPath) (hother (by decide))
    · exact .inl ⟨hg, hx⟩
    · obtain ⟨t, rfl, hq⟩ := exists_of_read_outputPath hx
      exact .inr ⟨t, hg, hq⟩

/-! ### Loading a section -/

/-- What a document gives, by its entry for the linter. -/
lemma ofDocument_eq (ht : readDocument w p = .ok table) :
    ofDocument w p = match toolValue? table with
      | none                => .ok .default
      | some (.table found) => do
        let fields ← anchored w p (sectionFields found)
        (ofFields fields).mapError fun flaws => .config (.flawed (.document p.text) flaws)
      | some _              => .error (.config (.notTable p.text)) := by
  rw [ofDocument, ht, toolValue?]
  dsimp only [bind, Except.bind]
  rw [section?]
  rcases Entries.get? ("tool" : Text) table with _ | v
  · rfl
  cases v with
  | table tool =>
    dsimp only
    rcases Entries.get? ("pyjshint" : Text) tool with _ | v
    · rfl
    · cases v <;> rfl
  | _ => rfl

lemma anchored_congr {w' : Workspace} (hhome : w'.home = w.home) (hhomes : w'.homes = w.homes) :
    anchored w' p = anchored w p := by
  funext fields
  simp only [anchored, anchor, Workspace.expandHome, hhome, hhomes]

lemma load_of_readDocument
    (ht : readDocument w (document.getD (projectDocument w root)) = .ok table) :
    load w root document = ofDocument w (document.getD (projectDocument w root)) := by
  rw [load_eq, Workspace.isFile_iff.mpr (exists_content_of_readDocument ht)]

lemma distinct_of_readDocument (ht : readDocument w p = .ok table) :
    Toml.Table.Distinct table := by
  obtain ⟨content, -, ht⟩ := Except.exists_of_bind_eq_ok ht
  obtain ⟨t, -, ht⟩ := Except.exists_of_bind_eq_ok ht
  rcases hr : Toml.read t with e | table' <;> rw [hr] at ht
  · cases e <;> cases ht
  · cases ht
    exact Toml.distinct_of_read hr

lemma distinct_of_toolValue? (h : Toml.Table.Distinct table)
    (he : toolValue? table = some (.table found)) : Toml.Table.Distinct found := by
  rw [toolValue?] at he
  split at he
  · next tool htool =>
    exact .ofValue ((Toml.Table.Distinct.ofValue (h.get? htool)).get? he)
  · cases he

/-- What comes of the table of a document. -/
inductive Gives (w : Workspace) (p : Path) (table : Toml.Table) : Except Failure Config → Prop
  | noEntry (he : toolValue? table = none) : Gives w p table (.ok .default)
  | notTable {v : Toml.Value} (he : toolValue? table = some v) (hv : ∀ found, v ≠ .table found) :
      Gives w p table (.error (.config (.notTable p.text)))
  | wellFormed {found : Toml.Table} {c : Config} (he : toolValue? table = some (.table found))
      (hw : WellFormed found) (hs : Holds w p found c) : Gives w p table (.ok c)
  | flawed {found : Toml.Table} {flaws : List Flaw} (he : toolValue? table = some (.table found))
      (hw : ¬ WellFormed found) (hl : flaws.map Flaw.location = offenders found) :
      Gives w p table (.error (.config (.flawed (.document p.text) flaws)))

lemma gives_of_section (ht : readDocument w p = .ok table)
    (he : toolValue? table = some (.table found))
    (hh : ∀ script, given? found Field.linterScript.name = some (.string script) →
      ∃ q, w.expandHome (Path.ofText script) = .ok q) :
    Gives w p table (ofDocument w p) := by
  obtain ⟨fields, ha⟩ : ∃ fields, anchored w p (sectionFields found) = .ok fields := by
    rcases ha : anchored w p (sectionFields found) with f | fields
    · obtain ⟨script, e, hs, hx, -⟩ := anchored_eq_error_iff.mp ha
      obtain ⟨v, hg, hv⟩ := Option.map_eq_some_iff.mp ((get?_sectionFields_eq _ _).symm.trans hs)
      obtain rfl := toDatum_eq_text hv
      obtain ⟨q, hq⟩ := hh script hg
      cases hx.symm.trans hq
    · exact ⟨fields, rfl⟩
  have hflaws : (givenFlaws fields).map Flaw.location = offenders found := by
    rw [givenFlaws_of_anchored ha, map_location_givenFlaws]
  have hgood : givenFlaws fields = [] ↔ WellFormed found := by
    rw [← offenders_eq_nil_iff, ← hflaws, List.map_eq_nil_iff]
  have hload : ofDocument w p
      = (ofFields fields).mapError fun flaws => .config (.flawed (.document p.text) flaws) := by
    rw [ofDocument_eq ht, he]
    dsimp only
    rw [ha]
    rfl
  rw [hload]
  by_cases hw : WellFormed found
  · have hc : ofFields fields = .ok (givenConfig fields) := by
      rw [ofFields_eq, if_pos (hgood.mpr hw)]
    have hd := distinct_of_toolValue? (distinct_of_readDocument ht) he
    rw [hc]
    exact .wellFormed he hw (holds_of_ofFields hd ha hc)
  · rw [ofFields_eq, if_neg (mt hgood.mp hw)]
    exact .flawed he hw hflaws

lemma gives_ofDocument (ht : readDocument w p = .ok table)
    (hh : ∀ found script, toolValue? table = some (.table found) →
      given? found Field.linterScript.name = some (.string script) →
      ∃ q, w.expandHome (Path.ofText script) = .ok q) :
    Gives w p table (ofDocument w p) := by
  rcases he : toolValue? table with _ | v
  · rw [ofDocument_eq ht, he]
    exact .noEntry he
  cases v with
  | table found => exact gives_of_section ht he fun script => hh found script he
  | _ =>
    rw [ofDocument_eq ht, he]
    exact .notTable he nofun

namespace Gives

variable {result : Except Failure Config}

/-- There is a configuration error where the entry is not a section that is well formed. -/
lemma error_iff (h : Gives w p table result) :
    (∃ e, result = .error (.config e)) ↔
      ∃ v, toolValue? table = some v ∧ ∀ found, v = .table found → ¬ WellFormed found := by
  cases h with
  | noEntry he =>
    refine iff_of_false nofun ?_
    rintro ⟨v, hv, -⟩
    cases he.symm.trans hv
  | notTable he hv => exact iff_of_true ⟨_, rfl⟩ ⟨_, he, fun found h => absurd h (hv found)⟩
  | wellFormed he hw hs =>
    refine iff_of_false nofun ?_
    rintro ⟨v, hv, hn⟩
    cases he.symm.trans hv
    exact hn _ rfl hw
  | flawed he hw hl =>
    refine iff_of_true ⟨_, rfl⟩ ⟨_, he, ?_⟩
    rintro _ ⟨⟩
    exact hw

lemma isConfig (h : Gives w p table result) (hf : result = .error f) : f.IsConfig := by
  cases h with
  | noEntry | wellFormed => cases hf
  | notTable | flawed =>
    cases hf
    exact .config _

/-- The error of a section tells of every place that does not fit. -/
lemma exists_flaws (h : Gives w p table result) (he : toolValue? table = some (.table found))
    (hf : result = .error f) :
    ∃ flaws, f = .config (.flawed (.document p.text) flaws) ∧
      flaws.map Flaw.location = offenders found := by
  cases h with
  | noEntry | wellFormed => cases hf
  | notTable he' hv =>
    cases he.symm.trans he'
    exact absurd rfl (hv found)
  | flawed he' hw hl =>
    cases he.symm.trans he'
    cases hf
    exact ⟨_, rfl, hl⟩

lemma holds (h : Gives w p table result) (he : toolValue? table = some (.table found))
    (hc : result = .ok c) : Holds w p found c := by
  cases h with
  | noEntry he' => cases he.symm.trans he'
  | notTable | flawed => cases hc
  | wellFormed he' hw hs =>
    cases he.symm.trans he'
    cases hc
    exact hs

end Gives

/-- A document means the same wherever it is read from by the same path. -/
lemma load_congr {w' : Workspace} {root' document' : Option Path}
    (ht : readDocument w (document.getD (projectDocument w root)) = .ok table)
    (hp : document'.getD (projectDocument w' root') = document.getD (projectDocument w root))
    (ht' : readDocument w' (document.getD (projectDocument w root)) = .ok table)
    (hhome : w'.home = w.home) (hhomes : w'.homes = w.homes) :
    load w' root' document' = load w root document := by
  rw [← hp] at ht'
  rw [load_of_readDocument ht, load_of_readDocument ht', ofDocument_eq ht, ofDocument_eq ht', hp,
    anchored_congr hhome hhomes]

/-- What the document of a project means, if it is TOML and the home directory that its linter
script starts at is known. Without an entry for the linter the configuration is the default. There
is a configuration error if the entry is no table, or has a key that stands for no field or a value
that does not fit, and nothing else goes wrong. The error tells of all of these, each once, in the
order of the fields and with the unknown names last. A configuration holds what the section says. It
depends on the table and the path of the document and on the home directories only, and so not on
the current directory. -/
theorem load_section
    (ht : readDocument w (document.getD (projectDocument w root)) = .ok table)
    (hh : ∀ found script, toolValue? table = some (.table found) →
      given? found Field.linterScript.name = some (.string script) →
      ∃ q, w.expandHome (Path.ofText script) = .ok q) :
    let p := document.getD (projectDocument w root)
    (toolValue? table = none → load w root document = .ok .default) ∧
    ((∃ e, load w root document = .error (.config e)) ↔
      ∃ v, toolValue? table = some v ∧ ∀ found, v = .table found → ¬ WellFormed found) ∧
    (∀ f, load w root document = .error f → f.IsConfig) ∧
    (∀ found f, toolValue? table = some (.table found) → load w root document = .error f →
      ∃ flaws, f = .config (.flawed (.document p.text) flaws) ∧
        f.message = "Invalid configuration in " ++ p.text ++ ": " ++ Text.join "; "
          (flaws.map fun flaw => Text.join "." flaw.location ++ ": " ++ flaw.message) ∧
        flaws.map Flaw.location = offenders found ∧ (offenders found).Nodup) ∧
    (∀ found c, toolValue? table = some (.table found) → load w root document = .ok c →
      Holds w p found c) ∧
    (∀ w' root' document', document'.getD (projectDocument w' root') = p →
      readDocument w' p = .ok table → w'.home = w.home → w'.homes = w.homes →
      load w' root' document' = load w root document) := by
  intro p
  have hload : load w root document = ofDocument w p := load_of_readDocument ht
  have hgives : Gives w p table (load w root document) := hload ▸ gives_ofDocument ht hh
  refine ⟨?_, hgives.error_iff, fun f => hgives.isConfig, ?_, fun found c => hgives.holds, ?_⟩
  · intro he
    rw [hload, ofDocument_eq ht, he]
  · intro found f he hf
    obtain ⟨flaws, rfl, hl⟩ := hgives.exists_flaws he hf
    have hd := distinct_of_toolValue? (distinct_of_readDocument ht) he
    exact ⟨flaws, rfl, rfl, hl, nodup_offenders hd⟩
  · intro w' root' document' hp ht' hhome hhomes
    exact load_congr ht hp ht' hhome hhomes

/-- A project with a document whose section does not fit, and one whose section is well formed. -/
def twoDocuments : Workspace where
  tree := ⟨[([documentName],
      .file (("[tool.pyjshint]\na-b=0\noutput=1\noptions.x=2" : Text).flatMap Utf8.octets)),
    (["d"], .directory),
    (["d", "s"],
      .file (("[tool.pyjshint]\nlinter-script='l'\noptions.x=true" : Text).flatMap Utf8.octets))]⟩
  current := []
  home := ⟨.slash, []⟩
  homes := []

/-- The section of the first document, which has an unknown name and two values that do not fit. -/
def flawedSection : Toml.Table :=
  [("a-b", .integer 0), ("output", .integer 1), ("options", .table [("x", .integer 2)])]

def goodSection : Toml.Table :=
  [("linter-script", .string "l"), ("options", .table [("x", .boolean true)])]

theorem load_section_twoDocuments :
    readDocument twoDocuments (projectDocument twoDocuments none)
        = .ok [("tool", .table [("pyjshint", .table flawedSection)])] ∧
      given? flawedSection Field.linterScript.name = none ∧
      (∃ flaws, load twoDocuments none none
          = .error (.config (.flawed (.document "/pyproject.toml") flaws)) ∧
        flaws.map Flaw.location
          = [[Field.options.name, "x"], [Field.output.name], [("a_b" : Text)]]) ∧
    readDocument twoDocuments ⟨.current, ["d", "s"]⟩
        = .ok [("tool", .table [("pyjshint", .table goodSection)])] ∧
      twoDocuments.expandHome (Path.ofText "l") = .ok ⟨.current, ["l"]⟩ ∧
      ∃ c, load twoDocuments none (some ⟨.current, ["d", "s"]⟩) = .ok c ∧
        c.linterScript = some ⟨.current, ["d", "l"]⟩ := by
  have hflawed : readDocument twoDocuments (projectDocument twoDocuments none)
      = .ok [("tool", .table [("pyjshint", .table flawedSection)])] := by cbv
  have hgood : readDocument twoDocuments ⟨.current, ["d", "s"]⟩
      = .ok [("tool", .table [("pyjshint", .table goodSection)])] := by cbv
  have hnone : given? flawedSection Field.linterScript.name = none := by rfl
  have hhome : twoDocuments.expandHome (Path.ofText "l") = .ok ⟨.current, ["l"]⟩ := by rfl
  refine ⟨hflawed, hnone, ?_, hgood, hhome, ?_⟩
  · have hh (found : Toml.Table) (script : Text)
        (he : toolValue? [("tool", .table [("pyjshint", .table flawedSection)])]
          = some (.table found))
        (hs : given? found Field.linterScript.name = some (.string script)) :
        ∃ q, twoDocuments.expandHome (Path.ofText script) = .ok q := by
      obtain rfl := Toml.Value.table.inj (Option.some.inj he)
      cases hnone.symm.trans hs
    have hoffenders : offenders flawedSection
        = [[Field.options.name, "x"], [Field.output.name], ["a_b"]] := by rfl
    have hbad : ¬ WellFormed flawedSection := by
      rw [← offenders_eq_nil_iff, hoffenders]
      exact List.cons_ne_nil _ _
    obtain ⟨-, herror, -, hflaws, -, -⟩ := @load_section twoDocuments none none _ hflawed hh
    obtain ⟨e, he⟩ := herror.mpr ⟨.table flawedSection, rfl, by rintro _ ⟨⟩; exact hbad⟩
    obtain ⟨flaws, hf, -, hl, -⟩ := hflaws flawedSection _ rfl he
    exact ⟨flaws, he.trans (congrArg Except.error hf), hl.trans hoffenders⟩
  · have hh (found : Toml.Table) (script : Text)
        (he : toolValue? [("tool", .table [("pyjshint", .table goodSection)])]
          = some (.table found))
        (hs : given? found Field.linterScript.name = some (.string script)) :
        ∃ q, twoDocuments.expandHome (Path.ofText script) = .ok q := by
      obtain rfl := Toml.Value.table.inj (Option.some.inj he)
      obtain rfl : "l" = script := Toml.Value.string.inj (Option.some.inj hs)
      exact ⟨_, hhome⟩
    have hw : WellFormed goodSection := offenders_eq_nil_iff.mp (by rfl)
    obtain ⟨-, herror, hconfig, -, hholds, -⟩ :=
      @load_section twoDocuments none (some ⟨.current, ["d", "s"]⟩) _ hgood hh
    rcases hload : load twoDocuments none (some ⟨.current, ["d", "s"]⟩) with f | c
    · obtain ⟨e⟩ := hconfig f hload
      obtain ⟨v, hv, hn⟩ := herror.mp ⟨e, hload⟩
      exact absurd hw (hn goodSection (Option.some.inj hv).symm)
    · refine ⟨c, rfl, ?_⟩
      obtain ⟨hn, -⟩ | ⟨t, q, ht, hq, hc⟩ := (hholds goodSection c rfl hload).linterScript
      · cases hn
      · obtain rfl : "l" = t := Toml.Value.string.inj (Option.some.inj ht)
        cases hhome.symm.trans hq
        exact hc

end ScriptLint.Config
