import ScriptLint.Config.Load
import ScriptLint.Proofs.Config.Fields

/-!
# Options in documents

The options of a configuration that is read from a document are those that the table of options
lists, in its order.
-/

namespace ScriptLint

lemma Text.replace_of_notMem {c d : CodePoint} {t : Text} (h : c ∉ t) :
    Text.replace c d t = t := by
  have hx : ∀ x ∈ t, (if x = c then d else x) = id x := by
    rintro x hx
    refine if_neg ?_
    rintro rfl
    exact h hx
  rw [Text.replace, List.map_congr_left hx, List.map_id]

/-- A text without both code points comes of itself only. -/
lemma Text.replace_eq_iff {c d : CodePoint} {t u : Text} (hc : c ∉ u) (hd : d ∉ u) :
    Text.replace c d t = u ↔ t = u := by
  constructor
  · rintro rfl
    have ht : c ∉ t := fun hm => hd (List.mem_map.mpr ⟨c, hm, if_pos rfl⟩)
    exact (replace_of_notMem ht).symm
  · rintro rfl
    exact replace_of_notMem hc

lemma Entries.get?_map_entries {κ α β : Type} [DecidableEq κ] {k : κ} {f : κ → κ} (g : α → β)
    (hf : ∀ k', f k' = k ↔ k' = k) (es : List (κ × α)) :
    get? k (es.map fun e => (f e.1, g e.2)) = (get? k es).map g := by
  induction es with
  | nil => rfl
  | cons e es ih =>
    obtain ⟨k', v⟩ := e
    rw [List.map_cons, get?_cons, get?_cons, ih]
    by_cases h : k' = k <;> simp [hf, h]

namespace Config

/-! ### Tables of options -/

/-- A table of options in a document, with the options that it lists. -/
def optionTable (listed : List (Text × Bool)) : Toml.Value :=
  .table (listed.map fun e => (e.1, .boolean e.2))

/-- Only a table of options is given as options are. -/
lemma eq_of_membersToDatum {ms : List (Text × Toml.Value)} {listed : List (Text × Bool)}
    (h : Toml.membersToDatum ms = listed.map optionMember) :
    ms = listed.map fun e => (e.1, .boolean e.2) := by
  induction ms generalizing listed with
  | nil =>
    cases listed with
    | nil => rfl
    | cons e listed => cases h
  | cons m ms ih =>
    obtain ⟨name, v⟩ := m
    cases listed with
    | nil => cases h
    | cons e listed =>
      rw [Toml.membersToDatum, List.map_cons, List.cons.injEq] at h
      obtain ⟨hm, hms⟩ := h
      cases v with
      | boolean b =>
        cases hm
        rw [ih hms]
        rfl
      | _ => cases hm

lemma notBytes_of_mem_membersToDatum {ms : List (Text × Toml.Value)} :
    ∀ m ∈ Toml.membersToDatum ms, NotBytes m.1 := by
  induction ms with
  | nil => exact List.forall_mem_nil _
  | cons m ms ih =>
    rw [Toml.membersToDatum]
    exact List.forall_mem_cons.mpr ⟨nofun, ih⟩

lemma optionTable_of_asOptions {v : Toml.Value} {options : Options}
    (h : asOptions v.toDatum = .ok options) :
    ∃ listed, v = optionTable listed ∧ options = .ofList listed := by
  cases v with
  | table ms =>
    rw [Toml.Value.toDatum] at h
    obtain ⟨listed, hl, rfl⟩ := exists_of_asOptions notBytes_of_mem_membersToDatum h
    exact ⟨listed, congrArg Toml.Value.table (eq_of_membersToDatum hl), rfl⟩
  | _ => cases h

/-! ### Fields -/

/-- The options of a configuration are those that are given, or none. -/
lemma options_of_ofFields {given : List (Text × Datum)} {c : Config} (h : ofFields given = .ok c) :
    (Entries.get? Field.options.name given = none ∧ c.options = .empty) ∨
      ∃ v, Entries.get? Field.options.name given = some v ∧ asOptions v = .ok c.options := by
  obtain ⟨-, hr⟩ := ofFields_eq_ok_iff.mp h
  have hr := hr .options
  rcases hg : Entries.get? Field.options.name given with _ | v <;> rw [hg] at hr
  · exact .inl ⟨rfl, hr⟩
  · exact .inr ⟨v, rfl, hr⟩

/-! ### Documents -/

/-- The field of options of a section is that of its table of options. -/
lemma get?_sectionFields (found : Toml.Table) :
    Entries.get? Field.options.name (sectionFields found)
      = ((OrderedMap.ofList found).get? Field.options.name).map Toml.Value.toDatum := by
  have hname (t : Text) : Text.replace '-' '_' t = Field.options.name ↔ t = Field.options.name :=
    Text.replace_eq_iff (by decide) (by decide)
  rw [OrderedMap.get?_ofList, ← Entries.get?_map_entries _ hname, List.map_reverse,
    ← OrderedMap.get?_ofList]
  rfl

/-- Fields are anchored by a path in the place of the text of the script, and otherwise not at
all. -/
lemma cases_of_anchored {w : Workspace} {p : Path} {fields fields' : List (Text × Datum)}
    (h : anchored w p fields = .ok fields') :
    (∃ script q, Entries.get? Field.linterScript.name fields = some (.text script) ∧
      anchor w p script = .ok q ∧
      fields' = Entries.put Field.linterScript.name (.path q) fields) ∨
    (fields' = fields ∧
      ∀ script, Entries.get? Field.linterScript.name fields ≠ some (.text script)) := by
  rw [anchored] at h
  split at h
  · next script hs =>
    rcases ha : anchor w p script with f | q <;> rw [ha] at h <;> cases h
    exact .inl ⟨script, q, hs, ha, rfl⟩
  · next hn =>
    cases h
    exact .inr ⟨rfl, hn⟩

lemma get?_of_anchored {w : Workspace} {p : Path} {fields fields' : List (Text × Datum)}
    (h : anchored w p fields = .ok fields') {name : Text} (hn : Field.linterScript.name ≠ name) :
    Entries.get? name fields' = Entries.get? name fields := by
  obtain ⟨script, q, -, -, rfl⟩ | ⟨rfl, -⟩ := cases_of_anchored h
  · exact (Entries.get?_put _ _ _ _).trans (if_neg hn)
  · rfl

/-- The options that a document lists: none if it has no section for the linter, or if the section
has no table of options, and otherwise those of the table. -/
inductive DocumentLists (w : Workspace) (p : Path) : List (Text × Bool) → Prop
  | noSection {table : Toml.Table} (ht : readDocument w p = .ok table)
      (hs : section? p table = .ok none) : DocumentLists w p []
  | noOptions {table found : Toml.Table} (ht : readDocument w p = .ok table)
      (hs : section? p table = .ok (some found))
      (ho : (OrderedMap.ofList found).get? Field.options.name = none) : DocumentLists w p []
  | options {table found : Toml.Table} {listed : List (Text × Bool)}
      (ht : readDocument w p = .ok table) (hs : section? p table = .ok (some found))
      (ho : (OrderedMap.ofList found).get? Field.options.name = some (optionTable listed)) :
      DocumentLists w p listed

/-- The document of a project, if none is asked for. -/
def projectDocument (w : Workspace) (root : Option Path) : Path :=
  (root.getD w.currentPath).append (Path.ofText documentName)

/-- The options that a project lists in its document, or in the one that is asked for. -/
inductive Lists (w : Workspace) (root document : Option Path) : List (Text × Bool) → Prop
  | noDocument (hd : document = none) (hf : w.isFile (projectDocument w root) = .ok false) :
      Lists w root document []
  | document {listed : List (Text × Bool)}
      (h : DocumentLists w (document.getD (projectDocument w root)) listed) :
      Lists w root document listed

lemma documentLists_of_ofDocument {w : Workspace} {p : Path} {c : Config}
    (h : ofDocument w p = .ok c) :
    ∃ listed, DocumentLists w p listed ∧ c.options = .ofList listed := by
  rw [ofDocument] at h
  rcases ht : readDocument w p with f | table <;> rw [ht] at h
  · cases h
  dsimp only [bind, Except.bind] at h
  rcases hs : section? p table with f | _ | found <;> rw [hs] at h
  · cases h
  · cases h
    exact ⟨[], .noSection ht hs, rfl⟩
  dsimp only at h
  rcases ha : anchored w p (sectionFields found) with f | fields <;> rw [ha] at h
  · cases h
  dsimp only at h
  rcases hf : ofFields fields with flaws | c' <;> rw [hf] at h <;> cases h
  have hg := options_of_ofFields hf
  rw [get?_of_anchored ha (by decide), get?_sectionFields] at hg
  obtain ⟨hg, ho⟩ | ⟨v, hg, ho⟩ := hg
  · exact ⟨[], .noOptions ht hs (Option.map_eq_none_iff.mp hg), ho⟩
  · obtain ⟨v, hv, rfl⟩ := Option.map_eq_some_iff.mp hg
    obtain ⟨listed, rfl, hl⟩ := optionTable_of_asOptions ho
    exact ⟨listed, .options ht hs hv, hl⟩

/-- Only a document that is asked for has to be there. -/
lemma load_eq (w : Workspace) (root document : Option Path) :
    load w root document = (match w.isFile (document.getD (projectDocument w root)) with
      | .error e   => .error (.file e)
      | .ok true   => ofDocument w (document.getD (projectDocument w root))
      | .ok false  => match document with
        | some p => .error (.config (.noDocument p.text))
        | none   => .ok .default) := by
  cases document with
  | some p =>
    rw [load, Option.getD_some]
    rcases w.isFile p with e | _ | _ <;> rfl
  | none =>
    rw [load, Option.getD_none, ← projectDocument]
    rcases w.isFile (projectDocument w root) with e | _ | _ <;> rfl

/-- A configuration that is loaded has the options that the project lists. -/
lemma lists_of_load {w : Workspace} {root document : Option Path} {c : Config}
    (h : load w root document = .ok c) :
    ∃ listed, Lists w root document listed ∧ c.options = .ofList listed := by
  rw [load_eq] at h
  rcases hf : w.isFile (document.getD (projectDocument w root)) with e | _ | _ <;> rw [hf] at h
  · cases h
  · cases document with
    | some p => cases h
    | none =>
      cases h
      exact ⟨[], .noDocument rfl hf, rfl⟩
  · obtain ⟨listed, hl, ho⟩ := documentLists_of_ofDocument h
    exact ⟨listed, .document hl, ho⟩

end Config

end ScriptLint
