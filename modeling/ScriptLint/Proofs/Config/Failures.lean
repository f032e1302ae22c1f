import ScriptLint.Proofs.Config.Document
import ScriptLint.Proofs.Files.Reading

/-!
# Failures that are no configuration errors

A configuration that cannot be loaded or merged has a configuration error, except where a document
cannot be looked for, decoded or read, where no home directory is known for its linter script, and
where options to be merged are no mapping.
-/

namespace ScriptLint

/-- A failure of the settings themselves. -/
inductive Failure.IsConfig : Failure → Prop
  | config (e : ConfigError) : IsConfig (.config e)

lemma Failure.not_isConfig_file (e : FileError) : ¬ (Failure.file e).IsConfig := by
  rintro ⟨⟩

lemma Failure.not_isConfig_integerTooLong (digits : Nat) :
    ¬ (Failure.integerTooLong digits).IsConfig := by
  rintro ⟨⟩

lemma Failure.not_isConfig_notMapping (typeName : Text) :
    ¬ (Failure.notMapping typeName).IsConfig := by
  rintro ⟨⟩

namespace Config

variable {w : Workspace} {p : Path} {f : Failure}

/-! ### Loading -/

/-- Why a document is not read, other than a configuration error. -/
inductive Unread (w : Workspace) (p : Path) : Failure → Prop
  | undecodable {content : List Byte} {e : Utf8.DecodeError} (hc : w.read p = .ok content)
      (hd : Utf8.decode content = .error e) : Unread w p (.file (.undecodable e))
  | integerTooLong {content : List Byte} {t : Text} {digits : Nat} (hc : w.read p = .ok content)
      (hd : Utf8.decode content = .ok t) (ht : Toml.read t = .error (.integerTooLong digits)) :
      Unread w p (.integerTooLong digits)

/-- Why a project has no configuration, other than a configuration error, where `p` is its
document. -/
inductive Escapes (w : Workspace) (p : Path) : Failure → Prop
  /-- The document cannot be looked for. -/
  | lookup {e : FileError} (h : w.isFile p = .error e) : Escapes w p (.file e)
  | unread {f : Failure} (h : Unread w p f) : Escapes w p f
  /-- The linter script starts at a home directory that is not known. -/
  | home {table found : Toml.Table} {script : Text} {e : FileError}
      (ht : readDocument w p = .ok table) (hs : section? p table = .ok (some found))
      (hl : Entries.get? Field.linterScript.name (sectionFields found) = some (.text script))
      (he : w.expandHome (Path.ofText script) = .error e) : Escapes w p (.file e)

lemma exists_content_of_readDocument {table : Toml.Table} (h : readDocument w p = .ok table) :
    ∃ content, w.read p = .ok content := by
  rw [readDocument] at h
  rcases hc : w.read p with e | content <;> rw [hc] at h
  · cases h
  · exact ⟨content, rfl⟩

lemma Unread.exists_content (h : Unread w p f) : ∃ content, w.read p = .ok content := by
  cases h with
  | undecodable hc hd => exact ⟨_, hc⟩
  | integerTooLong hc hd ht => exact ⟨_, hc⟩

/-- A document that is there is not read because of a configuration error, or as `Unread` says. -/
lemma unread_iff (hp : w.isFile p = .ok true) :
    readDocument w p = .error f ∧ ¬ f.IsConfig ↔ Unread w p f := by
  obtain ⟨content, hc⟩ := Workspace.isFile_iff.mp hp
  constructor
  · rintro ⟨h, hf⟩
    rw [readDocument, hc] at h
    dsimp only [Except.mapError, bind, Except.bind] at h
    rcases hd : Utf8.decode content with e | t <;> rw [hd] at h
    · cases h
      exact .undecodable hc hd
    dsimp only at h
    rcases ht : Toml.read t with e | table <;> rw [ht] at h
    · cases e with
      | malformed =>
        cases h
        exact absurd (.config _) hf
      | integerTooLong digits =>
        cases h
        exact .integerTooLong hc hd ht
    · cases h
  · rintro h
    cases h with
    | undecodable hc hd =>
      refine ⟨?_, Failure.not_isConfig_file _⟩
      rw [readDocument, hc]
      dsimp only [Except.mapError, bind, Except.bind]
      rw [hd]
    | integerTooLong hc hd ht =>
      refine ⟨?_, Failure.not_isConfig_integerTooLong _⟩
      rw [readDocument, hc]
      dsimp only [Except.mapError, bind, Except.bind]
      rw [hd]
      dsimp only
      rw [ht]

/-- Only the home directory that the script starts at keeps fields from being anchored. -/
lemma anchored_eq_error_iff {fields : List (Text × Datum)} :
    anchored w p fields = .error f ↔ ∃ script e,
      Entries.get? Field.linterScript.name fields = some (.text script) ∧
        w.expandHome (Path.ofText script) = .error e ∧ f = .file e := by
  rw [anchored]
  split
  · next script hs =>
    rw [hs, anchor]
    rcases he : w.expandHome (Path.ofText script) with e | found
    · constructor
      · intro h
        cases h
        exact ⟨script, e, rfl, he, rfl⟩
      · rintro ⟨script', e', hs', he', rfl⟩
        cases hs'
        cases he.symm.trans he'
        rfl
    · constructor
      · intro h
        cases h
      · rintro ⟨script', e', hs', he', rfl⟩
        cases hs'
        cases he.symm.trans he'
  · next hn =>
    constructor
    · intro h
      cases h
    · rintro ⟨script, e, hs, -, -⟩
      exact absurd hs (hn script)

/-- A document that is there gives no configuration because of a configuration error, or as
`Escapes` says. -/
lemma ofDocument_failure_iff (hp : w.isFile p = .ok true) :
    ofDocument w p = .error f ∧ ¬ f.IsConfig ↔ Escapes w p f := by
  rcases ht : readDocument w p with e | table
  · have hd : ofDocument w p = .error e := by rw [ofDocument, ht]; rfl
    have hf : ofDocument w p = .error f ↔ readDocument w p = .error f := by
      rw [hd, ht, Except.error.injEq, Except.error.injEq]
    rw [hf, unread_iff hp]
    refine ⟨.unread, ?_⟩
    rintro (h | h | ⟨ht', -, -, -⟩)
    · cases hp.symm.trans h
    · exact h
    · cases ht.symm.trans ht'
  constructor
  · rintro ⟨h, hf⟩
    rw [ofDocument, ht] at h
    dsimp only [bind, Except.bind] at h
    rcases hs : section? p table with e | _ | found <;> rw [hs] at h
    · cases h
      rw [section?.eq_def] at hs
      split at hs
      · split at hs <;> cases hs
        exact absurd (.config _) hf
      · cases hs
    · cases h
    dsimp only at h
    rcases ha : anchored w p (sectionFields found) with e | fields <;> rw [ha] at h
    · cases h
      obtain ⟨script, e, hl, he, rfl⟩ := anchored_eq_error_iff.mp ha
      exact .home ht hs hl he
    · dsimp only at h
      rcases hc : ofFields fields with flaws | c <;> rw [hc] at h <;> cases h
      exact absurd (.config _) hf
  · rintro (h | h | ⟨ht', hs, hl, he⟩)
    · cases hp.symm.trans h
    · cases ht.symm.trans ((unread_iff hp).mpr h).1
    · cases ht.symm.trans ht'
      refine ⟨?_, Failure.not_isConfig_file _⟩
      rw [ofDocument, ht]
      dsimp only [bind, Except.bind]
      rw [hs]
      dsimp only
      rw [anchored_eq_error_iff.mpr ⟨_, _, hl, he, rfl⟩]

lemma Escapes.isFile {b : Bool} (h : Escapes w p f) (hp : w.isFile p = .ok b) : b = true := by
  have hc (hc : ∃ content, w.read p = .ok content) : b = true :=
    Except.ok.inj (hp.symm.trans (Workspace.isFile_iff.mpr hc))
  cases h with
  | lookup h => cases hp.symm.trans h
  | unread h => exact hc h.exists_content
  | home ht hs hl he => exact hc (exists_content_of_readDocument ht)

lemma load_failure_iff {root document : Option Path} :
    load w root document = .error f ∧ ¬ f.IsConfig ↔
      Escapes w (document.getD (projectDocument w root)) f := by
  rw [load_eq]
  rcases hp : w.isFile (document.getD (projectDocument w root)) with e | _ | _
  · constructor
    · rintro ⟨h, -⟩
      cases h
      exact .lookup hp
    · rintro (h | h | ⟨ht, -, -, -⟩)
      · cases hp.symm.trans h
        exact ⟨rfl, Failure.not_isConfig_file e⟩
      · cases hp.symm.trans (Workspace.isFile_iff.mpr h.exists_content)
      · cases hp.symm.trans (Workspace.isFile_iff.mpr (exists_content_of_readDocument ht))
  · refine ⟨?_, fun h => absurd (h.isFile hp) Bool.false_ne_true⟩
    rintro ⟨h, hf⟩
    cases document with
    | some p =>
      cases h
      exact absurd (.config _) hf
    | none => cases h
  · exact ofDocument_failure_iff hp

/-! ### Merging -/

/-- A value that options cannot be merged with: one that is there and is no mapping. -/
def Unmergeable (v : Datum) : Prop := v ≠ .null ∧ ∀ members, v ≠ .mapping members

lemma mergeOptions_eq_error_iff (own : List (Datum × Datum)) {v : Datum} :
    mergeOptions own v = .error f ↔
      (∀ members, v ≠ .mapping members) ∧ f = .notMapping v.typeName := by
  cases v <;> simp [mergeOptions, eq_comm]

lemma override_eq_error_iff {fields : List (Text × Datum)} {name : Text} {v : Datum} :
    override fields name v = .error f ↔
      name = Field.options.name ∧ Unmergeable v ∧ f = .notMapping v.typeName := by
  have hm (own : List (Datum × Datum)) (g : Datum → List (Text × Datum)) :
      (mergeOptions own v >>= fun merged => pure (g merged)) = .error f ↔
        (∀ members, v ≠ .mapping members) ∧ f = .notMapping v.typeName := by
    rw [← mergeOptions_eq_error_iff own]
    rcases mergeOptions own v with e | merged <;> simp [bind, Except.bind, pure, Except.pure]
  rw [override.eq_def]
  split
  · constructor
    · intro h
      cases h
    · rintro ⟨-, hv, -⟩
      exact absurd rfl hv.1
  · next hv =>
    split_ifs with hn
    · have hu : Unmergeable v ↔ ∀ members, v ≠ .mapping members := and_iff_right hv
      rw [hu]
      split
      · rw [hm, and_iff_right hn]
      · rw [hm, and_iff_right hn]
    · constructor
      · intro h
        cases h
      · rintro ⟨hn', -⟩
        exact absurd hn' hn

/-- Overrides with different names fail to be put into fields because of the options only. -/
lemma foldlM_override_eq_error_iff {overrides : List (Text × Datum)}
    (fields : List (Text × Datum)) (hn : (Entries.keys overrides).Nodup) :
    overrides.foldlM (fun fields e => override fields e.1 e.2) fields = .error f ↔
      ∃ v, Entries.get? Field.options.name overrides = some v ∧ Unmergeable v ∧
        f = .notMapping v.typeName := by
  induction overrides generalizing fields with
  | nil => simp [pure, Except.pure]
  | cons e overrides ih =>
    obtain ⟨name, v⟩ := e
    rw [Entries.keys, List.map_cons, List.nodup_cons] at hn
    rw [List.foldlM_cons, Entries.get?_cons]
    rcases ho : override fields name v with e | fields'
    · obtain ⟨rfl, hv, rfl⟩ := override_eq_error_iff.mp ho
      rw [if_pos rfl]
      constructor
      · intro h
        cases h
        exact ⟨v, rfl, hv, rfl⟩
      · rintro ⟨v', hv', -, rfl⟩
        cases hv'
        rfl
    · dsimp only [bind, Except.bind]
      rw [ih fields' hn.2]
      split_ifs with hname
      · -- the options were merged, and they are not there again
        subst hname
        rw [Entries.get?_eq_none hn.1]
        constructor
        · rintro ⟨_, hv', -⟩
          cases hv'
        · rintro ⟨v', hv', hu, rfl⟩
          cases hv'
          cases ho.symm.trans (override_eq_error_iff.mpr ⟨rfl, hu, rfl⟩)
      · exact Iff.rfl

lemma merge_failure_iff {c : Config} {overrides : OrderedMap Text Datum} :
    c.merge overrides.entries = .error f ∧ ¬ f.IsConfig ↔
      ∃ v, overrides.get? Field.options.name = some v ∧ Unmergeable v ∧
        f = .notMapping v.typeName := by
  rw [OrderedMap.get?, ← foldlM_override_eq_error_iff c.toFields overrides.distinct,
    ← overridden, merge]
  rcases ho : c.overridden overrides.entries with e | fields
  · constructor
    · rintro ⟨h, -⟩
      cases h
      rfl
    · intro h
      cases h
      obtain ⟨v, -, -, rfl⟩ := (foldlM_override_eq_error_iff _ overrides.distinct).mp ho
      exact ⟨rfl, Failure.not_isConfig_notMapping _⟩
  · constructor
    · rintro ⟨h, hf⟩
      dsimp only [bind, Except.bind] at h
      rcases hc : ofFields fields with flaws | c' <;> rw [hc] at h <;> cases h
      exact absurd (.config _) hf
    · intro h
      cases h

/-! ### Both -/

/-- A configuration is loaded and merged, or there is a configuration error, but for the failures
that `Escapes` tells of and for options that are no mapping. The configuration that overrides are
merged into is a value, which no outcome changes. -/
theorem failures_exact (w : Workspace) (root document : Option Path) (c : Config)
    (overrides : OrderedMap Text Datum) (f : Failure) :
    (load w root document = .error f ∧ ¬ f.IsConfig ↔
      Escapes w (document.getD (projectDocument w root)) f) ∧
    (c.merge overrides.entries = .error f ∧ ¬ f.IsConfig ↔
      ∃ v, overrides.get? Field.options.name = some v ∧ Unmergeable v ∧
        f = .notMapping v.typeName) :=
  ⟨load_failure_iff, merge_failure_iff⟩

/-- A project whose document is not UTF-8. -/
def undecodableProject : Workspace where
  tree := ⟨[([documentName], .file [0xFF])]⟩
  current := []
  home := ⟨.slash, []⟩
  homes := []

/-- A document that is not UTF-8, and options that are a number, are no configuration errors. -/
theorem failures_undecodable :
    undecodableProject.read (projectDocument undecodableProject none) = .ok [0xFF] ∧
    (∃ e, load undecodableProject none none = .error (.file (.undecodable e))) ∧
    default.merge [(Field.options.name, .int 5)] = .error (.notMapping "int") := by
  exact ⟨by decide, ⟨⟨.invalidStart, 0, 1, 0xFF⟩, rfl⟩, rfl⟩

end Config

end ScriptLint
