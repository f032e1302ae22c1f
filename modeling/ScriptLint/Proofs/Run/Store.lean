import Mathlib.Logic.Function.Basic
import ScriptLint.Linter.Marker
import ScriptLint.Linter.Globals
import ScriptLint.Proofs.Run.Steps

/-!
# Runs on a store of globals

An engine may be no more than a store of globals with a linter behind it. On such an engine a run
is a map over its files: the result for a file depends on the text of that file and on the options,
and on nothing that was linted before it. The records of such an engine were not read, so a run may
end with a diagnostic that cannot be written; it does so just if one of its results has such a one.

The loop keeps one invariant, `Store.Holds`: the engine is ready, and the options it was given are
still bound. What the other globals hold when a file begins does not matter, since they are bound
anew before the driver runs.
-/

namespace ScriptLint

/-- The object of options as a value for an interpreter. -/
def Options.toJson (options : Options) : Json :=
  .object (options.entries.map fun e => (e.1, .bool e.2))

/-- An engine that is a store of globals: the scripts can be loaded, a global that is bound has the
value that it is bound to, and the driver appends what is found in the bound source under the bound
options to the bound errors. -/
structure Engine.Store {σ : Type} (e : Engine σ) (linter driver : Script)
    (found : (code : Text) → Options → List Json) where
  /-- The value of a global. -/
  value : σ → Text → Json
  /-- The linter script was loaded. -/
  hasLinter : σ → Prop
  /-- The linter script and the driver were loaded. -/
  ready : σ → Prop
  loadLinter : Action.Returns (fun _ => True) (e.loadScript linter.name linter.text)
    fun _ => hasLinter
  entry : Action.Returns hasLinter (e.evaluate Global.entryQuery)
    fun v s => v = .string Global.entryAnswer ∧ hasLinter s
  loadDriver : Action.Returns hasLinter
    (e.loadScript driver.name (Global.driverDefinition driver.text)) fun _ => ready
  bind : ∀ name v s, ready s → ∃ s', e.bindGlobal name v s = (.ok (), s') ∧ ready s' ∧
    value s' = Function.update (value s) name v
  run : ∀ code options records s, ready s → value s Global.currentCode = .string code →
    value s Global.options = options.toJson → value s Global.errors = .array records →
    ∃ v s', e.evaluate Global.driverCall s = (.ok v, s') ∧ ready s' ∧
      value s' = Function.update (value s) Global.errors (.array (records ++ found code options))
  read : ∀ name s, ready s → ∃ s', e.readGlobal name s = (.ok (value s name), s') ∧ ready s' ∧
    value s' = value s

lemma Globals.value_bind (g : Globals) (name : Text) (v : Json) :
    (g.bind name v).value = Function.update g.value name v := by
  funext n
  rw [Globals.value, Json.member, Globals.bind, Entries.get?_put, Function.update_apply]
  by_cases h : n = name
  · simp [h]
  · rw [if_neg h, if_neg fun hn => h hn.symm]
    rfl

namespace Engine.Store

open ScriptLint.Action Session Run

variable {σ : Type} {e : Engine σ} {linter driver : Script}
  {found : (code : Text) → Options → List Json}

/-- The scripts are loaded, and two globals are bound before any file is. -/
lemma prepare_returns (store : e.Store linter driver found) :
    Returns (fun _ => True) (prepare e linter driver) fun _ => store.ready := by
  intro s _
  obtain ⟨_, s₁, h₁, hl⟩ := store.loadLinter s trivial
  obtain ⟨_, s₂, h₂, rfl, hl⟩ := store.entry s₁ hl
  obtain ⟨_, s₃, h₃, hr⟩ := store.loadDriver s₂ hl
  obtain ⟨s₄, h₄, hr, -⟩ := store.bind Global.currentFile (.string []) s₃ hr
  obtain ⟨s₅, h₅, hr, -⟩ := store.bind Global.currentCode (.string []) s₄ hr
  refine ⟨(), s₅, ?_, hr⟩
  rw [prepare, bind_of_ok h₁, bind_of_ok h₂]
  simp only [ne_eq, not_true_eq_false, if_false]
  rw [bind_of_ok h₃, bind_of_ok h₄, h₅]

/-- Between two files the engine is ready and the options are bound. -/
structure Holds (store : e.Store linter driver found) (options : Options) (s : Session σ) :
    Prop where
  ready : store.ready s.engine
  options_eq : store.value s.engine Global.options = options.toJson
  optionsBound : s.optionsBound = true

/-- A file is bound, with a text. -/
structure Bound (store : e.Store linter driver found) (options : Options) (code : Text)
    (s : Session σ) : Prop extends store.Holds options s where
  code_eq : store.value s.engine Global.currentCode = .string code
  phase_eq : s.phase = .fileBound

/-- A file is bound and the collection of errors is empty. -/
structure Reset (store : e.Store linter driver found) (options : Options) (code : Text)
    (s : Session σ) : Prop extends store.Bound options code s where
  errors_eq : store.value s.engine Global.errors = .array []
  errorsReset : s.errorsReset = true

/-- The driver has run and has collected records. -/
structure Evaluated (store : e.Store linter driver found) (options : Options)
    (records : List Json) (s : Session σ) : Prop extends store.Holds options s where
  errors_eq : store.value s.engine Global.errors = .array records
  phase_eq : s.phase = .evaluated

variable (store : e.Store linter driver found) (options : Options)

lemma setOptions_returns :
    Returns (fun s => store.ready s.engine ∧ s.optionsBound = false) (setOptions e options)
      fun _ => store.Holds (effectiveOptions options) := by
  rintro s ⟨hr, hb⟩
  obtain ⟨engine, h, hr, hv⟩ := store.bind Global.options (optionsObject options) s.engine hr
  refine ⟨(), { s with engine, optionsBound := true }, ?_, hr, ?_, rfl⟩
  · rw [setOptions_apply_options, hb, h]
    rfl
  · show store.value engine Global.options = _
    rw [hv, Function.update_self]
    rfl

lemma setCurrentFile_returns (name code : Text) :
    Returns (store.Holds options) (setCurrentFile e name code)
      fun _ => store.Bound options code := by
  rintro s ⟨hr, ho, hb⟩
  obtain ⟨engine₁, h₁, hr, hv₁⟩ := store.bind Global.currentFile (.string name) s.engine hr
  obtain ⟨engine₂, h₂, hr, hv₂⟩ := store.bind Global.currentCode (.string code) engine₁ hr
  refine ⟨(), ⟨engine₂, .fileBound, s.optionsBound, false, some name⟩, ?_,
    ⟨⟨hr, ?_, hb⟩, ?_, rfl⟩⟩
  · simp only [setCurrentFile_apply, h₁, h₂]
  · show store.value engine₂ Global.options = _
    rw [hv₂, Function.update_of_ne (by decide), hv₁, Function.update_of_ne (by decide), ho]
  · show store.value engine₂ Global.currentCode = _
    rw [hv₂, Function.update_self]

lemma resetErrors_returns (code : Text) :
    Returns (store.Bound options code) (resetErrors e) fun _ => store.Reset options code := by
  rintro s ⟨⟨hr, ho, hb⟩, hc, hp⟩
  obtain ⟨engine, h, hr, hv⟩ := store.bind Global.errors (.array []) s.engine hr
  refine ⟨(), { s with engine, errorsReset := true }, ?_, ⟨⟨⟨hr, ?_, hb⟩, ?_, hp⟩, ?_, rfl⟩⟩
  · rw [resetErrors_apply, if_pos hp, h]
  · show store.value engine Global.options = _
    rw [hv, Function.update_of_ne (by decide), ho]
  · show store.value engine Global.currentCode = _
    rw [hv, Function.update_of_ne (by decide), hc]
  · show store.value engine Global.errors = _
    rw [hv, Function.update_self]

/-- The driver finds the records of the bound source alone, since the collection was empty. -/
lemma evaluate_returns (code : Text) :
    Returns (store.Reset options code) (Session.evaluate e)
      fun _ => store.Evaluated options (found code options) := by
  rintro s ⟨⟨⟨hr, ho, hb⟩, hc, hp⟩, he, hs⟩
  obtain ⟨v, engine, h, hr, hv⟩ := store.run code options [] s.engine hr hc ho he
  refine ⟨(), { s with engine, phase := .evaluated }, ?_, ⟨⟨hr, ?_, hb⟩, ?_, rfl⟩⟩
  · rw [evaluate_apply, if_neg (not_not_intro hb), if_pos ⟨hp, hs⟩, h]
  · show store.value engine Global.options = _
    rw [hv, Function.update_of_ne (by decide), ho]
  · show store.value engine Global.errors = _
    rw [hv, Function.update_self, List.nil_append]

lemma readErrors_returns (records : List Json) :
    Returns (store.Evaluated options records) (readErrors e)
      fun read s => read = records ∧ store.Holds options s := by
  rintro s ⟨⟨hr, ho, hb⟩, he, hp⟩
  obtain ⟨engine, h, hr, hv⟩ := store.read Global.errors s.engine hr
  refine ⟨records, { s with engine, phase := .read }, ?_, rfl, hr, ?_, hb⟩
  · rw [readErrors_apply, if_pos (.inl hp), h, he]
  · show store.value engine Global.options = _
    rw [hv, ho]

/-! ### Files -/

/-- What a file gives by itself, whatever came before it. -/
def resultFor (found : (code : Text) → Options → List Json) (options : Options)
    (text : Text → Text) (name : Text) : FileResult :=
  resultOf name (found (text name) options)

/-- The invariant of the loop over files: a turn of it collects what is found in the text of its
file, from a state that keeps the invariant. -/
lemma lintFile_collects {w : Workspace} {text : Text → Text} {name : Text}
    (h : readSource w name = .ok (text name)) {s : State σ} (hs : store.Holds options s.session) :
    ∃ s', lintFile e w name s = collect name (found (text name) options) s' ∧
      store.Holds options s'.session := by
  obtain ⟨_, s₁, h₁, hs⟩ :=
    ofSession_returns (store.setCurrentFile_returns options name (text name)) s hs
  obtain ⟨_, s₂, h₂, hs⟩ := ofSession_returns (store.resetErrors_returns options _) s₁ hs
  obtain ⟨_, s₃, h₃, hs⟩ := ofSession_returns (store.evaluate_returns options _) s₂ hs
  obtain ⟨_, s₄, h₄, rfl, hs⟩ := ofSession_returns (store.readErrors_returns options _) s₃ hs
  refine ⟨s₄, ?_, hs⟩
  unfold lintFile
  rw [h, mk_pure_ok_bind, bind_of_ok h₁, bind_of_ok h₂, bind_of_ok h₃, bind_of_ok h₄]

lemma lintFile_returns {w : Workspace} {text : Text → Text} {name : Text}
    (h : readSource w name = .ok (text name))
    (hw : (resultFor found options text name).IsWritable) :
    Returns (fun s => store.Holds options s.session) (lintFile e w name) fun result s =>
      result = resultFor found options text name ∧ store.Holds options s.session := by
  intro s hs
  obtain ⟨s', hl, hs'⟩ := store.lintFile_collects options h hs
  exact ⟨_, _, hl.trans (collect_of_isWritable hw s'), rfl, hs'⟩

/-- A turn of the loop over files that can be read, with a report that waits for them. -/
lemma lintFiles_cons_of_isWritable {w : Workspace} {text : Text → Text} {name : Text}
    {names : List Text} (h : readSource w name = .ok (text name))
    (hw : (resultFor found options text name).IsWritable) {r : Report}
    (hr : r.Awaits (name :: names).length) {s : State σ}
    (hs : store.Holds options s.session) :
    ∃ s', lintFiles e w (name :: names) r s =
        lintFiles e w names { r with results := r.results ++ [resultFor found options text name] }
          s' ∧ store.Holds options s'.session := by
  obtain ⟨_, s', hf, rfl, hs'⟩ := store.lintFile_returns options h hw s hs
  exact ⟨s', by rw [lintFiles_cons e w name hr, bind_of_ok hf], hs'⟩

/-- Files that can be read give their results in order, after those that a report has already. -/
lemma lintFiles_returns {w : Workspace} {text : Text → Text} {names : List Text}
    (h : ∀ name ∈ names, readSource w name = .ok (text name))
    (hw : ∀ name ∈ names, (resultFor found options text name).IsWritable) (r : Report)
    (hr : r.Awaits names.length) :
    Returns (fun s => store.Holds options s.session) (lintFiles e w names r) fun r' _ =>
      r' = { r with results := r.results ++ names.map (resultFor found options text) } := by
  induction names generalizing r with
  | nil => exact fun s _ => ⟨r, s, rfl, by simp⟩
  | cons name names ih =>
    intro s hs
    obtain ⟨hn, hns⟩ := List.forall_mem_cons.mp h
    obtain ⟨hwn, hwns⟩ := List.forall_mem_cons.mp hw
    obtain ⟨s', hf, hs'⟩ := store.lintFiles_cons_of_isWritable options hn hwn hr hs
    obtain ⟨_, s'', hfs, rfl⟩ := ih hns hwns _ (hr.concat _) s' hs'
    exact ⟨_, s'', hf.trans hfs, by simp⟩

/-- The loop ends at the first file with a diagnostic that cannot be written. -/
lemma lintFiles_fails {w : Workspace} {text : Text → Text} {names : List Text}
    (h : ∀ name ∈ names, readSource w name = .ok (text name))
    (hw : ∃ name ∈ names, ¬ (resultFor found options text name).IsWritable) (r : Report)
    (hr : r.Awaits names.length) {s : State σ}
    (hs : store.Holds options s.session) :
    ∃ s', lintFiles e w names r s = (.error .integerUnwritable, s') := by
  induction names generalizing r s with
  | nil => simp at hw
  | cons name names ih =>
    obtain ⟨hn, hns⟩ := List.forall_mem_cons.mp h
    by_cases hwn : (resultFor found options text name).IsWritable
    · obtain ⟨s', hf, hs'⟩ := store.lintFiles_cons_of_isWritable options hn hwn hr hs
      rw [hf]
      exact ih hns (by simpa [hwn] using hw) _ (hr.concat _) hs'
    · obtain ⟨s', hl, -⟩ := store.lintFile_collects options hn hs
      obtain ⟨log, hc⟩ := collect_of_not_isWritable hwn s'
      rw [lintFiles_cons e w name hr, bind_of_error (hl.trans hc)]
      exact ⟨_, rfl⟩

include store in
/-- A run over files that can be read. -/
lemma lint_result {w : Workspace} {path : Option Path} (hs : scripts w path = .ok (linter, driver))
    {text : Text → Text} {names : List Text}
    (h : ∀ name ∈ names, readSource w name = .ok (text name)) (s : σ) :
    (lint e w path options names s).1.result =
      if ∀ name ∈ names, (resultFor found (effectiveOptions options) text name).IsWritable then
        .ok ⟨names.length, names.map (resultFor found (effectiveOptions options) text)⟩
      else .error .integerUnwritable := by
  obtain ⟨_, engine, hp, hr⟩ := store.prepare_returns s trivial
  obtain ⟨_, s₁, h₁, hs₁⟩ :=
    ofSession_returns (store.setOptions_returns options) ⟨start engine, some []⟩ ⟨hr, rfl⟩
  rw [lint_of_scripts hs]
  simp only [inSession, Session.begin, hp, body, bind_of_ok h₁]
  split_ifs with hw
  · obtain ⟨_, s₂, h₂, rfl⟩ := store.lintFiles_returns (effectiveOptions options) h hw
      (.empty names.length) (Report.awaits_empty _) s₁ hs₁
    rw [h₂]
    rfl
  · obtain ⟨s₂, h₂⟩ := store.lintFiles_fails (effectiveOptions options) h (by simpa using hw)
      (.empty names.length) (Report.awaits_empty _) hs₁
    rw [h₂]

/-- The platform is assumed only where the caller says nothing about it. -/
lemma get?_effectiveOptions (options : Options) (k : Text) :
    (effectiveOptions options).get? k
      = (options.get? k).or (if k = Global.platformOption then some true else none) := by
  rw [effectiveOptions, OrderedMap.get?_union]
  congr 1
  show Entries.get? k [(Global.platformOption, true)] = _
  rw [Entries.get?_cons, Entries.get?_nil]
  simp only [eq_comm]

/-- The engine of globals is a store, for a linter that does not fail. -/
def ofGlobals (catalogue : Catalogue) (find : (code options : Json) → List Json)
    (hl : catalogue linter.text = .ok (some fun code options => .ok (find code options)))
    (hd : catalogue (Global.driverDefinition driver.text) = .ok none) :
    (Engine.ofGlobals catalogue).Store linter driver
      fun code options => find (.string code) options.toJson where
  value := Globals.value
  hasLinter g := g.linter = some fun code options => .ok (find code options)
  ready g := g.linter = some fun code options => .ok (find code options)
  loadLinter g _ := ⟨(), { g with linter := some fun code options => .ok (find code options) },
    by simp only [Engine.ofGlobals, hl], rfl⟩
  entry g hg := ⟨.string Global.entryAnswer, g, by simp [Engine.ofGlobals, hg], rfl, hg⟩
  loadDriver g hg := ⟨(), g, by simp only [Engine.ofGlobals, hd], hg⟩
  bind name v g hg := ⟨g.bind name v, rfl, hg, Globals.value_bind g name v⟩
  run code options records g hg hc ho he := by
    refine ⟨.null, g.bind Global.errors (.array (records ++ find (.string code) options.toJson)),
      ?_, hg, Globals.value_bind g _ _⟩
    have hq : Global.driverCall ≠ Global.entryQuery := by decide
    have hf : g.lint = .ok
        (g.bind Global.errors (.array (records ++ find (.string code) options.toJson))) := by
      simp only [Globals.lint, hg, hc, ho, he]
      rfl
    simp only [Engine.ofGlobals, if_neg hq, if_true, hf]
  read name g hg := ⟨g, rfl, hg, rfl⟩

end Engine.Store

open Session Run

end ScriptLint
