import ScriptLint.Interpreter.Scripted
import ScriptLint.Proofs.Interpreter.Engine
import ScriptLint.Proofs.Run.Plan
import ScriptLint.Proofs.Run.Steps

/-!
# What a run sends to its interpreter

Every run follows one plan, which the scripts, the options and the texts of the files determine:
the scripts are loaded, the options are bound, and for each file there are five sources. Whatever
the interpreter answers, it is sent the plan up to the first answer that is not accepted, or up to
a file that cannot be read, and is then closed once.

The proof compares each operation with the part of the plan that it performs. The invariants say
that the guards of the session let the operation pass.
-/

namespace ScriptLint

open ScriptLint.Action Step

/-! ### The plan -/

namespace Run

def bindStep (global : Text) (v : Json) : Step := ⟨.bind global, Engine.bindingSource global v⟩

/-- The steps that load the scripts. -/
def loadingPlan (linter driver : Script) : List Step :=
  [⟨.load linter.name, linter.text⟩,
   ⟨.findEntry linter.name, Global.entryQuery⟩,
   ⟨.load driver.name, Global.driverDefinition driver.text⟩,
   bindStep Global.currentFile (.string []),
   bindStep Global.currentCode (.string [])]

def optionsStep (options : Options) : Step :=
  bindStep Global.options (Session.optionsObject options)

/-- The steps for a file with a text. -/
def filePlan (file : Text × Text) : List Step :=
  [bindStep Global.currentFile (.string file.1),
   bindStep Global.currentCode (.string file.2),
   bindStep Global.errors (.array []),
   ⟨.runDriver, Global.driverCall⟩,
   ⟨.readErrors, Engine.readingSource Global.errors⟩]

/-- The steps of a run over files with their texts. -/
def plan (linter driver : Script) (options : Options) (files : List (Text × Text)) : List Step :=
  loadingPlan linter driver ++ optionsStep options :: files.flatMap filePlan

/-- The files before the first that cannot be read, with their texts. -/
def readable (w : Workspace) : List Text → List (Text × Text)
  | []            => []
  | name :: names =>
    match readSource w name with
    | .ok code => (name, code) :: readable w names
    | .error _ => []

/-- The failure of the first file that cannot be read. -/
def allReadable (w : Workspace) : List Text → Except Failure Unit
  | []            => .ok ()
  | name :: names =>
    match readSource w name with
    | .ok _    => allReadable w names
    | .error f => .error f

lemma allReadable_eq_ok_iff (w : Workspace) (names : List Text) :
    allReadable w names = .ok () ↔ (readable w names).length = names.length := by
  induction names with
  | nil => simp [allReadable, readable]
  | cons name names ih =>
    rw [allReadable, readable]
    cases readSource w name with
    | ok code => simp [ih]
    | error f => simp

lemma length_readable_le (w : Workspace) (names : List Text) :
    (readable w names).length ≤ names.length := by
  induction names with
  | nil => rfl
  | cons name names ih =>
    rw [readable]
    cases readSource w name with
    | ok code => simpa using ih
    | error f => simp

end Run

/-! ### Loading -/

section Engine

variable {σ : Type} (i : Interpreter σ)

lemma loadScript_eq_perform (name source : Text) :
    (Engine.ofInterpreter i).loadScript name source = Step.perform i ⟨.load name, source⟩ := by
  funext s
  rw [Engine.loadScript_ofInterpreter, perform_apply]
  rcases i.eval source s with ⟨_ | _, _⟩ <;> rfl

lemma bindGlobal_eq_perform (global : Text) (v : Json) :
    (Engine.ofInterpreter i).bindGlobal global v = (Run.bindStep global v).perform i := by
  funext s
  rw [Engine.bindGlobal_ofInterpreter, perform_apply, Run.bindStep]
  rcases i.eval (Engine.bindingSource global v) s with ⟨_ | _, _⟩ <;> rfl

lemma prepare_eq_performAll (linter driver : Script) :
    Session.prepare (.ofInterpreter i) linter driver
      = performAll i (Run.loadingPlan linter driver) := by
  funext s
  simp only [Session.prepare, loadScript_eq_perform, bindGlobal_eq_perform, Run.loadingPlan,
    performAll_cons_cons, performAll_singleton]
  rw [bind_apply, bind_apply]
  rcases Step.perform i ⟨.load linter.name, linter.text⟩ s with ⟨_ | _, s₁⟩
  · rfl
  · dsimp only
    rw [bind_apply, bind_apply, perform_apply, Engine.evaluate_ofInterpreter]
    dsimp only
    rcases i.eval Global.entryQuery s₁ with ⟨r | v, s₂⟩
    · rfl
    · cases v with
      | string answer =>
        by_cases h : answer = Global.entryAnswer
        · simp only [Purpose.verdict, h, ne_eq, not_true_eq_false, if_false, if_true]
        · simp only [Purpose.verdict, h, ne_eq, not_false_eq_true, if_true, if_false]
          rfl
      | _ => rfl

end Engine

/-! ### Operations of a session -/

namespace Session

variable {σ : Type} (i : Interpreter σ)

lemma setOptions_follows (options : Options) :
    Follows engine (fun s => s.optionsBound = false) (setOptions (.ofInterpreter i) options)
      (performAll i [Run.optionsStep options]) fun s => s.optionsBound = true := by
  intro s hs
  rw [setOptions_apply_options, hs, bindGlobal_eq_perform, performAll_singleton, Run.optionsStep]
  rcases Step.perform i (Run.bindStep _ _) s.engine with ⟨_ | _, _⟩ <;> simp [Except.map]

lemma setCurrentFile_follows (name code : Text) :
    Follows engine (fun s => s.optionsBound = true)
      (setCurrentFile (.ofInterpreter i) name code)
      (performAll i [Run.bindStep Global.currentFile (.string name),
        Run.bindStep Global.currentCode (.string code)])
      fun s => s.optionsBound = true ∧ s.phase = .fileBound := by
  intro s hs
  rw [setCurrentFile_apply, bindGlobal_eq_perform, bindGlobal_eq_perform, performAll, bind_apply,
    performAll_singleton]
  rcases Step.perform i (Run.bindStep Global.currentFile _) s.engine with ⟨_ | _, engine⟩
  · simp [Except.map]
  · dsimp only
    rcases Step.perform i (Run.bindStep Global.currentCode _) engine with ⟨_ | _, _⟩ <;>
      simp [Except.map, hs]

lemma resetErrors_follows :
    Follows engine (fun s => s.optionsBound = true ∧ s.phase = .fileBound)
      (resetErrors (.ofInterpreter i)) (performAll i [Run.bindStep Global.errors (.array [])])
      fun s => s.optionsBound = true ∧ s.phase = .fileBound ∧ s.errorsReset = true := by
  rintro s ⟨ho, hp⟩
  rw [resetErrors_apply, if_pos hp, bindGlobal_eq_perform, performAll_singleton]
  rcases Step.perform i (Run.bindStep _ _) s.engine with ⟨_ | _, _⟩ <;> simp [Except.map, ho, hp]

lemma evaluate_follows :
    Follows engine (fun s => s.optionsBound = true ∧ s.phase = .fileBound ∧ s.errorsReset = true)
      (Session.evaluate (.ofInterpreter i)) (performAll i [⟨.runDriver, Global.driverCall⟩])
      fun s => s.optionsBound = true ∧ s.phase = .evaluated := by
  rintro s ⟨ho, hp, hr⟩
  rw [evaluate_apply, if_neg (not_not_intro ho), if_pos ⟨hp, hr⟩, Engine.evaluate_ofInterpreter,
    performAll_singleton, perform_apply]
  dsimp only
  rcases i.eval Global.driverCall s.engine with ⟨_ | _, _⟩ <;>
    simp [Except.map, Purpose.verdict, Purpose.label, ho]

lemma readErrors_follows :
    Follows engine (fun s => s.optionsBound = true ∧ s.phase = .evaluated)
      (readErrors (.ofInterpreter i))
      (performAll i [⟨.readErrors, Engine.readingSource Global.errors⟩])
      fun s => s.optionsBound = true := by
  rintro s ⟨ho, hp⟩
  rw [readErrors_apply, if_pos (.inl hp), Engine.readGlobal_ofInterpreter, performAll_singleton,
    perform_apply]
  dsimp only
  rcases i.eval (Engine.readingSource Global.errors) s.engine with ⟨_ | v, _⟩
  · simp [Except.map, Purpose.verdict, Purpose.label]
  · simp only [Purpose.verdict]
    rcases Engine.decode Global.errors v with _ | v
    · simp [Except.map]
    · cases v <;> simp [Except.map, ho]

variable {i} {s s' : Session σ} {records : List Json}

/-- Records that were read are those of an answer of the interpreter. -/
lemma decode_of_readErrors (h : readErrors (.ofInterpreter i) s = (.ok records, s')) :
    ∃ v, (i.eval (Engine.readingSource Global.errors) s.engine).1 = .ok v ∧
      Engine.decode Global.errors v = .ok (.array records) := by
  rw [readErrors_apply, Engine.readGlobal_ofInterpreter] at h
  split_ifs at h
  · rcases hv : i.eval (Engine.readingSource Global.errors) s.engine with ⟨r | v, engine⟩ <;>
      rw [hv] at h
    · cases h
    · dsimp only at h
      rcases hd : Engine.decode Global.errors v with f | v' <;> rw [hd] at h
      · cases h
      · cases v' with
        | array found =>
          cases h
          exact ⟨v, rfl, hd⟩
        | _ => cases h
  · cases h

/-- What an interpreter gives for the collected errors was read, and so can be written. -/
lemma isWritable_of_readErrors (h : readErrors (.ofInterpreter i) s = (.ok records, s')) :
    ∀ record ∈ records, record.isWritable = true := by
  obtain ⟨v, -, hd⟩ := decode_of_readErrors h
  exact (Json.isWritable_array_iff records).mp (Engine.isWritable_of_decode hd)

end Session

/-! ### Files -/

namespace Run

variable {σ : Type} (i : Interpreter σ)

lemma lintFile_follows {w : Workspace} {name code : Text} (h : readSource w name = .ok code) :
    Follows (fun s : State σ => s.session.engine) (fun s => s.session.optionsBound = true)
      (lintFile (.ofInterpreter i) w name) (performAll i (filePlan (name, code)))
      fun s => s.session.optionsBound = true := by
  have hp : filePlan (name, code) =
      [bindStep Global.currentFile (.string name), bindStep Global.currentCode (.string code)] ++
      ([bindStep Global.errors (.array [])] ++ ([⟨.runDriver, Global.driverCall⟩] ++
        ([⟨.readErrors, Engine.readingSource Global.errors⟩] ++ []))) := rfl
  rw [hp, performAll_append, performAll_append, performAll_append, performAll_append]
  unfold lintFile
  rw [h, mk_pure_ok_bind]
  refine (ofSession_follows (Session.setCurrentFile_follows i name code)).bind fun _ => ?_
  refine (ofSession_follows (Session.resetErrors_follows i)).bind fun _ => ?_
  refine (ofSession_follows (Session.evaluate_follows i)).bind fun _ => ?_
  refine (ofSession_follows (Session.readErrors_follows i)).bind_of
    (fun s records s' hs => Session.isWritable_of_readErrors (ofSession_eq_ok hs).1)
    fun records hw => ?_
  exact Follows.skip fun s hs =>
    ⟨_, _, collect_of_isWritable (isWritable_resultOf name hw) s, rfl, hs⟩

/-- The loop over files performs the plans of the files that can be read, and then fails if there
is one that cannot. -/
lemma lintFiles_follows (w : Workspace) (names : List Text) (r : Report)
    (hr : r.Awaits names.length) :
    Follows (fun s : State σ => s.session.engine) (fun s => s.session.optionsBound = true)
      (lintFiles (.ofInterpreter i) w names r)
      (performAll i ((readable w names).flatMap filePlan) >>= fun _ =>
        ExceptT.mk (pure (allReadable w names)))
      fun s => s.session.optionsBound = true := by
  induction names generalizing r with
  | nil => exact fun s hs => ⟨rfl, rfl, fun _ => hs⟩
  | cons name names ih =>
    rw [lintFiles_cons _ _ _ hr, readable, allReadable]
    cases h : readSource w name with
    | ok code =>
      rw [List.flatMap_cons, performAll_append, bind_assoc]
      refine (lintFile_follows i h).bind fun result => ?_
      exact ih _ (hr.concat result)
    | error f =>
      intro s hs
      have hf : lintFile (.ofInterpreter i) w name s = (.error f, s) := by
        unfold lintFile
        rw [h]
        rfl
      rw [bind_of_error hf]
      exact ⟨rfl, rfl, by simp [performAll]⟩

lemma body_follows (w : Workspace) (options : Options) (names : List Text) :
    Follows (fun s : State σ => s.session.engine) (fun s => s.session.optionsBound = false)
      (body (.ofInterpreter i) w options names)
      (performAll i (optionsStep options :: (readable w names).flatMap filePlan) >>= fun _ =>
        ExceptT.mk (pure (allReadable w names)))
      fun s => s.session.optionsBound = true := by
  rw [← List.singleton_append, performAll_append, bind_assoc]
  refine (ofSession_follows (Session.setOptions_follows i options)).bind fun _ => ?_
  exact lintFiles_follows i w names _ (Report.awaits_empty _)

/-- A run leaves its interpreter as the plan does, and closed. It gives a report if and only if the
plan succeeds and every file can be read. -/
lemma lint_follows {w : Workspace} {path : Option Path} {linter driver : Script}
    (h : scripts w path = .ok (linter, driver)) (options : Options) (names : List Text) (s : σ) :
    (lint (.ofInterpreter i) w path options names s).2
        = i.close (performAll i (plan linter driver options (readable w names)) s).2 ∧
      ((∃ r, (lint (.ofInterpreter i) w path options names s).1.result = .ok r) ↔
        (performAll i (plan linter driver options (readable w names)) s).1 = .ok () ∧
          allReadable w names = .ok ()) := by
  rw [lint_of_scripts h, plan, performAll_append, bind_apply]
  simp only [inSession, Session.begin, prepare_eq_performAll]
  rcases performAll i (loadingPlan linter driver) s with ⟨f | _, s'⟩
  · exact ⟨rfl, by simp⟩
  · obtain ⟨hr, he, -⟩ := body_follows i w options names ⟨Session.start s', some []⟩ rfl
    have hc := congrArg i.close (he.trans (bind_mk_pure_snd _ _ s'))
    refine ⟨hc, (exists_eq_ok_iff _).trans ?_⟩
    exact (iff_of_eq (congrArg (· = _) hr)).trans (bind_mk_pure_eq_ok_iff _ _ s')

/-! ### The trace -/

/-- A recorded interpreter holds the steps that were accepted, the first that was not, and that it
was closed. -/
lemma log_eq_take {w : Workspace} {path : Option Path} {linter driver : Script}
    (h : scripts w path = .ok (linter, driver)) (options : Options) (names : List Text) (s : σ) :
    let steps := plan linter driver options (readable w names)
    (lint (.ofInterpreter i.recorded) w path options names (s, [])).2.2
      = (steps.take (acceptedCount i steps s + 1)).map Step.source
        ++ [Interpreter.closeRecord] := by
  intro steps
  have hp : (performAll i.recorded steps (s, [])).2.2 = _ := log_performAll i steps s []
  rw [(lint_follows i.recorded h options names (s, [])).1]
  exact congrArg (· ++ [Interpreter.closeRecord]) hp

end Run

open Run

/-- What the interpreter of a run is sent: a first part of a plan, and that it is closed. A run
with a report has sent the whole plan, every answer was accepted and every file was read. A run that
fails has sent the plan up to the first answer that was not accepted, or else the whole plan up to
the first file that cannot be read. -/
theorem log_lint {σ : Type} (i : Interpreter σ) {w : Workspace} {path : Option Path}
    {linter driver : Script} (h : scripts w path = .ok (linter, driver)) (options : Options)
    (names : List Text) (s : σ) :
    let bound := (OrderedMap.ofList [(("rhino" : Text), true)]).union options
    let object := Json.object (bound.entries.map fun e => (e.1, .bool e.2))
    let steps : List Step :=
      [⟨.load linter.name, linter.text⟩,
       ⟨.findEntry linter.name, "typeof JSHINT"⟩,
       ⟨.load driver.name,
        "globalThis.__pyjshintDriver = function () \x7b\n" ++ driver.text ++ "\n\x7d;"⟩,
       ⟨.bind "currentFile", "globalThis[\"currentFile\"] = \"\";"⟩,
       ⟨.bind "currentCode", "globalThis[\"currentCode\"] = \"\";"⟩,
       ⟨.bind "jsHintOpts", "globalThis[\"jsHintOpts\"] = " ++ object.print .inline ++ ";"⟩] ++
      (readable w names).flatMap fun (name, code) =>
        [⟨.bind "currentFile",
          "globalThis[\"currentFile\"] = " ++ (Json.string name).print .inline ++ ";"⟩,
         ⟨.bind "currentCode",
          "globalThis[\"currentCode\"] = " ++ (Json.string code).print .inline ++ ";"⟩,
         ⟨.bind "errors", "globalThis[\"errors\"] = [];"⟩,
         ⟨.runDriver, "__pyjshintDriver();"⟩,
         ⟨.readErrors, "JSON.stringify(globalThis[\"errors\"])"⟩]
    let answers := exchange i steps s
    let run := lint (.ofInterpreter i.recorded) w path options names (s, [])
    ∃ k ≤ steps.length,
      run.2.2 = (steps.take k).map Step.source ++ [("<close>" : Text)] ∧
      (∀ r, run.1.result = .ok r → k = steps.length ∧ (∀ e ∈ answers, isAccepted e = true) ∧
        (readable w names).length = names.length) ∧
      (∀ f, run.1.result = .error f →
        (∃ j e, k = j + 1 ∧ answers[j]? = some e ∧ isAccepted e = false ∧
          ∀ e ∈ answers.take j, isAccepted e = true) ∨
        (k = steps.length ∧ (∀ e ∈ answers, isAccepted e = true) ∧
          (readable w names).length < names.length)) := by
  intro bound object steps answers run
  have hsteps : steps = plan linter driver options (readable w names) := rfl
  -- from here on the texts of the plan do not matter
  clear_value steps
  subst hsteps
  obtain ⟨-, hok⟩ := lint_follows i.recorded h options names (s, [])
  rw [performAll_recorded_fst, performAll_eq_ok_iff, allReadable_eq_ok_iff] at hok
  have hsent : run.2.2 = _ := log_eq_take i h options names s
  have hn := acceptedCount_le i (plan linter driver options (readable w names)) s
  have hall := acceptedCount_eq_length_iff i (plan linter driver options (readable w names)) s
  refine ⟨min (acceptedCount i (plan linter driver options (readable w names)) s + 1) _,
    Nat.min_le_right _ _, ?_, ?_, ?_⟩
  · rw [← List.take_eq_take_min]
    exact hsent
  · intro r hr
    obtain ⟨ha, hw⟩ := hok.mp ⟨r, hr⟩
    exact ⟨by omega, hall.mp ha, hw⟩
  · intro f hf
    by_cases ha : ∀ e ∈ answers, isAccepted e = true
    · have hc := hall.mpr ha
      refine .inr ⟨by omega, ha, lt_of_le_of_ne (length_readable_le w names) fun hw => ?_⟩
      obtain ⟨r, hr⟩ := hok.mpr ⟨hc, hw⟩
      exact absurd (hf.symm.trans hr) (by simp)
    · obtain ⟨j, e, he⟩ := exists_firstRejected ha
      have hj := he.acceptedCount_eq
      have hlt := he.lt_length
      exact .inl ⟨j, e, by omega, he.place, he.rejected, he.before⟩

/-- A file that holds a linter script. -/
def oneScript : Workspace where
  tree := ⟨[(["l"], .file [0x6C])]⟩
  current := []
  home := ⟨.slash, []⟩
  homes := []

/-- Rules by which the driver fails on the second file. -/
def failingSecond : List Rule := [⟨"__pyjshintDriver", some 2, .error (.fault "stop")⟩]

/-- The run over one file, twice, sends everything up to the second run of the driver. -/
theorem log_lint_failingSecond :
    ∃ driver, scripts oneScript (some ⟨.current, ["l"]⟩) = .ok (⟨"l", "l"⟩, driver) ∧
      (lint (.ofInterpreter Interpreter.scripted.recorded) oneScript (some ⟨.current, ["l"]⟩)
        (OrderedMap.empty : Options) ["l", "l"] (Scripted.start failingSecond, [])).2.2 =
      [("l" : Text), "typeof JSHINT",
       "globalThis.__pyjshintDriver = function () \x7b\n" ++ driver.text ++ "\n\x7d;",
       "globalThis[\"currentFile\"] = \"\";",
       "globalThis[\"currentCode\"] = \"\";",
       "globalThis[\"jsHintOpts\"] = \x7b\"rhino\": true\x7d;",
       "globalThis[\"currentFile\"] = \"l\";",
       "globalThis[\"currentCode\"] = \"l\";",
       "globalThis[\"errors\"] = [];",
       "__pyjshintDriver();",
       "JSON.stringify(globalThis[\"errors\"])",
       "globalThis[\"currentFile\"] = \"l\";",
       "globalThis[\"currentCode\"] = \"l\";",
       "globalThis[\"errors\"] = [];",
       "__pyjshintDriver();",
       "<close>"] := by
  obtain ⟨driver, hs⟩ :
      ∃ driver, scripts oneScript (some ⟨.current, ["l"]⟩) = .ok (⟨"l", "l"⟩, driver) := ⟨_, rfl⟩
  refine ⟨driver, hs, ?_⟩
  have hfiles : readable oneScript ["l", "l"] = [(("l" : Text), ("l" : Text)), ("l", "l")] := by
    decide +kernel
  have hcount : acceptedCount Interpreter.scripted
      (plan ⟨"l", "l"⟩ driver .empty [("l", "l"), ("l", "l")]) (Scripted.start failingSecond)
        = 14 := by
    have h : (scripts oneScript (some ⟨.current, ["l"]⟩)).toOption.map (fun s =>
        acceptedCount Interpreter.scripted (plan s.1 s.2 .empty [("l", "l"), ("l", "l")])
          (Scripted.start failingSecond)) = some 14 := by decide +kernel
    rw [hs] at h
    exact Option.some.inj h
  obtain ⟨k, -, hlog, hok, herr⟩ :=
    log_lint Interpreter.scripted hs .empty ["l", "l"] (Scripted.start failingSecond)
  rw [hfiles] at hlog hok herr
  have hn : ¬ ∀ e ∈ exchange Interpreter.scripted
      (plan ⟨"l", "l"⟩ driver .empty [("l", "l"), ("l", "l")]) (Scripted.start failingSecond),
      isAccepted e = true := by
    rw [← acceptedCount_eq_length_iff, hcount]
    simp [plan, loadingPlan, filePlan]
  rw [hlog]
  cases hr : (lint (.ofInterpreter Interpreter.scripted.recorded) oneScript _ _ ["l", "l"]
      (Scripted.start failingSecond, [])).1.result with
  | ok r => exact absurd (hok r hr).2.1 hn
  | error f =>
    rcases herr f hr with ⟨j, e, rfl, he, hj, hall⟩ | ⟨-, hall, -⟩
    · obtain rfl : 14 = j := hcount.symm.trans (FirstRejected.acceptedCount_eq ⟨he, hj, hall⟩)
      rfl
    · exact absurd hall hn

end ScriptLint
