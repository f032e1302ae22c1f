import ScriptLint.Proofs.Session.History

/-!
# Resets before runs of the driver

A run of the driver appends to the collection of errors, so what is read afterwards depends on every
run since the collection was last bound to an empty array. A session binds it anew before it runs
the driver for a file. If that run fails the session may run the driver again, over what the failed
run has left.

`Turn` says what one call adds to the transcript of an interpreter, with the fields of the session
that matter. The invariant `Fresh` ties these fields to the runs since the last reset.
-/

namespace ScriptLint

open ScriptLint.Action Engine

/-- A source that an interpreter was sent, with its answer. -/
structure Sent where
  source : Text
  answer : Except Raised Json

/-- The interpreter that also keeps a transcript of what it is sent and answers. -/
def Interpreter.transcribed {σ : Type} (i : Interpreter σ) : Interpreter (σ × List Sent) where
  eval source s :=
    let (answer, inner) := i.eval source s.1
    (answer, inner, s.2 ++ [⟨source, answer⟩])
  close s := (i.close s.1, s.2)

lemma Interpreter.transcribed_eval {σ : Type} (i : Interpreter σ) (source : Text)
    (s : σ × List Sent) : i.transcribed.eval source s = ((i.eval source s.1).1,
      (i.eval source s.1).2, s.2 ++ [⟨source, (i.eval source s.1).1⟩]) := rfl

/-! ### Transcripts -/

/-- The source that binds an empty collection of errors. -/
def Session.resetSource : Text := bindingSource Global.errors (.array [])

namespace Sent

/-- Whether the driver was run. -/
def isRun (e : Sent) : Bool := e.source = Global.driverCall

/-- Whether the collection of errors was bound to an empty array. -/
def resets (e : Sent) : Bool := e.source = Session.resetSource && e.answer.isOk

/-- Whether nothing was sent that changes the collection. -/
def isQuiet (e : Sent) : Bool := !e.isRun && !e.resets

end Sent

namespace Session

/-- Whether the collection of errors was ever reset. -/
def hasReset (t : List Sent) : Bool := t.any Sent.resets

/-- The runs of the driver since the last reset. -/
def runs (t : List Sent) : List Sent := (t.rtakeWhile fun e => !e.resets).filter Sent.isRun

lemma hasReset_concat (t : List Sent) (e : Sent) :
    hasReset (t ++ [e]) = (hasReset t || e.resets) := by
  simp [hasReset]

lemma runs_concat (t : List Sent) (e : Sent) :
    runs (t ++ [e]) = if e.resets then [] else if e.isRun then runs t ++ [e] else runs t := by
  rw [runs, List.rtakeWhile_concat]
  cases e.resets <;> cases hr : e.isRun <;> simp [runs, hr]

/-- A run may begin: the collection was reset, and no run has finished since. -/
structure Clean (t : List Sent) : Prop where
  reset : hasReset t = true
  failed : ∀ e ∈ runs t, e.answer.isOk = false

/-- The collection was reset, and the last of the runs since is the only one that finished. -/
structure Collected (t : List Sent) : Prop where
  reset : hasReset t = true
  runs_eq : ∃ failed last, runs t = failed ++ [last] ∧ (∀ e ∈ failed, e.answer.isOk = false) ∧
    last.answer.isOk = true

/-- Every run began where it may. -/
def EveryRunClean (t : List Sent) : Prop :=
  ∀ past e, past ++ [e] <+: t → e.isRun = true → Clean past

variable {t : List Sent} {e : Sent}

lemma everyRunClean_nil : EveryRunClean [] := by
  intro past e h
  simp at h

lemma EveryRunClean.concat (h : EveryRunClean t) (he : e.isRun = true → Clean t) :
    EveryRunClean (t ++ [e]) := by
  intro past e' hp hr
  rcases List.prefix_concat_iff.mp hp with heq | hp
  · obtain ⟨rfl, hee⟩ := List.append_inj' heq rfl
    obtain rfl := List.singleton_inj.mp hee
    exact he hr
  · exact h past e' hp hr

lemma resets_of_isRun (h : e.isRun = true) : e.resets = false := by
  have hs : e.source = Global.driverCall := of_decide_eq_true h
  rw [Sent.resets, hs]
  rfl

lemma Clean.of_resets (h : e.resets = true) : Clean (t ++ [e]) := by
  constructor
  · rw [hasReset_concat, h, Bool.or_true]
  · rw [runs_concat, if_pos h]
    exact List.forall_mem_nil _

lemma Clean.run (h : Clean t) (he : e.isRun = true) :
    hasReset (t ++ [e]) = true ∧ runs (t ++ [e]) = runs t ++ [e] := by
  constructor
  · rw [hasReset_concat, h.reset, Bool.true_or]
  · rw [runs_concat, resets_of_isRun he, if_neg Bool.false_ne_true, if_pos he]

lemma runs_quiet {sent : List Sent} (h : ∀ e ∈ sent, e.isQuiet = true) :
    hasReset (t ++ sent) = hasReset t ∧ runs (t ++ sent) = runs t := by
  induction sent generalizing t with
  | nil => rw [List.append_nil]; exact ⟨rfl, rfl⟩
  | cons e sent ih =>
    obtain ⟨he, h⟩ := List.forall_mem_cons.mp h
    rw [Sent.isQuiet, Bool.and_eq_true, Bool.not_eq_true', Bool.not_eq_true'] at he
    rw [List.append_cons, (ih h).1, (ih h).2, hasReset_concat, runs_concat, he.1, he.2,
      Bool.or_false]
    exact ⟨rfl, rfl⟩

lemma EveryRunClean.quiet {sent : List Sent} (h : EveryRunClean t)
    (hq : ∀ e ∈ sent, e.isQuiet = true) : EveryRunClean (t ++ sent) := by
  induction sent generalizing t with
  | nil => rwa [List.append_nil]
  | cons e sent ih =>
    obtain ⟨he, hq⟩ := List.forall_mem_cons.mp hq
    rw [List.append_cons]
    refine ih (h.concat fun hr => ?_) hq
    rw [Sent.isQuiet, hr] at he
    cases he

/-- A run counts until the collection is reset. -/
lemma mem_runs_append {run : Sent} {sent : List Sent} (h : run ∈ runs t)
    (hs : ∀ e ∈ sent, e.resets = false) : run ∈ runs (t ++ sent) := by
  induction sent generalizing t with
  | nil => rwa [List.append_nil]
  | cons e sent ih =>
    obtain ⟨he, hs⟩ := List.forall_mem_cons.mp hs
    rw [List.append_cons]
    refine ih ?_ hs
    rw [runs_concat, he, if_neg Bool.false_ne_true]
    split
    · exact List.mem_append_left _ h
    · exact h

/-! ### Sources -/

lemma isQuiet_of_ne {source : Text} (hd : source ≠ Global.driverCall) (hr : source ≠ resetSource)
    (answer : Except Raised Json) : (⟨source, answer⟩ : Sent).isQuiet = true := by
  simp [Sent.isQuiet, Sent.isRun, Sent.resets, hd, hr]

lemma isQuiet_of_error (source : Text) (hd : source ≠ Global.driverCall) (r : Raised) :
    (⟨source, .error r⟩ : Sent).isQuiet = true := by
  simp [Sent.isQuiet, Sent.isRun, Sent.resets, hd, Except.isOk, Except.toBool]

lemma bindingSource_ne_driverCall (name : Text) (v : Json) :
    bindingSource name v ≠ Global.driverCall := by
  intro h
  have hc : (bindingSource name v).head? = some (CodePoint.ofChar 'g') := rfl
  rw [h] at hc
  exact absurd hc (by decide)

/-- The globals bound for a file and for the options are others than the collection. -/
lemma bindingSource_ne_resetSource {name : Text} {c : CodePoint} (v : Json)
    (hn : ∀ v, (bindingSource name v)[12]? = some c) (hc : c ≠ 'e') :
    bindingSource name v ≠ resetSource := by
  intro h
  have he : resetSource[12]? = some (CodePoint.ofChar 'e') := rfl
  rw [← h, hn v] at he
  exact hc (Option.some.inj he)

/-- The globals that a session binds besides the collection. -/
def inputs : List Text := [Global.currentFile, Global.currentCode, Global.options]

lemma isQuiet_bindingSource (name : Text) (hn : name ∈ inputs) (v : Json)
    (answer : Except Raised Json) : (⟨bindingSource name v, answer⟩ : Sent).isQuiet = true := by
  refine isQuiet_of_ne (bindingSource_ne_driverCall name v) ?_ answer
  simp only [inputs, List.mem_cons, List.not_mem_nil, or_false] at hn
  rcases hn with rfl | rfl | rfl
  · exact bindingSource_ne_resetSource v (c := 'c') (fun _ => rfl) (by decide)
  · exact bindingSource_ne_resetSource v (c := 'c') (fun _ => rfl) (by decide)
  · exact bindingSource_ne_resetSource v (c := 'j') (fun _ => rfl) (by decide)

/-! ### One call -/

section Turns

variable {σ : Type} (i : Interpreter σ)

lemma bindGlobal_transcribed (name : Text) (v : Json) (s : σ × List Sent) :
    ∃ answer inner, (ofInterpreter i.transcribed).bindGlobal name v s
      = (answer.mapError (failure ("bind " ++ name)) |>.map fun _ => (), inner,
        s.2 ++ [⟨bindingSource name v, answer⟩]) := by
  refine ⟨(i.eval (bindingSource name v) s.1).1, (i.eval (bindingSource name v) s.1).2, ?_⟩
  rw [bindGlobal_ofInterpreter, i.transcribed_eval]
  cases (i.eval (bindingSource name v) s.1).1 <;> rfl

lemma evaluate_transcribed (source : Text) (s : σ × List Sent) :
    ∃ answer inner, (ofInterpreter i.transcribed).evaluate source s
      = (answer.mapError (failure evaluationLabel), inner, s.2 ++ [⟨source, answer⟩]) := by
  refine ⟨(i.eval source s.1).1, (i.eval source s.1).2, ?_⟩
  rw [evaluate_ofInterpreter, i.transcribed_eval]
  cases (i.eval source s.1).1 <;> rfl

lemma readGlobal_transcribed (name : Text) (s : σ × List Sent) :
    ∃ result answer inner, (ofInterpreter i.transcribed).readGlobal name s
      = (result, inner, s.2 ++ [⟨readingSource name, answer⟩]) := by
  rw [readGlobal_ofInterpreter, i.transcribed_eval]
  cases (i.eval (readingSource name) s.1).1 <;> exact ⟨_, _, _, rfl⟩

/-- What a call adds to a transcript, with the fields of the session before and after it. -/
inductive Turn (s s' : Session (σ × List Sent)) : List Sent → Prop
  | quiet {sent : List Sent} (hq : ∀ e ∈ sent, e.isQuiet = true)
      (hready : s'.phase = .fileBound → s'.errorsReset = true →
        s.phase = .fileBound ∧ s.errorsReset = true)
      (hread : s'.phase = .evaluated ∨ s'.phase = .read → s.phase = .evaluated ∨ s.phase = .read) :
      Turn s s' sent
  | reset {e : Sent} (he : e.resets = true) (hp : s'.phase = .fileBound) : Turn s s' [e]
  | failed {e : Sent} (he : e.isRun = true) (ha : e.answer.isOk = false)
      (hp : s.phase = .fileBound) (hr : s.errorsReset = true) (hp' : s'.phase = .fileBound) :
      Turn s s' [e]
  | finished {e : Sent} (he : e.isRun = true) (ha : e.answer.isOk = true)
      (hp : s.phase = .fileBound) (hr : s.errorsReset = true) (hp' : s'.phase = .evaluated) :
      Turn s s' [e]

/-- What a step of a session gives, as a turn. -/
def Turns (s : Session (σ × List Sent)) (result : Except Failure Unit × Session (σ × List Sent)) :
    Prop :=
  ∃ sent, result.2.engine.2 = s.engine.2 ++ sent ∧ Turn s result.2 sent

variable {s : Session (σ × List Sent)}

/-- A step that leaves the fields and sends nothing to the point. -/
lemma Turn.of_quiet {s' : Session (σ × List Sent)} {sent : List Sent}
    (hq : ∀ e ∈ sent, e.isQuiet = true) (hp : s'.phase = s.phase)
    (hr : s'.errorsReset = s.errorsReset) : Turn s s' sent := by
  refine .quiet hq ?_ ?_ <;> rw [hp]
  · rw [hr]
    exact fun hp hr => ⟨hp, hr⟩
  · exact id

lemma turns_refused (f : Failure) : Turns s (.error f, s) :=
  ⟨[], (List.append_nil _).symm, .of_quiet (List.forall_mem_nil _) rfl rfl⟩

lemma turns_setOptions (given : Options.Given) :
    Turns s (setOptions (ofInterpreter i.transcribed) given s) := by
  rw [setOptions_apply]
  split
  · exact turns_refused _
  · rcases Options.ofGiven? given with _ | options
    · exact turns_refused _
    · obtain ⟨answer, inner, hb⟩ :=
        bindGlobal_transcribed i Global.options (optionsObject options) s.engine
      have hq :=
        isQuiet_bindingSource Global.options (by simp [inputs]) (optionsObject options) answer
      simp only [hb]
      cases answer <;> exact ⟨_, rfl, .of_quiet (List.forall_mem_singleton.mpr hq) rfl rfl⟩

lemma turns_setCurrentFile (name content : Text) :
    Turns s (setCurrentFile (ofInterpreter i.transcribed) name content s) := by
  rw [setCurrentFile_apply]
  obtain ⟨answer, inner, hb⟩ := bindGlobal_transcribed i Global.currentFile (.string name) s.engine
  have hq := isQuiet_bindingSource Global.currentFile (by simp [inputs]) (.string name) answer
  rw [hb]
  cases answer with
  | error r => exact ⟨_, rfl, .of_quiet (List.forall_mem_singleton.mpr hq) rfl rfl⟩
  | ok v =>
    let first : Sent := ⟨bindingSource Global.currentFile (.string name), .ok v⟩
    obtain ⟨answer, inner, hb⟩ :=
      bindGlobal_transcribed i Global.currentCode (.string content) (inner, s.engine.2 ++ [first])
    let second : Sent := ⟨bindingSource Global.currentCode (.string content), answer⟩
    have hqs : ∀ e ∈ [first, second], e.isQuiet = true :=
      List.forall_mem_cons.mpr ⟨hq, List.forall_mem_singleton.mpr <|
        isQuiet_bindingSource Global.currentCode (by simp [inputs]) (.string content) answer⟩
    have hs : (s.engine.2 ++ [first]) ++ [second] = s.engine.2 ++ [first, second] :=
      List.append_assoc _ _ _
    simp only [Except.mapError, Except.map]
    rw [hb]
    cases answer with
    | error r => exact ⟨_, hs, .of_quiet hqs rfl rfl⟩
    | ok v =>
      simp only [Except.mapError, Except.map]
      exact ⟨_, hs, .quiet hqs (by simp) (by simp)⟩

lemma turns_resetErrors : Turns s (resetErrors (ofInterpreter i.transcribed) s) := by
  rw [resetErrors_apply]
  split
  · next hp =>
    obtain ⟨answer, inner, hb⟩ := bindGlobal_transcribed i Global.errors (.array []) s.engine
    rw [hb]
    cases answer with
    | error r =>
      have hq := isQuiet_of_error _ (bindingSource_ne_driverCall Global.errors (.array [])) r
      exact ⟨_, rfl, .of_quiet (List.forall_mem_singleton.mpr hq) rfl rfl⟩
    | ok v => exact ⟨_, rfl, .reset rfl hp⟩
  · exact turns_refused _

lemma turns_evaluate : Turns s (Session.evaluate (ofInterpreter i.transcribed) s) := by
  rw [evaluate_apply]
  split
  · exact turns_refused _
  · split
    · next h =>
      obtain ⟨answer, inner, hb⟩ := evaluate_transcribed i Global.driverCall s.engine
      rw [hb]
      cases answer with
      | error r => exact ⟨_, rfl, .failed rfl rfl h.1 h.2 h.1⟩
      | ok v => exact ⟨_, rfl, .finished rfl rfl h.1 h.2 rfl⟩
    · exact turns_refused _

lemma turns_readErrors : Turns s (Call.perform (ofInterpreter i.transcribed) .readErrors s) := by
  rw [Call.perform, bind_apply, readErrors_apply]
  by_cases hp : s.phase = .evaluated ∨ s.phase = .read
  · rw [if_pos hp]
    obtain ⟨result, answer, inner, hb⟩ := readGlobal_transcribed i Global.errors s.engine
    have hq : ∀ e ∈ [(⟨readingSource Global.errors, answer⟩ : Sent)], e.isQuiet = true :=
      List.forall_mem_singleton.mpr (isQuiet_of_ne (by decide) (by decide) answer)
    rw [hb]
    cases result with
    | error f => exact ⟨_, rfl, .of_quiet hq rfl rfl⟩
    | ok v =>
      cases v with
      | array records => exact ⟨_, rfl, .quiet hq (by simp) fun _ => hp⟩
      | _ => exact ⟨_, rfl, .of_quiet hq rfl rfl⟩
  · rw [if_neg hp]
    exact turns_refused _

lemma Turns.of_perform (c : Call) : Turns s (c.perform (ofInterpreter i.transcribed) s) := by
  cases c with
  | setOptions given => exact turns_setOptions i given
  | setCurrentFile name content => exact turns_setCurrentFile i name content
  | resetErrors => exact turns_resetErrors i
  | evaluate => exact turns_evaluate i
  | readErrors => exact turns_readErrors i
  | close => exact ⟨[], (List.append_nil _).symm, .of_quiet (List.forall_mem_nil _) rfl rfl⟩

end Turns

/-! ### All calls -/

/-- The fields of a session say which runs may count. -/
structure Fresh {σ : Type} (t : List Sent) (s : Session σ) : Prop where
  ready : s.phase = .fileBound → s.errorsReset = true → Clean t
  collected : s.phase = .evaluated ∨ s.phase = .read → Collected t
  every : EveryRunClean t

lemma fresh_start {σ : Type} (engine : σ) : Fresh [] (start engine) :=
  ⟨by simp [start], by simp [start], everyRunClean_nil⟩

section Runs

variable {σ : Type} {s s' : Session (σ × List Sent)}

/-- One turn keeps the invariant. -/
lemma Fresh.turn (h : Fresh t s) {sent : List Sent} (ht : Turn s s' sent) :
    Fresh (t ++ sent) s' := by
  cases ht with
  | quiet hq hready hread =>
    obtain ⟨hr, hruns⟩ := runs_quiet (t := t) hq
    refine ⟨fun hp he => ?_, fun hp => ?_, h.every.quiet hq⟩
    · obtain ⟨hreset, hfailed⟩ := h.ready (hready hp he).1 (hready hp he).2
      exact ⟨hr.trans hreset, hruns ▸ hfailed⟩
    · obtain ⟨hreset, hlast⟩ := h.collected (hread hp)
      exact ⟨hr.trans hreset, hruns ▸ hlast⟩
  | @reset e he hp =>
    refine ⟨fun _ _ => .of_resets he, fun h => by simp [hp] at h, h.every.concat fun hr => ?_⟩
    rw [resets_of_isRun hr] at he
    cases he
  | @failed e he ha hp hr hp' =>
    have hclean := h.ready hp hr
    obtain ⟨hreset, hruns⟩ := hclean.run he
    refine ⟨fun _ _ => ⟨hreset, ?_⟩, fun h => by simp [hp'] at h, h.every.concat fun _ => hclean⟩
    rw [hruns, List.forall_mem_append]
    exact ⟨hclean.failed, List.forall_mem_singleton.mpr ha⟩
  | @finished e he ha hp hr hp' =>
    have hclean := h.ready hp hr
    obtain ⟨hreset, hruns⟩ := hclean.run he
    refine ⟨fun h => by simp [hp'] at h, fun _ => ⟨hreset, _, _, hruns, hclean.failed, ha⟩,
      h.every.concat fun _ => hclean⟩

/-- Calls of any number keep the invariant, over what was sent since the session was opened. -/
lemma Fresh.performAll (i : Interpreter σ) {base : List Sent} (h : Fresh t s)
    (hb : s.engine.2 = base ++ t) (calls : List Call) :
    ∃ sent, (Call.performAll (ofInterpreter i.transcribed) calls s).2.engine.2 = base ++ sent ∧
      Fresh sent (Call.performAll (ofInterpreter i.transcribed) calls s).2 := by
  induction calls generalizing t s with
  | nil => exact ⟨t, hb, h⟩
  | cons c calls ih =>
    obtain ⟨sent, hs, ht⟩ := Turns.of_perform i (s := s) c
    exact ih (h.turn ht) (hs.trans (by rw [hb, List.append_assoc]))

end Runs

/-- After any calls on a session that was opened, whatever its interpreter answered or raised: the
collection of errors was reset between two runs of the driver if the first of them finished, and
since the reset before a run all other runs have failed. So what is read comes from the last run
and from runs that failed after the reset before it. -/
theorem reset_between_runs {σ : Type} (i : Interpreter σ) {linter driver : Script}
    {engine : σ × List Sent} {s : Session (σ × List Sent)}
    (h : (begin (ofInterpreter i.transcribed) linter driver engine).1 = .ok s) (calls : List Call) :
    let after := (Call.performAll (ofInterpreter i.transcribed) calls s).2
    ∃ sent, after.engine.2 = s.engine.2 ++ sent ∧
      (∀ past run between run' rest, sent = past ++ run :: (between ++ run' :: rest) →
        run.isRun = true → run'.isRun = true → run.answer.isOk = true →
        ∃ e ∈ between, e.resets = true) ∧
      (∀ past run, past ++ [run] <+: sent → run.isRun = true → Clean past) ∧
      (∀ records s', readErrors (ofInterpreter i.transcribed) after = (.ok records, s') →
        Collected sent) := by
  intro after
  obtain ⟨engine', rfl⟩ := eq_start_of_begin h
  obtain ⟨sent, hsent, hfresh⟩ :=
    (fresh_start engine').performAll i (List.append_nil _).symm calls
  refine ⟨sent, hsent, ?_, hfresh.every, ?_⟩
  · intro past run between run' rest hs hr hr' ha
    -- without a reset in between the first run still counts when the second begins, and has failed
    by_contra hno
    have hquiet : ∀ e ∈ between, e.resets = false := fun e he =>
      eq_false_of_ne_true fun hres => hno ⟨e, he, hres⟩
    have hclean : Clean (past ++ [run] ++ between) :=
      hfresh.every _ run' ⟨rest, by simp [hs]⟩ hr'
    have hmem : run ∈ runs (past ++ [run]) := by
      rw [runs_concat, resets_of_isRun hr, if_neg Bool.false_ne_true, if_pos hr]
      exact List.mem_append_right _ (.head _)
    rw [hclean.failed run (mem_runs_append hmem hquiet)] at ha
    cases ha
  · intro records s' hread
    refine hfresh.collected ?_
    by_contra hp
    rw [readErrors_apply, if_neg hp] at hread
    cases hread

/-- Two runs of the driver, the first of which fails, and what is read after them. -/
theorem reset_between_runs_twice : ∃ s sent,
    (begin (ofInterpreter Interpreter.scripted.transcribed) ⟨"l", "l"⟩ ⟨"d", "d"⟩
      (Scripted.start failingOnce, [])).1 = .ok s ∧
    (Call.performAll (ofInterpreter Interpreter.scripted.transcribed) runningTwice s).2.engine.2
      = s.engine.2 ++ sent ∧ Collected sent := by
  obtain ⟨sent, hs, -, -, hread⟩ := @reset_between_runs _ Interpreter.scripted ⟨"l", "l"⟩ ⟨"d", "d"⟩
    (Scripted.start failingOnce, []) _ rfl runningTwice
  exact ⟨_, sent, rfl, hs, hread [] _ rfl⟩

/-- Between a run that failed and the next one the collection need not be reset. -/
theorem no_reset_between_runs : ∃ s past run run',
    (begin (ofInterpreter Interpreter.scripted.transcribed) ⟨"l", "l"⟩ ⟨"d", "d"⟩
      (Scripted.start failingOnce, [])).1 = .ok s ∧
    (Call.performAll (ofInterpreter Interpreter.scripted.transcribed) runningTwice s).2.engine.2
      = s.engine.2 ++ (past ++ [run, run']) ∧
    run.isRun = true ∧ run'.isRun = true ∧ run'.answer.isOk = true := by
  refine ⟨_, [⟨bindingSource Global.options (optionsObject .empty), .ok .null⟩,
    ⟨bindingSource Global.currentFile (.string "a"), .ok .null⟩,
    ⟨bindingSource Global.currentCode (.string ""), .ok .null⟩, ⟨resetSource, .ok .null⟩],
    ⟨Global.driverCall, .error (.fault "stop")⟩, ⟨Global.driverCall, .ok .null⟩, rfl, ?_, rfl, rfl,
    rfl⟩
  rfl

end Session
end ScriptLint
