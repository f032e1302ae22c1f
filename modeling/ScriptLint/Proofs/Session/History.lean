import Mathlib.Data.List.DropRight
import ScriptLint.Interpreter.Scripted
import ScriptLint.Proofs.Interpreter.Engine
import ScriptLint.Proofs.Session.Steps

/-!
# What a session remembers

The fields of a session stand for its past: a call is refused exactly if the calls before it, with
their outcomes, do not allow it. The statement speaks of histories alone, `Call.outOfOrder`.

One lemma says what a call can do, `Call.Outcome.of_perform`. The invariant `Tracks` ties the
fields to a history, one step keeps it, and so does a run of any length.
-/

namespace ScriptLint.Session

open ScriptLint.Action

/-- A call of an operation of a session. -/
inductive Call
  | setOptions (given : Options.Given)
  | setCurrentFile (name content : Text)
  | resetErrors
  | evaluate
  | readErrors
  | close

/-- A call and how it ended. -/
structure Event where
  call : Call
  outcome : Except Failure Unit

namespace Call

/-! ### Kinds of calls -/

@[simp] def bindsOptions : Call → Bool
  | .setOptions _ => true
  | _             => false

@[simp] def bindsFile : Call → Bool
  | .setCurrentFile _ _ => true
  | _                   => false

@[simp] def resets : Call → Bool
  | .resetErrors => true
  | _            => false

@[simp] def evaluates : Call → Bool
  | .evaluate => true
  | _         => false

end Call

/-! ### Histories -/

/-- Whether a call of a kind succeeded in a history. -/
def did (past : List Event) (kind : Call → Bool) : Bool :=
  past.any fun e => kind e.call && e.outcome.isOk

/-- The last part of a history, in which no file was bound with success. -/
def sinceFile (past : List Event) : List Event :=
  past.rtakeWhile fun e => !(e.call.bindsFile && e.outcome.isOk)

@[simp] lemma did_nil (kind : Call → Bool) : did [] kind = false := rfl

@[simp] lemma did_concat_error (past : List Event) (c : Call) (f : Failure) (kind : Call → Bool) :
    did (past ++ [⟨c, .error f⟩]) kind = did past kind := by
  simp [did, Except.isOk, Except.toBool]

@[simp] lemma did_concat_ok (past : List Event) (c : Call) (kind : Call → Bool) :
    did (past ++ [⟨c, .ok ()⟩]) kind = (did past kind || kind c) := by
  simp [did, Except.isOk, Except.toBool]

@[simp] lemma sinceFile_concat_error (past : List Event) (c : Call) (f : Failure) :
    sinceFile (past ++ [⟨c, .error f⟩]) = sinceFile past ++ [⟨c, .error f⟩] := by
  simp [sinceFile, Except.isOk, Except.toBool]

@[simp] lemma sinceFile_concat_ok (past : List Event) (c : Call) :
    sinceFile (past ++ [⟨c, .ok ()⟩])
      = if c.bindsFile then [] else sinceFile past ++ [⟨c, .ok ()⟩] := by
  rw [sinceFile, List.rtakeWhile_concat]
  cases h : c.bindsFile <;> simp [Except.isOk, Except.toBool, sinceFile]

namespace Call

/-- Whether a history leaves no place for a call. -/
def outOfOrder (past : List Event) : Call → Prop
  | .setOptions _       => did past bindsOptions
  | .setCurrentFile _ _ => False
  | .resetErrors        => ¬ did past bindsFile ∨ did (sinceFile past) evaluates
  | .evaluate           =>
    ¬ did past bindsOptions ∨ ¬ did past bindsFile ∨ ¬ did (sinceFile past) resets ∨
      did (sinceFile past) evaluates
  | .readErrors         => ¬ did (sinceFile past) evaluates
  | .close              => False

variable {σ : Type}

/-- What a call does. -/
def perform (e : Engine σ) : Call → Action (Session σ) Unit
  | .setOptions given            => Session.setOptions e given
  | .setCurrentFile name content => Session.setCurrentFile e name content
  | .resetErrors                 => Session.resetErrors e
  | .evaluate                    => Session.evaluate e
  | .readErrors                  => do let _ ← Session.readErrors e
  | .close                       => modify (Session.close e)

/-- Calls one after another, with their outcomes. -/
def performAll (e : Engine σ) : List Call → Session σ → List Event × Session σ
  | [], s         => ([], s)
  | c :: calls, s =>
    let (outcome, s) := c.perform e s
    let (events, s) := performAll e calls s
    (⟨c, outcome⟩ :: events, s)

/-! ### One call -/

/-- Whether a session refuses a call. -/
def refused (s : Session σ) : Call → Bool
  | .setOptions _       => s.optionsBound
  | .setCurrentFile _ _ => false
  | .resetErrors        => s.phase ≠ .fileBound
  | .evaluate           => !(s.optionsBound && s.phase = .fileBound && s.errorsReset)
  | .readErrors         => s.phase ≠ .evaluated && s.phase ≠ .read
  | .close              => false

/-- A session after a call that succeeded, but for the engine. -/
def after (s : Session σ) : Call → Session σ
  | .setOptions _          => { s with optionsBound := true }
  | .setCurrentFile name _ =>
    { s with phase := .fileBound, errorsReset := false, currentFile := some name }
  | .resetErrors           => { s with errorsReset := true }
  | .evaluate              => { s with phase := .evaluated }
  | .readErrors            => { s with phase := .read }
  | .close                 => s

/-- How a call can end: it is refused and nothing happens; or the engine fails and nothing but the
engine changes; or it succeeds. -/
inductive Outcome (c : Call) (s : Session σ) : Except Failure Unit × Session σ → Prop
  | refused (o : OutOfOrder) (h : c.refused s = true) : Outcome c s (.error (.outOfOrder o), s)
  | failed (f : Failure) (engine : σ) (h : c.refused s = false) (hf : ∀ o, f ≠ .outOfOrder o) :
      Outcome c s (.error f, { s with engine })
  | done (engine : σ) (h : c.refused s = false) : Outcome c s (.ok (), { c.after s with engine })

variable {e : Engine σ} (he : e.NeverRefuses) (s : Session σ)
include he

lemma outcome_setOptions (given : Options.Given) :
    Outcome (.setOptions given) s (Session.setOptions e given s) := by
  rw [setOptions_apply]
  by_cases h : s.optionsBound = true
  · rw [if_pos h]
    exact .refused _ h
  · have hr : refused s (.setOptions given) = false := eq_false_of_ne_true h
    rw [if_neg h]
    rcases Options.ofGiven? given with _ | options
    · exact .failed .integerUnwritable s.engine hr (by simp)
    · dsimp only
      rcases hb : e.bindGlobal Global.options (optionsObject options) s.engine with ⟨f | _, engine⟩
      · exact .failed f engine hr fun o ho => he.bind _ _ _ o (by rw [hb, ho])
      · exact .done engine hr

lemma outcome_setCurrentFile (name content : Text) :
    Outcome (.setCurrentFile name content) s (Session.setCurrentFile e name content s) := by
  rw [setCurrentFile_apply]
  rcases h₁ : e.bindGlobal Global.currentFile (.string name) s.engine with ⟨f | _, engine⟩
  · exact .failed f engine rfl fun o ho => he.bind _ _ _ o (by rw [h₁, ho])
  · dsimp only
    rcases h₂ : e.bindGlobal Global.currentCode (.string content) engine with ⟨f | _, engine⟩
    · exact .failed f engine rfl fun o ho => he.bind _ _ _ o (by rw [h₂, ho])
    · exact .done engine rfl

lemma outcome_resetErrors : Outcome .resetErrors s (Session.resetErrors e s) := by
  rw [resetErrors_apply]
  by_cases h : s.phase = .fileBound
  · have hr : refused s .resetErrors = false := by simp [refused, h]
    rw [if_pos h]
    rcases hb : e.bindGlobal Global.errors (.array []) s.engine with ⟨f | _, engine⟩
    · exact .failed f engine hr fun o ho => he.bind _ _ _ o (by rw [hb, ho])
    · exact .done engine hr
  · rw [if_neg h]
    exact .refused _ (by simp [refused, h])

lemma outcome_evaluate : Outcome .evaluate s (Session.evaluate e s) := by
  rw [evaluate_apply]
  by_cases ho : s.optionsBound = true
  · rw [if_neg (not_not_intro ho)]
    by_cases h : s.phase = .fileBound ∧ s.errorsReset = true
    · have hr : refused s .evaluate = false := by simp [refused, ho, h]
      rw [if_pos h]
      rcases hb : e.evaluate Global.driverCall s.engine with ⟨f | _, engine⟩
      · exact .failed f engine hr fun o ho => he.evaluate _ _ o (by rw [hb, ho])
      · exact .done engine hr
    · rw [if_neg h]
      exact .refused _ (by simpa [refused, ho, imp_iff_not_or] using h)
  · rw [if_pos ho]
    exact .refused _ (by simp [refused, ho])

lemma outcome_readErrors : Outcome .readErrors s (perform e .readErrors s) := by
  rw [perform, bind_apply, readErrors_apply]
  by_cases h : s.phase = .evaluated ∨ s.phase = .read
  · have hr : refused s .readErrors = false := by
      rcases h with h | h <;> simp [refused, h]
    rw [if_pos h]
    rcases hb : e.readGlobal Global.errors s.engine with ⟨f | v, engine⟩
    · exact .failed f engine hr fun o ho => he.read _ _ o (by rw [hb, ho])
    · cases v with
      | array records => exact .done engine hr
      | _ => exact .failed _ engine hr (by simp)
  · rw [if_neg h]
    exact .refused _ (by simpa [refused] using h)

/-- What a call can do. -/
lemma Outcome.of_perform (c : Call) : Outcome c s (c.perform e s) := by
  cases c with
  | setOptions given => exact outcome_setOptions he s given
  | setCurrentFile name content => exact outcome_setCurrentFile he s name content
  | resetErrors => exact outcome_resetErrors he s
  | evaluate => exact outcome_evaluate he s
  | readErrors => exact outcome_readErrors he s
  | close => exact .done (e.close s.engine) rfl

end Call

/-! ### All calls -/

/-- The fields of a session say of its past what the guards need to know. -/
structure Tracks {σ : Type} (past : List Event) (s : Session σ) : Prop where
  optionsBound : s.optionsBound = did past Call.bindsOptions
  idle : s.phase = .idle ↔ did past Call.bindsFile = false
  evaluated : s.phase = .evaluated ∨ s.phase = .read ↔
    did (sinceFile past) Call.evaluates = true
  errorsReset : s.phase = .fileBound → s.errorsReset = did (sinceFile past) Call.resets

variable {σ : Type} {e : Engine σ} {past : List Event} {s : Session σ}

lemma tracks_start (engine : σ) : Tracks [] (start engine) := by
  constructor <;> simp [start, sinceFile, did]

/-- The guards of a session refuse a call exactly if its past does. -/
lemma Tracks.refused_iff (h : Tracks past s) (c : Call) :
    c.refused s = true ↔ c.outOfOrder past := by
  obtain ⟨ho, hi, he, hr⟩ := h
  cases c with
  | setOptions given => rw [Call.refused, Call.outOfOrder, ho]
  | setCurrentFile name content => simp [Call.refused, Call.outOfOrder]
  | resetErrors =>
    rw [Call.outOfOrder, Bool.not_eq_true, ← hi, ← he]
    cases hp : s.phase <;> simp [Call.refused, hp]
  | evaluate =>
    rw [Call.outOfOrder, Bool.not_eq_true, Bool.not_eq_true, ← hi, ← he, ← ho]
    by_cases hp : s.phase = .fileBound
    · simp [Call.refused, hp, hr hp]
    · cases hq : s.phase <;> simp_all [Call.refused]
  | readErrors =>
    rw [Call.outOfOrder, ← he]
    simp [Call.refused]
  | close => simp [Call.refused, Call.outOfOrder]

/-- A call that fails leaves the fields and adds nothing to the past that they stand for. -/
lemma Tracks.failed (h : Tracks past s) (c : Call) (f : Failure) (engine : σ) :
    Tracks (past ++ [⟨c, .error f⟩]) { s with engine } := by
  obtain ⟨ho, hi, he, hr⟩ := h
  constructor <;> simpa

/-- A session past its first file has bound one. -/
lemma Tracks.bindsFile (h : Tracks past s) (hp : s.phase ≠ .idle) :
    did past Call.bindsFile = true := by
  simpa using mt h.idle.mpr hp

/-- A call that succeeds changes the fields as it changes the past. -/
lemma Tracks.done (h : Tracks past s) (c : Call) (engine : σ) (hc : c.refused s = false) :
    Tracks (past ++ [⟨c, .ok ()⟩]) { c.after s with engine } := by
  obtain ⟨ho, hi, he, hr⟩ := id h
  cases c with
  | setOptions given =>
    refine ⟨by simp [Call.after], ?_, ?_, ?_⟩
    · simpa [Call.after] using hi
    · simpa [Call.after] using he
    · simpa [Call.after] using hr
  | setCurrentFile name content => constructor <;> simp [Call.after, ho]
  | resetErrors =>
    refine ⟨?_, ?_, ?_, by simp [Call.after]⟩
    · simpa [Call.after] using ho
    · simpa [Call.after] using hi
    · simpa [Call.after] using he
  | evaluate =>
    have hp : s.phase = .fileBound := by
      simp only [Call.refused, Bool.not_eq_false', Bool.and_eq_true, decide_eq_true_eq] at hc
      exact hc.1.2
    have hf := h.bindsFile (by simp [hp])
    constructor <;> simp [Call.after, ho, hf]
  | readErrors =>
    have hp : s.phase = .evaluated ∨ s.phase = .read := by
      simpa [Call.refused, imp_iff_not_or] using hc
    have hf := h.bindsFile (by rcases hp with hp | hp <;> simp [hp])
    constructor <;> simp [Call.after, ho, hf, he.mp hp]
  | close => constructor <;> simpa [Call.after]

/-- One call keeps the invariant, however it ends. -/
lemma Tracks.perform (h : Tracks past s) (hn : e.NeverRefuses) (c : Call) :
    Tracks (past ++ [⟨c, (c.perform e s).1⟩]) (c.perform e s).2 := by
  have hc := Call.Outcome.of_perform hn s c
  generalize c.perform e s = r at hc
  cases hc with
  | refused o _ => exact h.failed c _ s.engine
  | failed f engine _ _ => exact h.failed c f engine
  | done engine hc => exact h.done c engine hc

/-- Calls of any number keep the invariant. -/
lemma Tracks.performAll (h : Tracks past s) (hn : e.NeverRefuses) (calls : List Call) :
    Tracks (past ++ (Call.performAll e calls s).1) (Call.performAll e calls s).2 := by
  induction calls generalizing past s with
  | nil => simpa [Call.performAll] using h
  | cons c calls ih =>
    have := ih (h.perform hn c)
    rwa [List.append_assoc] at this

/-- A session that was opened is new. -/
lemma eq_start_of_begin {linter driver : Script} {engine : σ}
    (h : (begin e linter driver engine).1 = .ok s) : ∃ engine', s = start engine' := by
  rw [begin] at h
  rcases hp : prepare e linter driver engine with ⟨_ | _, engine'⟩ <;> rw [hp] at h
  · cases h
  · exact ⟨engine', (Except.ok.inj h).symm⟩

/-- After any calls on a session that was opened, whatever its interpreter answered or raised, a
call is refused if and only if the history of these calls leaves no place for it. A call that is
refused sends nothing and changes nothing, and a call that fails in any way leaves the session as
it was but for its engine. -/
theorem refused_iff_outOfOrder {σ : Type} (i : Interpreter σ) {linter driver : Script}
    {engine : σ × List Text} {s : Session (σ × List Text)}
    (h : (begin (.ofInterpreter i.recorded) linter driver engine).1 = .ok s)
    (calls : List Call) (c : Call) :
    let past := (Call.performAll (.ofInterpreter i.recorded) calls s).1
    let before := (Call.performAll (.ofInterpreter i.recorded) calls s).2
    let result := c.perform (.ofInterpreter i.recorded) before
    ((∃ o, result.1 = .error (.outOfOrder o)) ↔ c.outOfOrder past) ∧
      (∀ o, result.1 = .error (.outOfOrder o) → result.2 = before) ∧
      (∀ f, result.1 = .error f → result.2.phase = before.phase ∧
        result.2.optionsBound = before.optionsBound ∧
        result.2.errorsReset = before.errorsReset ∧
        result.2.currentFile = before.currentFile) := by
  intro past before result
  have hn := Engine.neverRefuses_ofInterpreter i.recorded
  obtain ⟨engine', rfl⟩ := eq_start_of_begin h
  have ht : Tracks past before := (tracks_start engine').performAll hn calls
  rw [← ht.refused_iff c]
  have hc : Call.Outcome c before result := Call.Outcome.of_perform hn before c
  clear_value result
  cases hc with
  | refused o hr => exact ⟨⟨fun _ => hr, fun _ => ⟨o, rfl⟩⟩, fun _ _ => rfl, by simp⟩
  | failed f engine hr hf =>
    refine ⟨⟨?_, by simp [hr]⟩, ?_, by simp⟩
    · rintro ⟨o, ho⟩
      exact absurd (Except.error.inj ho) (hf o)
    · intro o ho
      exact absurd (Except.error.inj ho) (hf o)
  | done engine hr => exact ⟨⟨by simp, by simp [hr]⟩, by simp, by simp⟩

/-- Rules by which the first run of the driver fails. -/
def failingOnce : List Rule := [⟨"__pyjshintDriver", some 1, .error (.fault "stop")⟩]

/-- Calls that run the driver twice over the same collection of errors. -/
def runningTwice : List Call :=
  [.setOptions [], .setCurrentFile "a" "", .resetErrors, .evaluate, .evaluate]

/-- The run that failed leaves place for another one, and the one that did not fail for none. -/
theorem refused_iff_outOfOrder_runningTwice : ∃ s : Session (Scripted.State × List Text),
    (begin (.ofInterpreter Interpreter.scripted.recorded) ⟨"l", "l"⟩ ⟨"d", "d"⟩
      (Scripted.start failingOnce, [])).1 = .ok s ∧
    ((Call.performAll (.ofInterpreter Interpreter.scripted.recorded) runningTwice s).1.map
      fun e => e.outcome.isOk) = [true, true, true, false, true] ∧
    ∃ o, (Call.evaluate.perform (.ofInterpreter Interpreter.scripted.recorded)
      (Call.performAll (.ofInterpreter Interpreter.scripted.recorded) runningTwice s).2).1
        = .error (.outOfOrder o) := by
  refine ⟨_, rfl, by rfl, ?_⟩
  have h := @refused_iff_outOfOrder _ Interpreter.scripted ⟨"l", "l"⟩ ⟨"d", "d"⟩
    (Scripted.start failingOnce, []) _ rfl runningTwice .evaluate
  exact h.1.mpr (.inr (.inr (.inr (by rfl))))

end ScriptLint.Session
