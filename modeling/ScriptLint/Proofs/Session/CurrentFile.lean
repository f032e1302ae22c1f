import ScriptLint.Proofs.Session.Resets

/-!
# The file that the driver runs on

A file is bound in two sources, its name and then its content, and the session takes note of it only
when both have succeeded. So the content that is bound when the driver runs is that of the last file
that was set, which is the file that the session reports. Its name is bound too, unless a later call
has bound another name and then failed: the session stays as it was, and may run the driver on the
content of one file under the name of another.

`Filing` says what one call sends with regard to the two globals. The invariant `Filed` ties what was
bound last to the history of calls.
-/

namespace ScriptLint

open ScriptLint.Action Engine

/-! ### Bindings in transcripts -/

/-- How a source starts that binds a global. -/
def Session.bindingLead (global : Text) : Text := "globalThis[" ++ Json.printText global ++ "] = "

namespace Sent

/-- Whether a global was bound. -/
def binds (global : Text) (e : Sent) : Bool :=
  e.source.startsWith (Session.bindingLead global) && e.answer.isOk

/-- Whether the name or the content of a file was bound. -/
def isFiling (e : Sent) : Bool := e.binds Global.currentFile || e.binds Global.currentCode

end Sent

namespace Session

/-- The source that bound a global last. -/
def lastBinding? (global : Text) (t : List Sent) : Option Text :=
  (t.filter (·.binds global)).getLast?.map Sent.source

lemma lastBinding?_concat (global : Text) (t : List Sent) (e : Sent) :
    lastBinding? global (t ++ [e])
      = if e.binds global then some e.source else lastBinding? global t := by
  rw [lastBinding?, List.filter_append, List.filter_singleton]
  cases e.binds global <;> simp [lastBinding?]

lemma lastBinding?_append {global : Text} {sent : List Sent}
    (h : ∀ e ∈ sent, e.binds global = false) (t : List Sent) :
    lastBinding? global (t ++ sent) = lastBinding? global t := by
  have hn : sent.filter (·.binds global) = [] :=
    List.filter_eq_nil_iff.mpr fun e he => by simp [h e he]
  rw [lastBinding?, List.filter_append, hn, List.append_nil, lastBinding?]

/-! ### Files in histories -/

/-- The file that a call has set, if it did: the name and the content. -/
def Event.file? : Event → Option (Text × Text)
  | ⟨.setCurrentFile name content, .ok ()⟩ => some (name, content)
  | _                                      => none

/-- The file that a history has set last. -/
def lastFile? (past : List Event) : Option (Text × Text) := (past.filterMap Event.file?).getLast?

lemma lastFile?_setCurrentFile (past : List Event) (name content : Text) :
    lastFile? (past ++ [⟨.setCurrentFile name content, .ok ()⟩]) = some (name, content) := by
  simp [lastFile?, Event.file?]

lemma file?_eq_none {e : Event} (h : (e.call.bindsFile && e.outcome.isOk) = false) :
    e.file? = none := by
  obtain ⟨c, outcome⟩ := e
  cases c with
  | setCurrentFile name content =>
    cases outcome with
    | error f => rfl
    | ok _    => cases h
  | _ => rfl

lemma lastFile?_concat {past : List Event} {e : Event}
    (h : (e.call.bindsFile && e.outcome.isOk) = false) :
    lastFile? (past ++ [e]) = lastFile? past := by
  rw [lastFile?, List.filterMap_append, List.filterMap_cons, file?_eq_none h]
  simp [lastFile?]

lemma sinceFile_concat {past : List Event} {e : Event}
    (h : (e.call.bindsFile && e.outcome.isOk) = false) :
    sinceFile (past ++ [e]) = sinceFile past ++ [e] := by
  rw [sinceFile, List.rtakeWhile_concat, if_pos (by rw [h]; rfl), sinceFile]

/-! ### One call -/

/-- The source that binds the name of a file. -/
def nameSource (name : Text) : Text := bindingSource Global.currentFile (.string name)

/-- The source that binds the content of a file. -/
def contentSource (content : Text) : Text := bindingSource Global.currentCode (.string content)

section Filings

variable {σ : Type}

/-- What a call does with the file that is bound: nothing; or it binds a name and fails; or it sets a
file. -/
inductive Filing (c : Call) (s : Session (σ × List Sent)) :
    Except Failure Unit × Session (σ × List Sent) → Prop
  | none {outcome : Except Failure Unit} {s' : Session (σ × List Sent)} {sent : List Sent}
      (ht : s'.engine.2 = s.engine.2 ++ sent) (hq : ∀ e ∈ sent, e.isFiling = false)
      (hc : (c.bindsFile && outcome.isOk) = false) (hf : s'.currentFile = s.currentFile)
      (hp : s'.phase ≠ .idle → s.phase ≠ .idle) : Filing c s (outcome, s')
  | halfway {name content : Text} {v : Json} {r : Raised} {f : Failure} {inner : σ}
      (hc : c = .setCurrentFile name content) :
      Filing c s (.error f, { s with engine :=
        (inner, s.engine.2 ++ [⟨nameSource name, .ok v⟩, ⟨contentSource content, .error r⟩]) })
  | set {name content : Text} {v v' : Json} {s' : Session (σ × List Sent)}
      (hc : c = .setCurrentFile name content) (hf : s'.currentFile = some name)
      (ht : s'.engine.2
        = s.engine.2 ++ [⟨nameSource name, .ok v⟩, ⟨contentSource content, .ok v'⟩]) :
      Filing c s (.ok (), s')

variable (i : Interpreter σ) (s : Session (σ × List Sent))

lemma filing_setCurrentFile (name content : Text) :
    Filing (.setCurrentFile name content) s
      (setCurrentFile (ofInterpreter i.transcribed) name content s) := by
  rw [setCurrentFile_apply]
  obtain ⟨answer, inner, hb⟩ := bindGlobal_transcribed i Global.currentFile (.string name) s.engine
  rw [hb]
  cases answer with
  | error r => exact .none rfl (List.forall_mem_singleton.mpr rfl) rfl rfl id
  | ok v =>
    obtain ⟨answer, inner', hb⟩ := bindGlobal_transcribed i Global.currentCode (.string content)
      (inner, s.engine.2 ++ [⟨nameSource name, .ok v⟩])
    simp only [Except.mapError, Except.map]
    rw [show bindingSource Global.currentFile (.string name) = nameSource name from rfl, hb,
      List.append_assoc]
    cases answer with
    | error r => exact .halfway rfl
    | ok v'   => exact .set rfl rfl rfl

/-- Other calls send nothing that binds a file. -/
lemma exists_sent {c : Call} (hc : c.bindsFile = false) :
    ∃ sent, (c.perform (ofInterpreter i.transcribed) s).2.engine.2 = s.engine.2 ++ sent ∧
      ∀ e ∈ sent, e.isFiling = false := by
  have hnone : ∃ sent, s.engine.2 = s.engine.2 ++ sent ∧ ∀ e ∈ sent, e.isFiling = false :=
    ⟨[], (List.append_nil _).symm, List.forall_mem_nil _⟩
  cases c with
  | setOptions given =>
    rw [Call.perform, setOptions_apply]
    split
    · exact hnone
    · rcases Options.ofGiven? given with _ | options
      · exact hnone
      · obtain ⟨answer, inner, hb⟩ :=
          bindGlobal_transcribed i Global.options (optionsObject options) s.engine
        simp only [hb]
        cases answer <;> exact ⟨_, rfl, List.forall_mem_singleton.mpr rfl⟩
  | setCurrentFile name content => cases hc
  | resetErrors =>
    rw [Call.perform, resetErrors_apply]
    split
    · obtain ⟨answer, inner, hb⟩ := bindGlobal_transcribed i Global.errors (.array []) s.engine
      rw [hb]
      cases answer <;> exact ⟨_, rfl, List.forall_mem_singleton.mpr rfl⟩
    · exact hnone
  | evaluate =>
    rw [Call.perform, evaluate_apply]
    split
    · exact hnone
    · split
      · obtain ⟨answer, inner, hb⟩ := evaluate_transcribed i Global.driverCall s.engine
        rw [hb]
        cases answer <;> exact ⟨_, rfl, List.forall_mem_singleton.mpr rfl⟩
      · exact hnone
  | readErrors =>
    rw [Call.perform, bind_apply, readErrors_apply]
    split_ifs
    · obtain ⟨result, answer, inner, hb⟩ := readGlobal_transcribed i Global.errors s.engine
      have hq : ∀ e ∈ [(⟨readingSource Global.errors, answer⟩ : Sent)], e.isFiling = false :=
        List.forall_mem_singleton.mpr rfl
      rw [hb]
      cases result with
      | error f => exact ⟨_, rfl, hq⟩
      | ok v    => cases v <;> exact ⟨_, rfl, hq⟩
    · exact hnone
  | close => exact hnone

lemma Filing.of_perform (c : Call) : Filing c s (c.perform (ofInterpreter i.transcribed) s) := by
  cases hc : c.bindsFile with
  | true =>
    cases c with
    | setCurrentFile name content => exact filing_setCurrentFile i s name content
    | _ => cases hc
  | false =>
    obtain ⟨sent, ht, hq⟩ := exists_sent i s hc
    have ho := Call.Outcome.of_perform (neverRefuses_ofInterpreter i.transcribed) s c
    generalize c.perform (ofInterpreter i.transcribed) s = result at ht ho
    cases ho with
    | refused o h => exact .none ht hq (by rw [hc, Bool.false_and]) rfl id
    | failed f engine h hf => exact .none ht hq (by rw [hc, Bool.false_and]) rfl id
    | done engine h =>
      refine .none ht hq (by rw [hc, Bool.false_and]) ?_ ?_
      · cases c with
        | setCurrentFile name content => cases hc
        | _ => rfl
      · -- the calls that move on from a phase are refused while no file is bound
        cases c with
        | setCurrentFile name content => cases hc
        | evaluate | readErrors =>
          intro _ hp
          simp [Call.refused, hp] at h
        | _ => exact id

end Filings

/-! ### All calls -/

/-- A file is set: the session reports its name and its content is bound. The name that is bound is
its name, or that of a later call that failed. -/
structure Filed {σ : Type} (past : List Event) (s : Session (σ × List Sent)) (name content : Text) :
    Prop where
  last : lastFile? past = some (name, content)
  reported : s.currentFile = some name
  content : lastBinding? Global.currentCode s.engine.2 = some (contentSource content)
  name : ∃ bound, lastBinding? Global.currentFile s.engine.2 = some (nameSource bound) ∧
    (bound = name ∨ ∃ text f, ⟨.setCurrentFile bound text, .error f⟩ ∈ sinceFile past)

variable {σ : Type} {past : List Event} {s s' : Session (σ × List Sent)} {name content : Text}

lemma Filed.keep (h : Filed past s name content) {e : Event} {sent : List Sent}
    (he : (e.call.bindsFile && e.outcome.isOk) = false) (hf : s'.currentFile = s.currentFile)
    (ht : s'.engine.2 = s.engine.2 ++ sent) (hq : ∀ e ∈ sent, e.isFiling = false) :
    Filed (past ++ [e]) s' name content := by
  have hq : ∀ e ∈ sent, e.binds Global.currentFile = false ∧ e.binds Global.currentCode = false :=
    fun e he => by simpa [Sent.isFiling] using hq e he
  obtain ⟨bound, hb, hbound⟩ := h.name
  refine ⟨(lastFile?_concat he).trans h.last, hf.trans h.reported, ?_, bound, ?_, ?_⟩
  · rw [ht, lastBinding?_append fun e he => (hq e he).2, h.content]
  · rw [ht, lastBinding?_append fun e he => (hq e he).1, hb]
  · rw [sinceFile_concat he]
    exact hbound.imp_right fun ⟨text, f, hm⟩ => ⟨text, f, List.mem_append_left _ hm⟩

/-- A call that fails between its two bindings leaves its name to the file that was set before. -/
lemma Filed.halfway (h : Filed past s name content) {bound text : Text} {v : Json} {r : Raised}
    {f : Failure} (hf : s'.currentFile = s.currentFile)
    (ht : s'.engine.2
      = s.engine.2 ++ [⟨nameSource bound, .ok v⟩, ⟨contentSource text, .error r⟩]) :
    Filed (past ++ [⟨.setCurrentFile bound text, .error f⟩]) s' name content := by
  have he : (Call.bindsFile (.setCurrentFile bound text) &&
      (Except.error f : Except Failure Unit).isOk) = false := rfl
  refine ⟨(lastFile?_concat he).trans h.last, hf.trans h.reported, ?_, bound, ?_, .inr ?_⟩
  · rw [ht, List.append_cons, lastBinding?_concat, lastBinding?_concat]
    exact h.content
  · rw [ht, List.append_cons, lastBinding?_concat, lastBinding?_concat]
    rfl
  · rw [sinceFile_concat he]
    exact ⟨text, f, List.mem_append_right _ (.head _)⟩

lemma filed_set {v v' : Json} (hf : s'.currentFile = some name)
    (ht : s'.engine.2
      = s.engine.2 ++ [⟨nameSource name, .ok v⟩, ⟨contentSource content, .ok v'⟩]) :
    Filed (past ++ [⟨.setCurrentFile name content, .ok ()⟩]) s' name content := by
  refine ⟨lastFile?_setCurrentFile past name content, hf, ?_, name, ?_, .inl rfl⟩
  · rw [ht, List.append_cons, lastBinding?_concat]
    rfl
  · rw [ht, List.append_cons, lastBinding?_concat, lastBinding?_concat]
    rfl

/-- A session that is past its start has a file. -/
def HasFile {σ : Type} (past : List Event) (s : Session (σ × List Sent)) : Prop :=
  s.phase ≠ .idle → ∃ name content, Filed past s name content

/-- One call keeps the invariant. -/
lemma HasFile.perform (h : HasFile past s) (i : Interpreter σ) (c : Call) :
    HasFile (past ++ [⟨c, (c.perform (ofInterpreter i.transcribed) s).1⟩])
      (c.perform (ofInterpreter i.transcribed) s).2 := by
  have hc := Filing.of_perform i s c
  generalize c.perform (ofInterpreter i.transcribed) s = result at hc
  intro hphase
  cases hc with
  | none ht hq hc hf hp =>
    obtain ⟨name, content, h⟩ := h (hp hphase)
    exact ⟨name, content, h.keep hc hf ht hq⟩
  | halfway hc =>
    obtain ⟨name, content, h⟩ := h hphase
    subst hc
    exact ⟨name, content, h.halfway rfl rfl⟩
  | set hc hf ht =>
    subst hc
    exact ⟨_, _, filed_set hf ht⟩

/-- Calls of any number keep the invariant. -/
lemma HasFile.performAll (h : HasFile past s) (i : Interpreter σ) (calls : List Call) :
    HasFile (past ++ (Call.performAll (ofInterpreter i.transcribed) calls s).1)
      (Call.performAll (ofInterpreter i.transcribed) calls s).2 := by
  induction calls generalizing past s with
  | nil => simpa [Call.performAll] using h
  | cons c calls ih =>
    have := ih (h.perform i c)
    rwa [List.append_assoc] at this

/-- A call that runs the driver sends nothing before it, and a file is bound. -/
lemma Turn.of_isRun {before rest : List Sent} {run : Sent}
    (h : Turn s s' (before ++ run :: rest)) (hr : run.isRun = true) :
    before = [] ∧ s.phase = .fileBound := by
  generalize hs : before ++ run :: rest = sent at h
  have hrun : run ∈ sent := hs ▸ List.mem_append_right _ (.head _)
  have hbefore (e : Sent) (he : sent = [e]) : before = [] := by
    rw [he, List.append_eq_singleton_iff] at hs
    exact hs.elim And.left (by simp)
  cases h with
  | quiet hq _ _ =>
    have := hq run hrun
    simp [Sent.isQuiet, hr] at this
  | reset he _ =>
    rw [← List.mem_singleton.mp hrun, resets_of_isRun hr] at he
    cases he
  | failed _ _ hp _ _ => exact ⟨hbefore _ rfl, hp⟩
  | finished _ _ hp _ _ => exact ⟨hbefore _ rfl, hp⟩

/-- After any calls on a session that was opened, whatever its interpreter answered or raised: when a
call runs the driver, the content that is bound is that of the last file that was set, and the
session reports the name of that file. The name that is bound is the same, unless a call that came
later has bound its own name and failed. -/
theorem file_of_run {σ : Type} (i : Interpreter σ) {linter driver : Script}
    {engine : σ × List Sent} {s : Session (σ × List Sent)}
    (h : (begin (ofInterpreter i.transcribed) linter driver engine).1 = .ok s)
    (calls : List Call) (c : Call) :
    let past := (Call.performAll (ofInterpreter i.transcribed) calls s).1
    let before := (Call.performAll (ofInterpreter i.transcribed) calls s).2
    let after := (c.perform (ofInterpreter i.transcribed) before).2
    ∀ sent run rest, after.engine.2 = before.engine.2 ++ (sent ++ run :: rest) →
      run.isRun = true → ∃ name content, lastFile? past = some (name, content) ∧
        before.currentFile = some name ∧
        lastBinding? Global.currentCode (before.engine.2 ++ sent) = some (contentSource content) ∧
        ∃ bound, lastBinding? Global.currentFile (before.engine.2 ++ sent)
            = some (nameSource bound) ∧
          (bound = name ∨ ∃ text f, ⟨.setCurrentFile bound text, .error f⟩ ∈ sinceFile past) := by
  intro past before after sent run rest hsent hrun
  obtain ⟨engine', rfl⟩ := eq_start_of_begin h
  have hstart : HasFile [] (start engine') := fun hp => absurd rfl hp
  have hfile : HasFile past before := hstart.performAll i calls
  obtain ⟨sent', hs, ht⟩ := Turns.of_perform i (s := before) c
  obtain rfl : sent' = sent ++ run :: rest := List.append_cancel_left (hs.symm.trans hsent)
  obtain ⟨rfl, hphase⟩ := ht.of_isRun hrun
  obtain ⟨name, content, hl, hr, hc, hn⟩ := hfile (by simp [hphase])
  rw [List.append_nil]
  exact ⟨name, content, hl, hr, hc, hn⟩

/-- Rules by which the content of the second file is not bound. -/
def failingContent : List Rule := [⟨"globalThis[\"currentCode\"]", some 3, .error (.fault "stop")⟩]

/-- Calls that set a file and then fail to set another. -/
def settingTwice : List Call :=
  [.setOptions [], .setCurrentFile "a" "x", .resetErrors, .setCurrentFile "b" "y"]

/-- The driver runs on the content of the first file, whose name the session reports. -/
theorem file_of_run_settingTwice : ∃ s before run,
    (begin (ofInterpreter Interpreter.scripted.transcribed) ⟨"l", "l"⟩ ⟨"d", "d"⟩
      (Scripted.start failingContent, [])).1 = .ok s ∧
    (Call.performAll (ofInterpreter Interpreter.scripted.transcribed) settingTwice s).2 = before ∧
    (Call.evaluate.perform (ofInterpreter Interpreter.scripted.transcribed) before).2.engine.2
      = before.engine.2 ++ [run] ∧ run.isRun = true ∧ before.currentFile = some "a" ∧
    lastBinding? Global.currentCode before.engine.2 = some (contentSource "x") := by
  refine ⟨_, _, ⟨Global.driverCall, .ok .null⟩, rfl, rfl, rfl, rfl, ?_⟩
  obtain ⟨name, content, hl, hr, hc, -⟩ := @file_of_run _ Interpreter.scripted ⟨"l", "l"⟩ ⟨"d", "d"⟩
    (Scripted.start failingContent, []) _ rfl settingTwice .evaluate [] _ [] rfl rfl
  cases hl
  exact ⟨hr, hc⟩

/-- The driver may run on the content of one file under the name of another, and no call has set such
a file. -/
theorem name_and_content_of_different_files : ∃ s before run,
    (begin (ofInterpreter Interpreter.scripted.transcribed) ⟨"l", "l"⟩ ⟨"d", "d"⟩
      (Scripted.start failingContent, [])).1 = .ok s ∧
    (Call.performAll (ofInterpreter Interpreter.scripted.transcribed) settingTwice s).2 = before ∧
    (Call.evaluate.perform (ofInterpreter Interpreter.scripted.transcribed) before).2.engine.2
      = before.engine.2 ++ [run] ∧ run.isRun = true ∧ before.currentFile = some "a" ∧
    lastBinding? Global.currentFile before.engine.2 = some (nameSource "b") ∧
    lastBinding? Global.currentCode before.engine.2 = some (contentSource "x") ∧
    ∀ c ∈ settingTwice, c ≠ .setCurrentFile "b" "x" := by
  refine ⟨_, _, ⟨Global.driverCall, .ok .null⟩, rfl, rfl, rfl, rfl, rfl, rfl, rfl, ?_⟩
  simp only [settingTwice, List.forall_mem_cons, List.not_mem_nil, false_imp_iff, implies_true,
    and_true]
  refine ⟨by simp, ?_, by simp, ?_⟩ <;> rintro ⟨⟩

end Session
end ScriptLint
