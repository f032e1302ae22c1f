import ScriptLint.Proofs.Run.Bindings
import ScriptLint.Proofs.Run.Trace
import ScriptLint.Report.Format

/-!
# What a run tells of the records that it reads

Every record that a run reads of its interpreter is a diagnostic of the report or has a message in
the log, and the messages on the diagnostics are the lines of the plain report. A run without a log
is the same run otherwise.

The records are those of the answers in the exchange with the interpreter. The proof follows the
loop over the files: one file adds a list of records to the exchange, one result to the report and
the messages on both to the log.
-/

namespace ScriptLint

open ScriptLint.Action Step

/-! ### Records in an exchange -/

namespace Step

/-- The records that an answer gives, if the collected errors were asked for. -/
def records? (e : Step × Except Raised Json) : Option (List Json) :=
  match e.1.purpose with
  | .readErrors =>
    match e.2 with
    | .ok v =>
      match Engine.decode Global.errors v with
      | .ok (.array records) => some records
      | _                    => none
    | .error _ => none
  | _ => none

/-- The lists of records that an interpreter gives, in order. -/
def recordsOf {σ : Type} (i : Interpreter σ) (steps : List Step) (s : σ) : List (List Json) :=
  (exchange i steps s).filterMap records?

variable {σ : Type} {i : Interpreter σ} {s s' : σ}

/-- Where all of a plan is performed, the exchange goes on from the state that it leaves. -/
lemma exchange_append {xs : List Step} (h : performAll i xs s = (.ok (), s')) (ys : List Step) :
    exchange i (xs ++ ys) s = exchange i xs s ++ exchange i ys s' := by
  induction xs generalizing s with
  | nil =>
    cases h
    rfl
  | cons x xs ih =>
    rw [performAll, bind_apply, perform_apply] at h
    rcases hv : x.purpose.verdict (i.eval x.source s).1 with f | _ <;> rw [hv] at h
    · cases h
    · rw [List.cons_append, exchange, exchange, ih h, List.cons_append]

lemma recordsOf_append {xs : List Step} (h : performAll i xs s = (.ok (), s')) (ys : List Step) :
    recordsOf i (xs ++ ys) s = recordsOf i xs s ++ recordsOf i ys s' := by
  rw [recordsOf, exchange_append h, List.filterMap_append]
  rfl

lemma exchange_recorded (steps : List Step) (log : List Text) :
    exchange i.recorded steps (s, log) = exchange i steps s := by
  induction steps generalizing s log with
  | nil => rfl
  | cons step steps ih => exact congrArg _ (ih _)

end Step

/-! ### One file -/

namespace Run

/-- The message on a record at a position, unless it is a diagnostic. -/
def rejection? (name : Text) (e : Json × Nat) : Option Text :=
  match Diagnostic.ofRecord e.1 with
  | .ok _      => none
  | .error err => some ("Skipping malformed error #" ++ Text.ofNat e.2 ++ " reported for " ++
      name ++ ": " ++ err.message)

/-- The messages on the records of a file that are no diagnostics, with their positions counted
from one. -/
def rejections (name : Text) (records : List Json) : List Text :=
  (records.zipIdx 1).filterMap (rejection? name)

/-- The messages of a log on the progress of a run. -/
def progress (log : List LogEntry) : List Text :=
  log.filterMap fun
    | .progress m => some m
    | .problem _  => none

/-- The messages of a log on problems. -/
def problems (log : List LogEntry) : List Text :=
  log.filterMap fun
    | .progress _ => none
    | .problem m  => some m

lemma sift_snd_cons (name : Text) (number : Nat) (record : Json) (records : List Json) :
    (sift name number (record :: records)).2 =
      match Diagnostic.ofRecord record with
      | .ok _    => (sift name (number + 1) records).2
      | .error e => skipped name number e :: (sift name (number + 1) records).2 := by
  rw [sift]
  cases Diagnostic.ofRecord record <;> rfl

lemma problems_sift (name : Text) (number : Nat) (records : List Json) :
    problems (sift name number records).2
      = (records.zipIdx number).filterMap (rejection? name) := by
  induction records generalizing number with
  | nil => rfl
  | cons record records ih =>
    rw [sift_snd_cons, List.zipIdx_cons, List.filterMap_cons, rejection?, ← ih]
    cases Diagnostic.ofRecord record <;> rfl

lemma progress_sift (name : Text) (number : Nat) (records : List Json) :
    progress (sift name number records).2 = [] := by
  induction records generalizing number with
  | nil => rfl
  | cons record records ih =>
    rw [sift_snd_cons]
    cases Diagnostic.ofRecord record with
    | ok d    => exact ih (number + 1)
    | error e => exact ih (number + 1)

/-- The lines on a result in a plain report. -/
def linesOf (r : FileResult) : List Text := if r.hasErrors then r.lines else []

lemma progress_announced (r : FileResult) : progress (announced r) = linesOf r := by
  rw [announced, linesOf]
  split
  · rw [progress, List.filterMap_map]
    exact List.filterMap_some
  · rfl

lemma problems_announced (r : FileResult) : problems (announced r) = [] := by
  rw [announced]
  split
  · rw [problems, List.filterMap_map]
    exact List.filterMap_eq_nil_iff.mpr fun _ _ => rfl
  · rfl

lemma progress_entriesOf (name : Text) (records : List Json) :
    progress (entriesOf name records) = linesOf (resultOf name records) := by
  rw [entriesOf, progress, List.filterMap_append, ← progress, ← progress, progress_sift,
    progress_announced, List.nil_append]

lemma problems_entriesOf (name : Text) (records : List Json) :
    problems (entriesOf name records) = rejections name records := by
  rw [entriesOf, problems, List.filterMap_append, ← problems, ← problems, problems_sift,
    problems_announced, List.append_nil]
  rfl

/-- A record is accepted or rejected. -/
lemma length_accepted_add (name : Text) (number : Nat) (records : List Json) :
    (accepted records).length + ((records.zipIdx number).filterMap (rejection? name)).length
      = records.length := by
  induction records generalizing number with
  | nil => rfl
  | cons record records ih =>
    rw [accepted, List.zipIdx_cons, List.filterMap_cons, List.filterMap_cons, rejection?,
      ← accepted, List.length_cons, ← ih (number + 1)]
    cases Diagnostic.ofRecord record with
    | ok d    => exact Nat.succ_add _ _
    | error e => rfl

/-! ### Steps of the loop -/

section Loop

variable {σ : Type} {i : Interpreter σ} {w : Workspace}

/-- A session that reads records has them of the answer of its interpreter. -/
lemma recordsOf_of_readErrors {s s' : Session σ} {records : List Json}
    (h : Session.readErrors (.ofInterpreter i) s = (.ok records, s')) :
    recordsOf i [⟨.readErrors, Engine.readingSource Global.errors⟩] s.engine = [records] := by
  obtain ⟨v, hv, hd⟩ := Session.decode_of_readErrors h
  rw [recordsOf, exchange, exchange, hv]
  simp [records?, hd]

/-- Of the steps for a file, only the last one asks for records. -/
lemma recordsOf_filePlan {name code : Text} {records : List Json} {s s₁ s₂ s₃ s₄ : Session σ}
    (hs : s.optionsBound = true)
    (h₁ : Session.setCurrentFile (.ofInterpreter i) name code s = (.ok (), s₁))
    (h₂ : Session.resetErrors (.ofInterpreter i) s₁ = (.ok (), s₂))
    (h₃ : Session.evaluate (.ofInterpreter i) s₂ = (.ok (), s₃))
    (h₄ : Session.readErrors (.ofInterpreter i) s₃ = (.ok records, s₄)) :
    recordsOf i (filePlan (name, code)) s.engine = [records] := by
  obtain ⟨hp₁, hb₁⟩ := (Session.setCurrentFile_follows i name code).of_ok hs h₁
  obtain ⟨hp₂, hb₂⟩ := (Session.resetErrors_follows i).of_ok hb₁ h₂
  obtain ⟨hp₃, -⟩ := (Session.evaluate_follows i).of_ok hb₂ h₃
  have hplan : filePlan (name, code) =
      [bindStep Global.currentFile (.string name), bindStep Global.currentCode (.string code)] ++
      ([bindStep Global.errors (.array [])] ++ ([⟨.runDriver, Global.driverCall⟩] ++
        [⟨.readErrors, Engine.readingSource Global.errors⟩])) := rfl
  rw [hplan, recordsOf_append hp₁, recordsOf_append hp₂, recordsOf_append hp₃,
    recordsOf_of_readErrors h₄]
  rfl

/-- A file that is linted gives the result and the messages of the records that were read. -/
lemma lintFile_account {name : Text} {s s' : State σ} {result : FileResult}
    (hs : s.session.optionsBound = true)
    (h : lintFile (.ofInterpreter i) w name s = (.ok result, s')) :
    ∃ code records, readSource w name = .ok code ∧
      performAll i (filePlan (name, code)) s.session.engine = (.ok (), s'.session.engine) ∧
      s'.session.optionsBound = true ∧
      recordsOf i (filePlan (name, code)) s.session.engine = [records] ∧
      result = resultOf name records ∧ s'.log = s.log.map (· ++ entriesOf name records) := by
  rcases hc : readSource w name with f | code
  · unfold lintFile at h
    rw [hc] at h
    cases h
  obtain ⟨hp, hb⟩ := (lintFile_follows i hc).of_ok hs h
  unfold lintFile at h
  rw [hc, mk_pure_ok_bind] at h
  obtain ⟨_, s₁, h₁, h⟩ := exists_of_bind_eq_ok h
  obtain ⟨_, s₂, h₂, h⟩ := exists_of_bind_eq_ok h
  obtain ⟨_, s₃, h₃, h⟩ := exists_of_bind_eq_ok h
  obtain ⟨records, s₄, h₄, h⟩ := exists_of_bind_eq_ok h
  obtain ⟨h₁, hl₁⟩ := ofSession_eq_ok h₁
  obtain ⟨h₂, hl₂⟩ := ofSession_eq_ok h₂
  obtain ⟨h₃, hl₃⟩ := ofSession_eq_ok h₃
  obtain ⟨h₄, hl₄⟩ := ofSession_eq_ok h₄
  have hw := isWritable_resultOf name (Session.isWritable_of_readErrors h₄)
  rw [collect_of_isWritable hw] at h
  obtain ⟨hresult, rfl⟩ := Prod.mk.inj h
  refine ⟨code, records, rfl, hp, hb, ?_, (Except.ok.inj hresult).symm, ?_⟩
  · exact recordsOf_filePlan hs h₁ h₂ h₃ h₄
  · rw [← hl₁, ← hl₂, ← hl₃, ← hl₄]

/-- Files that are linted add their results to the report and their messages to the log. -/
lemma lintFiles_account {names : List Text} {r r' : Report} {s s' : State σ}
    (hs : s.session.optionsBound = true) (hr : r.Awaits names.length)
    (h : lintFiles (.ofInterpreter i) w names r s = (.ok r', s')) :
    let records := recordsOf i ((readable w names).flatMap filePlan) s.session.engine
    records.length = names.length ∧
      r'.results = r.results ++ List.zipWith resultOf names records ∧
      s'.log = s.log.map (· ++ (List.zipWith entriesOf names records).flatten) := by
  induction names generalizing r s with
  | nil =>
    cases h
    exact ⟨rfl, (List.append_nil _).symm, by simp⟩
  | cons name names ih =>
    rw [lintFiles_cons _ _ _ hr] at h
    obtain ⟨result, t, hf, h⟩ := exists_of_bind_eq_ok h
    obtain ⟨code, records, hc, hp, hb, hrecords, rfl, hl⟩ := lintFile_account hs hf
    obtain ⟨hlength, hresults, hlog⟩ := ih hb (hr.concat _) h
    rw [readable, hc]
    dsimp only
    rw [List.flatMap_cons, recordsOf_append hp, hrecords, List.singleton_append]
    refine ⟨congrArg (· + 1) hlength, ?_, ?_⟩
    · rw [hresults, List.append_assoc]
      rfl
    · simp [hlog, hl, Function.comp_def]

variable {path : Option Path} {options : Options} {names : List Text} {s : σ} {r : Report}

lemma body_account {s' : State σ}
    (h : body (.ofInterpreter i) w options names ⟨Session.start s, some []⟩ = (.ok r, s')) :
    let records := recordsOf i (optionsStep options :: (readable w names).flatMap filePlan) s
    records.length = names.length ∧ r.results = List.zipWith resultOf names records ∧
      s'.log = some (List.zipWith entriesOf names records).flatten := by
  obtain ⟨_, t, ho, hf⟩ := exists_of_bind_eq_ok h
  obtain ⟨ho, hlog⟩ := ofSession_eq_ok ho
  obtain ⟨hp, hbound⟩ := (Session.setOptions_follows i options).of_ok rfl ho
  have hrecords : recordsOf i (optionsStep options :: (readable w names).flatMap filePlan) s
      = recordsOf i ((readable w names).flatMap filePlan) t.session.engine :=
    recordsOf_append hp _
  obtain ⟨hlength, hresults, hentries⟩ :=
    lintFiles_account hbound (Report.awaits_empty _) hf
  rw [hrecords]
  refine ⟨hlength, hresults, ?_⟩
  rw [hentries, hlog]
  rfl

/-- The records that a run reads of its interpreter, file by file. -/
def recordsRead (i : Interpreter σ) (w : Workspace) (path : Option Path) (options : Options)
    (names : List Text) (s : σ) : List (List Json) :=
  match scripts w path with
  | .ok (linter, driver) => recordsOf i (plan linter driver options (readable w names)) s
  | .error _             => []

lemma recordsRead_recorded (log : List Text) :
    recordsRead i.recorded w path options names (s, log)
      = recordsRead i w path options names s := by
  rw [recordsRead, recordsRead]
  rcases scripts w path with f | ⟨linter, driver⟩
  · rfl
  · exact congrArg (List.filterMap records?) (exchange_recorded _ log)

/-- A run with a report has a result and the messages for every list of records that it read. -/
lemma lint_account (h : (lint (.ofInterpreter i) w path options names s).1.result = .ok r) :
    let records := recordsRead i w path options names s
    records.length = names.length ∧ r.results = List.zipWith resultOf names records ∧
      (lint (.ofInterpreter i) w path options names s).1.log
        = (List.zipWith entriesOf names records).flatten := by
  rw [lint, lintLogging] at h ⊢
  rw [recordsRead]
  rcases hs : scripts w path with f | ⟨linter, driver⟩ <;> rw [hs] at h
  · cases h
  simp only [inSession, Session.begin, prepare_eq_performAll] at h ⊢
  rcases hl : performAll i (loadingPlan linter driver) s with ⟨f | _, engine⟩ <;> rw [hl] at h
  · cases h
  have hb : body (.ofInterpreter i) w options names ⟨Session.start engine, some []⟩
      = (.ok r, (body (.ofInterpreter i) w options names ⟨Session.start engine, some []⟩).2) :=
    Prod.ext h rfl
  have hrecords : recordsOf i (plan linter driver options (readable w names)) s
      = recordsOf i (optionsStep options :: (readable w names).flatMap filePlan) engine :=
    recordsOf_append hl _
  obtain ⟨hlength, hresults, hlog⟩ := body_account hb
  rw [hrecords]
  exact ⟨hlength, hresults, congrArg (Option.getD · []) hlog⟩

end Loop

/-! ### The whole log -/

/-- The messages of a log that tells of files one after another. -/
lemma filterMap_flatten_zipWith {α β γ δ : Type} (f : γ → Option δ) (g : α → β → List γ)
    (as : List α) (bs : List β) :
    (List.zipWith g as bs).flatten.filterMap f
      = (List.zipWith (fun a b => (g a b).filterMap f) as bs).flatten := by
  rw [List.filterMap_flatten, List.map_zipWith]

lemma flatMap_linesOf (results : List FileResult) :
    results.flatMap linesOf = (results.filter FileResult.hasErrors).flatMap FileResult.lines := by
  induction results with
  | nil => rfl
  | cons result results ih =>
    rw [List.flatMap_cons, List.filter_cons, linesOf, ih]
    split <;> rfl

/-- The messages on the progress of a run are the lines of the plain report but for its last. -/
lemma progress_flatten (names : List Text) (records : List (List Json)) :
    progress (List.zipWith entriesOf names records).flatten
      = ((List.zipWith resultOf names records).filter FileResult.hasErrors).flatMap
          FileResult.lines := by
  rw [progress, filterMap_flatten_zipWith, ← flatMap_linesOf, List.flatMap_def, List.map_zipWith]
  exact congrArg List.flatten (congrArg₂ (fun f => List.zipWith f names)
    (funext fun name => funext fun records => progress_entriesOf name records) rfl)

lemma problems_flatten (names : List Text) (records : List (List Json)) :
    problems (List.zipWith entriesOf names records).flatten
      = (List.zipWith rejections names records).flatten := by
  rw [problems, filterMap_flatten_zipWith]
  exact congrArg List.flatten (congrArg₂ (fun f => List.zipWith f names)
    (funext fun name => funext fun records => problems_entriesOf name records) rfl)

/-- Every record is a diagnostic or has a message. -/
lemma length_flatMap_diagnostics_add {names : List Text} {records : List (List Json)}
    (h : records.length = names.length) :
    ((List.zipWith resultOf names records).flatMap FileResult.diagnostics).length
      + (List.zipWith rejections names records).flatten.length = records.flatten.length := by
  induction names generalizing records with
  | nil =>
    rw [List.eq_nil_of_length_eq_zero h]
    rfl
  | cons name names ih =>
    cases records with
    | nil => cases h
    | cons found records =>
      have hrest := ih (Nat.succ.inj h)
      have hfound := length_accepted_add name 1 found
      rw [List.zipWith_cons_cons, List.zipWith_cons_cons, List.flatMap_cons, List.flatten_cons,
        List.flatten_cons, List.length_append, List.length_append, List.length_append, ← hrest,
        ← hfound, resultOf, rejections]
      exact Nat.add_add_add_comm _ _ _ _

/-! ### Runs without a log -/

variable {σ : Type} (e : Engine σ) (w : Workspace)

/-- The state of a run without the log. -/
def State.silent (s : State σ) : State σ := { s with log := none }

lemma mirrors_silent_ofSession {α : Type} (a : Action (Session σ) α) :
    Mirrors State.silent (fun _ => ()) (ofSession a) (ofSession a) := fun _ => ⟨rfl, rfl⟩

lemma mirrors_silent_tell (messages : List LogEntry) :
    Mirrors (State.silent (σ := σ)) (fun _ => ()) (tell messages) (tell messages) :=
  fun _ => ⟨rfl, rfl⟩

lemma mirrors_silent_lintFile (name : Text) :
    Mirrors State.silent (fun _ => ()) (lintFile e w name) (lintFile e w name) := by
  refine (mirrors_mk_pure _).bind fun code => ?_
  refine (mirrors_silent_ofSession _).bind fun _ => ?_
  refine (mirrors_silent_ofSession _).bind fun _ => ?_
  refine (mirrors_silent_ofSession _).bind fun _ => ?_
  refine (mirrors_silent_ofSession _).bind fun records => ?_
  exact mirrors_collect mirrors_silent_tell name records

lemma mirrors_silent_body (given : Options.Given) (names : List Text) :
    Mirrors State.silent (fun _ => ()) (body e w given names) (body e w given names) :=
  (mirrors_silent_ofSession _).bind fun _ =>
    mirrors_lintFiles (mirrors_silent_lintFile e w) names _

/-- A run does not depend on whether a log is kept. -/
lemma lintSilently_eq (path : Option Path) (given : Options.Given) (names : List Text)
    (engine : σ) : lintSilently e w path given names engine =
      ((lint e w path given names engine).1.result, (lint e w path given names engine).2) := by
  rw [lint, lintSilently, lintLogging, lintLogging]
  rcases scripts w path with f | ⟨linter, driver⟩
  · rfl
  simp only [inSession]
  rcases Session.begin e linter driver engine with ⟨f | session, _⟩
  · rfl
  · obtain ⟨hb, -⟩ := mirrors_silent_body e w given names ⟨session, some []⟩
    exact congrArg (fun done => (done.1, (done.2.session.close e).engine)) hb.symm

end Run

open Run

/-- What a run with a report has told: its messages on progress and the summary are the lines of
the plain report, and the records that it read are the diagnostics of its results, in their order,
and the records that its messages on problems tell of. A run without a log gives the same report
and leaves its interpreter, with what it was sent, the same. -/
theorem lint_accounts_for_records {σ : Type} (i : Interpreter σ) {w : Workspace}
    {path : Option Path} {options : Options} {names : List Text} {s : σ} {r : Report}
    (h : (lint (.ofInterpreter i.recorded) w path options names (s, [])).1.result = .ok r) :
    let run := lint (.ofInterpreter i.recorded) w path options names (s, [])
    let records := recordsRead i w path options names s
    r.render? .plain = some (Text.join "\n" (progress run.1.log ++ [r.summary])) ∧
    records.length = names.length ∧
    r.results = List.zipWith resultOf names records ∧
    problems run.1.log = (List.zipWith rejections names records).flatten ∧
    r.errorCount + (problems run.1.log).length = records.flatten.length ∧
    lintSilently (.ofInterpreter i.recorded) w path options names (s, []) = (.ok r, run.2) := by
  intro run records
  obtain ⟨hlength, hresults, hlog⟩ := lint_account h
  rw [recordsRead_recorded] at hlength hresults hlog
  have hlog : run.1.log = (List.zipWith entriesOf names records).flatten := hlog
  have hproblems : problems run.1.log = (List.zipWith rejections names records).flatten := by
    rw [hlog, problems_flatten]
  refine ⟨?_, hlength, hresults, hproblems, ?_, ?_⟩
  · rw [hlog, progress_flatten, ← hresults]
    exact r.plain?_eq.trans (if_pos (complete_of_lint h).2.2)
  · rw [hproblems, Report.errorCount, hresults]
    exact length_flatMap_diagnostics_add hlength
  · rw [lintSilently_eq, h]

/-- Rules by which every file has a record that is a diagnostic after one that is not. -/
def mixedRecords : List Rule :=
  [⟨"JSON.stringify(", none, .ok (.string
    "[null,\x7b\"reason\":\"r\",\"evidence\":\"e\",\"line\":1,\"character\":2\x7d]")⟩]

/-- The run by these rules over one file, twice. -/
def mixedRun : Outcome × Scripted.State × List Text :=
  lint (.ofInterpreter Interpreter.scripted.recorded) oneScript (some ⟨.current, ["l"]⟩)
    (OrderedMap.empty : Options) ["l", "l"] (Scripted.start mixedRecords, [])

theorem lint_accounts_for_records_mixed :
    ∃ r, mixedRun.1.result = .ok r ∧ r.errorCount = 2 ∧ (problems mixedRun.1.log).length = 2 ∧
      r.render? .plain = some (Text.join "\n" (progress mixedRun.1.log ++ [r.summary])) ∧
      lintSilently (.ofInterpreter Interpreter.scripted.recorded) oneScript
        (some ⟨.current, ["l"]⟩) (OrderedMap.empty : Options) ["l", "l"]
        (Scripted.start mixedRecords, [])
          = (.ok r, mixedRun.2) := by
  have hcount : mixedRun.1.result.map Report.errorCount = .ok 2 := by decide +kernel
  have hproblems : (problems mixedRun.1.log).length = 2 := by decide +kernel
  obtain ⟨r, hr⟩ : ∃ r, mixedRun.1.result = .ok r := by
    rcases hr : mixedRun.1.result with f | r
    · rw [hr] at hcount
      cases hcount
    · exact ⟨r, rfl⟩
  rw [hr] at hcount
  refine ⟨r, hr, Except.ok.inj hcount, hproblems, ?_⟩
  unfold mixedRun at hr ⊢
  obtain ⟨hp, -, -, -, -, hs⟩ := lint_accounts_for_records Interpreter.scripted hr
  exact ⟨hp, hs⟩

end ScriptLint
