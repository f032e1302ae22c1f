import ScriptLint.Proofs.Diagnostic.Record
import ScriptLint.Proofs.Json.Writable
import ScriptLint.Proofs.Report.Adding
import ScriptLint.Proofs.Report.Written
import ScriptLint.Proofs.Session.Steps
import ScriptLint.Run

/-!
# Steps of a run

A run is its session with a log beside it. The equations here say how an operation of the session
acts on the run, what sifting keeps, when the records of a file can be told of, and that the loop
over the files adds a result for each.
-/

namespace ScriptLint.Run

open ScriptLint.Action

variable {σ α : Type}

lemma ofSession_apply (a : Action (Session σ) α) (s : State σ) :
    ofSession a s = ((a s.session).1, { s with session := (a s.session).2 }) := rfl

lemma ofSession_eq_ok {a : Action (Session σ) α} {s s' : State σ} {x : α}
    (h : ofSession a s = (.ok x, s')) :
    a s.session = (.ok x, s'.session) ∧ s'.log = s.log := by
  rw [ofSession_apply] at h
  obtain ⟨hx, rfl⟩ := Prod.mk.inj h
  exact ⟨Prod.ext hx rfl, rfl⟩

lemma ofSession_returns {P : Session σ → Prop} {a : Action (Session σ) α}
    {Q : α → Session σ → Prop} (h : Returns P a Q) :
    Returns (fun s : State σ => P s.session) (ofSession a) fun x s => Q x s.session := by
  intro s hs
  obtain ⟨x, session, hx, hq⟩ := h s.session hs
  exact ⟨x, { s with session }, by rw [ofSession_apply, hx], hq⟩

lemma ofSession_follows {P Q : Session σ → Prop} {a : Action (Session σ) α} {b : Action σ Unit}
    (h : Follows Session.engine P a b Q) :
    Follows (fun s : State σ => s.session.engine) (fun s => P s.session) (ofSession a) b
      fun s => Q s.session := fun s hs => h s.session hs

/-! ### Records -/

/-- The diagnostics among records, in their order. -/
def accepted (records : List Json) : List Diagnostic :=
  records.filterMap fun record => (Diagnostic.ofRecord record).toOption

lemma sift_fst (file : Text) (number : Nat) (records : List Json) :
    (sift file number records).1 = accepted records := by
  induction records generalizing number with
  | nil => rfl
  | cons record records ih =>
    rw [sift, accepted, List.filterMap_cons]
    cases Diagnostic.ofRecord record with
    | ok d    => exact congrArg (d :: ·) (ih (number + 1))
    | error e => exact ih (number + 1)

/-- The result for a file of which records were read. -/
def resultOf (name : Text) (records : List Json) : FileResult := ⟨name, accepted records⟩

/-- A diagnostic can be written if its record can. -/
lemma isWritable_of_ofRecord {record : Json} {d : Diagnostic}
    (h : Diagnostic.ofRecord record = .ok d) (hw : record.isWritable = true) :
    d.IsWritable := by
  obtain ⟨-, -, -, hl, hc⟩ := Diagnostic.reports_of_ofRecord h
  have hshort {v : Json} {n : Int} (hn : v.IsWhole n) (hv : v.isWritable = true) : IsShort n := by
    cases hn with
    | int => exact (Json.isWritable_int_iff n).mp hv
    | float hx => exact Binary64.isShort_of_toInt? (Json.isWhole_float_iff.mp (.float hx))
  exact ⟨hshort hl (Json.isWritable_member hw _), hshort hc (Json.isWritable_member hw _)⟩

lemma isWritable_resultOf (name : Text) {records : List Json}
    (h : ∀ record ∈ records, record.isWritable = true) : (resultOf name records).IsWritable := by
  intro d hd
  obtain ⟨record, hr, ho⟩ := List.mem_filterMap.mp hd
  cases hrecord : Diagnostic.ofRecord record with
  | ok d' =>
    rw [hrecord] at ho
    obtain rfl := Option.some.inj ho
    exact isWritable_of_ofRecord hrecord (h record hr)
  | error e =>
    rw [hrecord] at ho
    cases ho

/-! ### The log -/

lemma tell_apply (messages : List LogEntry) (s : State σ) :
    tell messages s = (.ok (), { s with log := s.log.map (· ++ messages) }) := rfl

lemma tellAll_of_forall_isWritable {diagnostics : List Diagnostic}
    (h : ∀ d ∈ diagnostics, d.IsWritable) (s : State σ) :
    tellAll diagnostics s =
      (.ok (), { s with log := s.log.map (· ++ diagnostics.map fun d => .progress d.text) }) := by
  induction diagnostics generalizing s with
  | nil =>
    obtain ⟨session, log⟩ := s
    simp [tellAll]
  | cons d diagnostics ih =>
    obtain ⟨hd, hds⟩ := List.forall_mem_cons.mp h
    rw [tellAll, d.text?_eq, if_pos hd]
    dsimp only
    rw [bind_of_ok (tell_apply _ s), ih hds]
    simp [Function.comp_def]

/-- The diagnostics before the first that cannot be written are told of. -/
lemma tellAll_of_exists_not_isWritable {diagnostics : List Diagnostic}
    (h : ∃ d ∈ diagnostics, ¬ d.IsWritable) (s : State σ) :
    ∃ log, tellAll diagnostics s = (.error .integerUnwritable, { s with log }) := by
  induction diagnostics generalizing s with
  | nil => simp at h
  | cons d diagnostics ih =>
    rw [tellAll, d.text?_eq]
    by_cases hd : d.IsWritable
    · have hds : ∃ d ∈ diagnostics, ¬ d.IsWritable := by simpa [hd] using h
      rw [if_pos hd]
      dsimp only
      rw [bind_of_ok (tell_apply _ s)]
      exact ih hds _
    · rw [if_neg hd]
      exact ⟨s.log, rfl⟩

/-- The messages on a result that can be written. -/
def announced (r : FileResult) : List LogEntry :=
  if r.hasErrors then r.lines.map .progress else []

lemma announce_of_isWritable {r : FileResult} (h : r.IsWritable) (s : State σ) :
    announce r s = (.ok (), { s with log := s.log.map (· ++ announced r) }) := by
  rw [announce, announced]
  split_ifs
  · rw [bind_of_ok (tell_apply _ s), tellAll_of_forall_isWritable h]
    simp [FileResult.lines, Function.comp_def]
  · obtain ⟨session, log⟩ := s
    simp

lemma announce_of_not_isWritable {r : FileResult} (h : ¬ r.IsWritable) (s : State σ) :
    ∃ log, announce r s = (.error .integerUnwritable, { s with log }) := by
  have hd : ∃ d ∈ r.diagnostics, ¬ d.IsWritable := by simpa [FileResult.IsWritable] using h
  have hr : r.hasErrors = true := by
    obtain ⟨d, hd, -⟩ := hd
    simpa [FileResult.hasErrors] using List.ne_nil_of_mem hd
  rw [announce, if_pos hr, bind_of_ok (tell_apply _ s)]
  exact tellAll_of_exists_not_isWritable hd _

/-- What a run tells of the records of a file. -/
def entriesOf (name : Text) (records : List Json) : List LogEntry :=
  (sift name 1 records).2 ++ announced (resultOf name records)

lemma collect_eq (name : Text) (records : List Json) (s : State σ) :
    collect name records s =
      (announce (resultOf name records) >>= fun _ => pure (resultOf name records))
        { s with log := s.log.map (· ++ (sift name 1 records).2) } := by
  rw [resultOf, ← sift_fst name 1 records]
  exact bind_of_ok (tell_apply _ s) _

lemma collect_of_isWritable {name : Text} {records : List Json}
    (h : (resultOf name records).IsWritable) (s : State σ) :
    collect name records s = (.ok (resultOf name records),
      { s with log := s.log.map (· ++ entriesOf name records) }) := by
  rw [collect_eq, bind_of_ok (announce_of_isWritable h _)]
  simp [entriesOf, Function.comp_def]

lemma collect_of_not_isWritable {name : Text} {records : List Json}
    (h : ¬ (resultOf name records).IsWritable) (s : State σ) :
    ∃ log, collect name records s = (.error .integerUnwritable, { s with log }) := by
  obtain ⟨log, ha⟩ :=
    announce_of_not_isWritable h { s with log := s.log.map (· ++ (sift name 1 records).2) }
  exact ⟨log, by rw [collect_eq, bind_of_error ha]⟩

/-! ### Files -/

lemma lint_of_scripts {e : Engine σ} {w : Workspace} {path : Option Path} {linter driver : Script}
    (h : scripts w path = .ok (linter, driver)) (given : Options.Given) (names : List Text) (s : σ) :
    lint e w path given names s = inSession e w linter driver given names (some []) s := by
  rw [lint, lintLogging, h]

/-- A file that is linted adds its result to a report that waits for one. -/
lemma lintFiles_cons (e : Engine σ) (w : Workspace) (name : Text) {names : List Text} {r : Report}
    (hr : r.Awaits (name :: names).length) :
    lintFiles e w (name :: names) r = (lintFile e w name >>= fun result =>
      lintFiles e w names { r with results := r.results ++ [result] }) := by
  rw [lintFiles]
  congr 1
  funext result
  rw [Report.add_of_lt hr.lt]

/-! ### Reports -/

lemma of_collect {name : Text} {records : List Json} {s s' : State σ} {result : FileResult}
    (h : collect name records s = (.ok result, s')) :
    result = resultOf name records ∧ result.IsWritable := by
  by_cases hw : (resultOf name records).IsWritable
  · rw [collect_of_isWritable hw] at h
    obtain ⟨hr, -⟩ := Prod.mk.inj h
    obtain rfl := Except.ok.inj hr
    exact ⟨rfl, hw⟩
  · obtain ⟨log, hc⟩ := collect_of_not_isWritable hw s
    rw [hc] at h
    cases h

variable {e : Engine σ} {w : Workspace} {s s' : State σ}

/-- The result for a file is one that was told of. -/
lemma of_lintFile {name : Text} {result : FileResult}
    (h : lintFile e w name s = (.ok result, s')) : result.file = name ∧ result.IsWritable := by
  obtain ⟨code, s₀, -, h⟩ := exists_of_bind_eq_ok h
  obtain ⟨_, s₁, -, h⟩ := exists_of_bind_eq_ok h
  obtain ⟨_, s₂, -, h⟩ := exists_of_bind_eq_ok h
  obtain ⟨_, s₃, -, h⟩ := exists_of_bind_eq_ok h
  obtain ⟨records, s₄, -, h⟩ := exists_of_bind_eq_ok h
  obtain ⟨rfl, hw⟩ := of_collect h
  exact ⟨rfl, hw⟩

/-- A report that is returned has a result for every file, in the order of the files. -/
lemma of_lintFiles {names : List Text} {r r' : Report}
    (h : lintFiles e w names r s = (.ok r', s')) :
    r'.expected = r.expected ∧ ∃ results, r'.results = r.results ++ results ∧
      results.map FileResult.file = names ∧ ∀ result ∈ results, result.IsWritable := by
  induction names generalizing r s with
  | nil =>
    cases h
    exact ⟨rfl, [], (List.append_nil _).symm, rfl, List.forall_mem_nil _⟩
  | cons name names ih =>
    obtain ⟨result, t, hf, h⟩ := exists_of_bind_eq_ok h
    obtain ⟨hn, hw⟩ := of_lintFile hf
    rcases ha : r.add result with f | r₁ <;> rw [ha] at h
    · cases h
    · obtain rfl := Report.eq_of_add_eq_ok ha
      obtain ⟨he, results, hr, hns, hws⟩ := ih h
      refine ⟨he, result :: results, ?_, by rw [List.map_cons, hn, hns],
        List.forall_mem_cons.mpr ⟨hw, hws⟩⟩
      rw [hr, List.append_assoc, List.singleton_append]

/-- A report that a run gives is complete, and its diagnostics can be written, since they were told
of. -/
lemma complete_of_lint {path : Option Path} {given : Options.Given} {names : List Text}
    {engine : σ} {r : Report} (h : (lint e w path given names engine).1.result = .ok r) :
    r.expected = names.length ∧ r.results.map FileResult.file = names ∧ r.IsWritable := by
  rw [lint, lintLogging] at h
  rcases hs : scripts w path with f | ⟨linter, driver⟩ <;> rw [hs] at h
  · cases h
  dsimp only [inSession] at h
  rcases hb : Session.begin e linter driver engine with ⟨f | session, _⟩ <;> rw [hb] at h
  · cases h
  have hbody : body e w given names ⟨session, some []⟩
      = (.ok r, (body e w given names ⟨session, some []⟩).2) := Prod.ext h rfl
  obtain ⟨_, t, -, hf⟩ := exists_of_bind_eq_ok hbody
  obtain ⟨he, results, hr, hn, hw⟩ := of_lintFiles hf
  have hr : r.results = results := hr
  exact ⟨he, hr ▸ hn, fun f hm => hw f (hr ▸ hm)⟩

end ScriptLint.Run
