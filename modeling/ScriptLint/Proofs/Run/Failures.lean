import ScriptLint.Proofs.Run.Trace

/-!
# Failures of a run

How a run ends is decided by the first answer that is not accepted, by what its source was sent for
and by whether the scripts were loaded by then. `Surfaces` says which failure an answer becomes,
with one rule for each kind of answer.
-/

namespace ScriptLint

open ScriptLint.Action Step

/-! ### How answers become failures -/

namespace Run

/-- The failure that an answer becomes, at a place of the plan, if it is not accepted. The scripts
are loaded in the first five places. -/
inductive Surfaces (j : Nat) : Purpose → Except Raised Json → Failure → Prop
  | loading {p : Purpose} {m : Text} (h : j < 5) :
      Surfaces j p (.error (.fault m)) (.load (.failed (.fault p.label m)))
  | linting {p : Purpose} {m : Text} (h : 5 ≤ j) :
      Surfaces j p (.error (.fault m)) (.evaluation (.fault p.label m))
  | foreign {p : Purpose} {kind m : Text} :
      Surfaces j p (.error (.foreign kind m)) (.foreign kind m)
  | noEntryPoint {script : Text} {v : Json} (h : v ≠ .string Global.entryAnswer) :
      Surfaces j (.findEntry script) (.ok v) (.load (.noEntryPoint script))
  | notText {v : Json} (h : ∀ t, v ≠ .string t) :
      Surfaces j .readErrors (.ok v) (.evaluation (.notArray Global.errors "null"))
  | unreadable {t : Text} {e : Json.ReadError} (h : Json.read t = .error e)
      (hn : ∀ n, e ≠ .integerTooLong n) :
      Surfaces j .readErrors (.ok (.string t)) (.evaluation (.unreadable Global.errors e))
  | notArray {t : Text} {v : Json} (h : Json.read t = .ok v) (hv : ∀ vs, v ≠ .array vs) :
      Surfaces j .readErrors (.ok (.string t)) (.evaluation (.notArray Global.errors v.kind))
  | integerTooLong {t : Text} {n : Nat} (h : Json.read t = .error (.integerTooLong n)) :
      Surfaces j .readErrors (.ok (.string t)) (.integerTooLong n)

/-- An answer surfaces as one failure only. -/
lemma Surfaces.unique {j : Nat} {p : Purpose} {answer : Except Raised Json} {f f' : Failure}
    (h : Surfaces j p answer f) (h' : Surfaces j p answer f') : f = f' := by
  cases h with
  | loading hj =>
    cases h' with
    | loading => rfl
    | linting hj' => omega
  | linting hj =>
    cases h' with
    | loading hj' => omega
    | linting => rfl
  | foreign | noEntryPoint =>
    cases h'
    rfl
  | notText hv =>
    cases h' with
    | notText => rfl
    | unreadable | notArray | integerTooLong => exact absurd rfl (hv _)
  | unreadable h hn =>
    cases h' with
    | notText hv => exact absurd rfl (hv _)
    | unreadable h' => rw [Except.error.inj (h.symm.trans h')]
    | notArray h' => cases h.symm.trans h'
    | integerTooLong h' => exact absurd (Except.error.inj (h.symm.trans h')) (hn _)
  | notArray h hv =>
    cases h' with
    | notText hv => exact absurd rfl (hv _)
    | unreadable h' => cases h.symm.trans h'
    | notArray h' => rw [Except.ok.inj (h.symm.trans h')]
    | integerTooLong h' => cases h.symm.trans h'
  | integerTooLong h =>
    cases h' with
    | notText hv => exact absurd rfl (hv _)
    | unreadable h' hn => exact absurd (Except.error.inj (h'.symm.trans h)) (hn _)
    | notArray h' => cases h.symm.trans h'
    | integerTooLong h' => cases h.symm.trans h'; rfl

/-- What a failure is called at a place of the plan. -/
def surfaced (j : Nat) (f : Failure) : Failure := if j < 5 then Session.loadFailure f else f

lemma surfaces_raised (j : Nat) (p : Purpose) (r : Raised) :
    Surfaces j p (.error r) (surfaced j (Engine.failure p.label r)) := by
  rw [surfaced]
  cases r with
  | fault m =>
    split
    · exact .loading ‹_›
    · exact .linting (Nat.le_of_not_lt ‹_›)
  | foreign kind m =>
    split
    · exact .foreign
    · exact .foreign

lemma surfaces_findEntry (j : Nat) (script : Text) {v : Json}
    (h : (Purpose.findEntry script).accepts (.ok v) = false) :
    ∃ f, (Purpose.findEntry script).verdict (.ok v) = .error f ∧
      Surfaces j (.findEntry script) (.ok v) (surfaced j f) := by
  have hv : v ≠ .string Global.entryAnswer := by
    rintro rfl
    cases h
  refine ⟨.load (.noEntryPoint script), ?_, ?_⟩
  · cases v with
    | string answer =>
      rw [Purpose.verdict]
      exact if_neg fun ha => hv (congrArg Json.string ha)
    | _ => rfl
  · rw [surfaced]
    split <;> exact .noEntryPoint hv

lemma surfaces_readErrors {j : Nat} (hj : 5 ≤ j) {v : Json}
    (h : Purpose.readErrors.accepts (.ok v) = false) :
    ∃ f, Purpose.readErrors.verdict (.ok v) = .error f ∧
      Surfaces j .readErrors (.ok v) (surfaced j f) := by
  have hs (f : Failure) : surfaced j f = f := if_neg (Nat.not_lt.mpr hj)
  cases v with
  | string t =>
    simp only [Purpose.accepts] at h
    simp only [Purpose.verdict, Engine.decode, hs]
    cases ht : Json.read t with
    | error e =>
      cases e with
      | malformed c line column position => exact ⟨_, rfl, .unreadable ht (by simp)⟩
      | integerTooLong n => exact ⟨_, rfl, .integerTooLong ht⟩
    | ok v =>
      rw [ht] at h
      cases v with
      | array vs => cases h
      | _ => exact ⟨_, rfl, .notArray ht (by simp)⟩
  | _ => exact ⟨_, rfl, hs _ ▸ .notText (by simp)⟩

/-- An answer that is not accepted is a failure, which surfaces by one of the rules. -/
lemma exists_surfaces {j : Nat} {p : Purpose} {answer : Except Raised Json}
    (hp : p = .readErrors → 5 ≤ j) (h : p.accepts answer = false) :
    ∃ f, p.verdict answer = .error f ∧ Surfaces j p answer (surfaced j f) := by
  cases answer with
  | error r => exact ⟨_, rfl, surfaces_raised j p r⟩
  | ok v =>
    cases p with
    | findEntry script => exact surfaces_findEntry j script h
    | readErrors => exact surfaces_readErrors (hp rfl) h
    | load _ | bind _ | runDriver => simp [Purpose.accepts] at h

/-! ### The outcome -/

variable {σ : Type} (i : Interpreter σ)

/-- A run fails as its plan does, or else as the first file that cannot be read; a failure while
the scripts are loaded is named for that. -/
lemma lint_result {w : Workspace} {path : Option Path} {linter driver : Script}
    (h : scripts w path = .ok (linter, driver)) (options : Options) (names : List Text) (s : σ) :
    (lint (.ofInterpreter i) w path options names s).1.result.map (fun _ => ()) =
      match (performAll i (loadingPlan linter driver) s).1 with
      | .error f => .error (Session.loadFailure f)
      | .ok ()   =>
        match (performAll i (plan linter driver options (readable w names)) s).1 with
        | .error f => .error f
        | .ok ()   => allReadable w names := by
  rw [lint_of_scripts h, plan, performAll_append, bind_apply]
  simp only [inSession, Session.begin, prepare_eq_performAll]
  rcases performAll i (loadingPlan linter driver) s with ⟨f | _, s'⟩
  · rfl
  · obtain ⟨hb, -, -⟩ := body_follows i w options names ⟨Session.start s', some []⟩ rfl
    rw [bind_apply] at hb
    refine hb.trans ?_
    dsimp only [Session.start]
    rcases performAll i (optionsStep options :: (readable w names).flatMap filePlan) s' with
      ⟨_ | _, _⟩ <;> rfl

/-- A run over files that can be read fails as its plan does. -/
lemma lint_result_map {w : Workspace} {path : Option Path} {linter driver : Script}
    (h : scripts w path = .ok (linter, driver)) (options : Options) {names : List Text}
    (hr : allReadable w names = .ok ()) (s : σ) :
    (lint (.ofInterpreter i) w path options names s).1.result.map (fun _ => ()) =
      match (performAll i (loadingPlan linter driver) s).1 with
      | .error f => .error (Session.loadFailure f)
      | .ok ()   => (performAll i (plan linter driver options (readable w names)) s).1 := by
  rw [lint_result i h, hr]
  rcases (performAll i (loadingPlan linter driver) s).1 with f | _
  · rfl
  · rcases (performAll i (plan linter driver options (readable w names)) s).1 with f | _ <;> rfl

/-- A recorded interpreter holds what was sent up to the first answer that is not accepted. -/
lemma log_of_firstRejected {w : Workspace} {path : Option Path} {linter driver : Script}
    (h : scripts w path = .ok (linter, driver)) (options : Options) (names : List Text) {s : σ}
    {j : Nat} {e : Step × Except Raised Json}
    (he : FirstRejected (exchange i (plan linter driver options (readable w names)) s) j e) :
    (lint (.ofInterpreter i.recorded) w path options names (s, [])).2.2
      = ((plan linter driver options (readable w names)).take (j + 1)).map Step.source
        ++ [Interpreter.closeRecord] := by
  rw [log_eq_take i h, he.acceptedCount_eq]

lemma allReadable_of_forall {w : Workspace} {names : List Text}
    (h : ∀ name ∈ names, ∃ code, readSource w name = .ok code) : allReadable w names = .ok () := by
  induction names with
  | nil => rfl
  | cons name names ih =>
    obtain ⟨⟨code, hc⟩, h⟩ := List.forall_mem_cons.mp h
    rw [allReadable, hc]
    exact ih h

/-- Errors are not read while the scripts are loaded. -/
lemma five_le_of_readErrors {linter driver : Script} {options : Options}
    {files : List (Text × Text)} {j : Nat} {step : Step}
    (hj : (plan linter driver options files)[j]? = some step)
    (hp : step.purpose = .readErrors) : 5 ≤ j := by
  by_contra hlt
  rw [plan, List.getElem?_append_left (by simpa [loadingPlan] using hlt)] at hj
  have hm := List.mem_of_getElem? hj
  simp only [loadingPlan, bindStep, List.mem_cons, List.not_mem_nil, or_false] at hm
  rcases hm with rfl | rfl | rfl | rfl | rfl <;> cases hp

lemma exchange_loadingPlan (linter driver : Script) (options : Options)
    (files : List (Text × Text)) (s : σ) : exchange i (loadingPlan linter driver) s
      = (exchange i (plan linter driver options files) s).take 5 := by
  rw [take_exchange]
  rfl

/-- The scripts are loaded if and only if the first answer that is not accepted comes later. -/
lemma performAll_loadingPlan {linter driver : Script} {options : Options}
    {files : List (Text × Text)} {s : σ} {j : Nat} {e : Step × Except Raised Json}
    (h : FirstRejected (exchange i (plan linter driver options files) s) j e) :
    (performAll i (loadingPlan linter driver) s).1
      = if j < 5 then e.1.purpose.verdict e.2 else .ok () := by
  have hl := exchange_loadingPlan i linter driver options files s
  split
  · next hj =>
    have hf : FirstRejected (exchange i (loadingPlan linter driver) s) j e := by
      refine ⟨?_, h.rejected, ?_⟩ <;> rw [hl]
      · rw [List.getElem?_take_of_lt hj, h.place]
      · rw [List.take_take, Nat.min_eq_left (Nat.le_of_lt hj)]
        exact h.before
    exact hf.performAll_eq
  · next hj =>
    rw [performAll_eq_ok_iff, acceptedCount_eq_length_iff, hl]
    intro e he
    exact h.before e (List.take_subset_take_left _ (Nat.le_of_not_lt hj) he)

end Run

open Run

/-- A run over files that can be read fails as the first answer does that is not accepted. After
that answer the interpreter is sent nothing and is closed. If every answer is accepted, the run gives
a report with a result for each file, in the order of the files. -/
theorem lint_failure {σ : Type} (i : Interpreter σ) {w : Workspace} {path : Option Path}
    {linter driver : Script} (h : scripts w path = .ok (linter, driver)) {names : List Text}
    (hr : ∀ name ∈ names, ∃ code, readSource w name = .ok code) (options : Options) (s : σ) :
    let steps := plan linter driver options (readable w names)
    let answers := exchange i steps s
    let run := lint (.ofInterpreter i.recorded) w path options names (s, [])
    (∀ j e, FirstRejected answers j e → steps[j]? = some e.1 ∧
      (∃ f, run.1.result = .error f ∧ Surfaces j e.1.purpose e.2 f) ∧
      run.2.2 = (steps.take (j + 1)).map Step.source ++ [Interpreter.closeRecord]) ∧
    ((∀ e ∈ answers, isAccepted e = true) → ∃ r, run.1.result = .ok r ∧
      r.expected = names.length ∧ r.results.map FileResult.file = names) := by
  intro steps answers run
  have hr := allReadable_of_forall hr
  have hresult : run.1.result.map (fun _ => ()) = _ :=
    lint_result_map i.recorded h options hr (s, [])
  rw [performAll_recorded_fst, performAll_recorded_fst] at hresult
  refine ⟨fun j e he => ?_, fun hall => ?_⟩
  · have hplace : steps[j]? = some e.1 := by
      rw [← map_fst_exchange i steps s, List.getElem?_map, he.place, Option.map_some]
    obtain ⟨f, hf, hs⟩ := exists_surfaces (five_le_of_readErrors hplace) he.rejected
    refine ⟨hplace, ⟨surfaced j f, ?_, hs⟩, log_of_firstRejected i h options names he⟩
    rw [performAll_loadingPlan i he, he.performAll_eq, hf] at hresult
    have hmap : run.1.result.map (fun _ => ()) = .error (surfaced j f) := by
      rw [hresult, surfaced]
      split_ifs <;> rfl
    cases hrun : run.1.result <;> rw [hrun] at hmap <;> cases hmap
    rfl
  · have hplan : (performAll i steps s).1 = .ok () := by
      rw [performAll_eq_ok_iff, acceptedCount_eq_length_iff]
      exact hall
    have hloading : (performAll i (loadingPlan linter driver) s).1 = .ok () := by
      rw [performAll_eq_ok_iff, acceptedCount_eq_length_iff,
        exchange_loadingPlan i linter driver options (readable w names)]
      exact fun e he => hall e (List.mem_of_mem_take he)
    rw [hloading] at hresult
    obtain ⟨r, hrun⟩ := (exists_eq_ok_iff run.1.result).mpr (hresult.trans hplan)
    obtain ⟨he, hn, -⟩ := complete_of_lint hrun
    exact ⟨r, hrun, he, hn⟩

/-- Rules by which the options cannot be bound. -/
def failingOptions : List Rule := [⟨"globalThis[\"jsHint", none, .error (.fault "stop")⟩]

/-- The options are the first that is bound after the scripts were loaded. -/
theorem lint_failure_options :
    (∃ driver, scripts oneScript (some ⟨.current, ["l"]⟩) = .ok (⟨"l", "l"⟩, driver)) ∧
    (∀ name ∈ [("l" : Text)], ∃ code, readSource oneScript name = .ok code) ∧
    (lint (.ofInterpreter Interpreter.scripted.recorded) oneScript (some ⟨.current, ["l"]⟩)
      (OrderedMap.empty : Options) ["l"] (Scripted.start failingOptions, [])).1.result
        = .error (.evaluation (.fault "bind jsHintOpts" "stop")) := by
  have hs : ∃ driver, scripts oneScript (some ⟨.current, ["l"]⟩) = .ok (⟨"l", "l"⟩, driver) :=
    ⟨_, rfl⟩
  have hr : ∀ name ∈ [("l" : Text)], ∃ code, readSource oneScript name = .ok code :=
    List.forall_mem_singleton.mpr ⟨_, rfl⟩
  refine ⟨hs, hr, ?_⟩
  obtain ⟨driver, hs⟩ := hs
  have he : FirstRejected (exchange Interpreter.scripted
      (plan ⟨"l", "l"⟩ driver .empty (readable oneScript ["l"])) (Scripted.start failingOptions)) 5
      (optionsStep .empty, .error (.fault "stop")) :=
    ⟨rfl, rfl, List.all_eq_true.mp rfl⟩
  obtain ⟨-, ⟨f, hf, hsurfaces⟩, -⟩ :=
    (lint_failure Interpreter.scripted hs hr .empty (Scripted.start failingOptions)).1 5 _ he
  rw [hf, hsurfaces.unique (.linting (by decide))]
  rfl

end ScriptLint
