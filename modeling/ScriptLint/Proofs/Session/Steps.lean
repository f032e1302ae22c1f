import ScriptLint.Proofs.Action
import ScriptLint.Session

/-!
# Steps of a session

Each operation of a session as a function of the session it starts from: the guard, what the engine
does, and the fields that change. Nothing else unfolds the operations.
-/

namespace ScriptLint.Session

open ScriptLint.Action

variable {σ α : Type} (e : Engine σ) (s : Session σ)

lemma inOrder_apply (ok : Session σ → Bool) (o : OutOfOrder) :
    inOrder ok o s = if ok s then (.ok (), s) else (.error (.outOfOrder o), s) := by
  unfold inOrder
  rw [bind_of_ok (get_apply s)]
  cases ok s <;> rfl

lemma ofEngine_apply (a : Action σ α) :
    ofEngine a s = ((a s.engine).1, { s with engine := (a s.engine).2 }) := rfl

lemma setOptions_apply (given : Options.Given) :
    setOptions e given s =
      if s.optionsBound then (.error (.outOfOrder .optionsTwice), s)
      else match Options.ofGiven? given with
      | none         => (.error .integerUnwritable, s)
      | some options =>
        match e.bindGlobal Global.options (optionsObject options) s.engine with
        | (.ok (), engine)   => (.ok (), { s with engine, optionsBound := true })
        | (.error f, engine) => (.error f, { s with engine }) := by
  unfold setOptions
  rw [bind_apply, inOrder_apply]
  cases h : s.optionsBound
  · simp only [Bool.not_false, if_true, Bool.false_eq_true, if_false]
    rcases Options.ofGiven? given with _ | options
    · rfl
    · simp only [bind_apply, ofEngine_apply]
      rcases e.bindGlobal Global.options (optionsObject options) s.engine with ⟨_ | _, _⟩ <;>
        simp [h]
  · rfl

/-- Options that are texts and truth values are bound as they are. -/
lemma setOptions_apply_options (options : Options) :
    setOptions e options s =
      if s.optionsBound then (.error (.outOfOrder .optionsTwice), s)
      else match e.bindGlobal Global.options (optionsObject options) s.engine with
      | (.ok (), engine)   => (.ok (), { s with engine, optionsBound := true })
      | (.error f, engine) => (.error f, { s with engine }) := by
  rw [setOptions_apply, Options.ofGiven?_given]

lemma setCurrentFile_apply (name content : Text) :
    setCurrentFile e name content s =
      match e.bindGlobal Global.currentFile (.string name) s.engine with
      | (.error f, engine) => (.error f, { s with engine })
      | (.ok (), engine)   =>
        match e.bindGlobal Global.currentCode (.string content) engine with
        | (.error f, engine) => (.error f, { s with engine })
        | (.ok (), engine)   =>
          (.ok (), ⟨engine, .fileBound, s.optionsBound, false, some name⟩) := by
  unfold setCurrentFile
  rw [bind_apply, ofEngine_apply]
  rcases e.bindGlobal Global.currentFile (.string name) s.engine with ⟨_ | _, engine⟩
  · rfl
  · simp only [bind_apply, ofEngine_apply]
    rcases e.bindGlobal Global.currentCode (.string content) engine with ⟨_ | _, _⟩ <;> rfl

lemma resetErrors_apply :
    resetErrors e s =
      if s.phase = .fileBound then
        match e.bindGlobal Global.errors (.array []) s.engine with
        | (.ok (), engine)   => (.ok (), { s with engine, errorsReset := true })
        | (.error f, engine) => (.error f, { s with engine })
      else (.error (.outOfOrder .resetWithoutFile), s) := by
  unfold resetErrors
  rw [bind_apply, inOrder_apply]
  by_cases h : s.phase = .fileBound
  · simp only [h, decide_true, if_true, bind_apply, ofEngine_apply]
    rcases e.bindGlobal Global.errors (.array []) s.engine with ⟨_ | _, _⟩ <;> rfl
  · simp [h]

lemma evaluate_apply :
    evaluate e s =
      if ¬ s.optionsBound then (.error (.outOfOrder .evaluateWithoutOptions), s)
      else if s.phase = .fileBound ∧ s.errorsReset then
        match e.evaluate Global.driverCall s.engine with
        | (.ok _, engine)    => (.ok (), { s with engine, phase := .evaluated })
        | (.error f, engine) => (.error f, { s with engine })
      else (.error (.outOfOrder .evaluateWithoutFile), s) := by
  unfold evaluate
  rw [bind_apply, inOrder_apply]
  cases ho : s.optionsBound
  · rfl
  · simp only [if_true, bind_apply, inOrder_apply]
    by_cases h : s.phase = .fileBound ∧ s.errorsReset
    · obtain ⟨hp, hr⟩ := h
      simp only [hp, hr, decide_true, Bool.and_self, if_true, not_true, if_false, and_self,
        ofEngine_apply]
      rcases e.evaluate Global.driverCall s.engine with ⟨_ | _, _⟩ <;> simp [ho]
    · simp [h]

lemma readErrors_apply :
    readErrors e s =
      if s.phase = .evaluated ∨ s.phase = .read then
        match e.readGlobal Global.errors s.engine with
        | (.ok (.array records), engine) => (.ok records, { s with engine, phase := .read })
        | (.ok v, engine)    =>
          (.error (.evaluation (.notArray Global.errors v.kind)), { s with engine })
        | (.error f, engine) => (.error f, { s with engine })
      else (.error (.outOfOrder .readWithoutEvaluation), s) := by
  unfold readErrors
  rw [bind_apply, inOrder_apply]
  by_cases h : s.phase = .evaluated ∨ s.phase = .read
  · have hb : (decide (s.phase = .evaluated) || decide (s.phase = .read)) = true := by simpa using h
    simp only [if_pos h, if_pos hb, bind_apply, ofEngine_apply]
    rcases e.readGlobal Global.errors s.engine with ⟨_ | v, _⟩
    · rfl
    · cases v <;> rfl
  · simp [h]

end ScriptLint.Session
