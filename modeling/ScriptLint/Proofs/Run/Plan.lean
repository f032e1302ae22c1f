import Mathlib.Data.List.TakeWhile
import ScriptLint.Proofs.Action
import ScriptLint.Run

/-!
# Plans

A plan is the sequence of sources that a run means to send to an interpreter, each with what it is
sent for. Performing a plan sends its sources in order and stops at the first one whose evaluation
raises or whose answer is rejected. A recorded interpreter then holds exactly the sources up to
that one: `log_performAll`.
-/

namespace ScriptLint

open ScriptLint.Action

variable {σ : Type}

/-- What a source is sent for. -/
inductive Purpose
  | load (script : Text)
  | findEntry (script : Text)
  | bind (global : Text)
  | runDriver
  | readErrors

namespace Purpose

/-- Whether an answer is accepted: nothing was raised, the entry point is a function, and the
collected errors are the JSON text of a list. -/
def accepts : Purpose → Except Raised Json → Bool
  | _, .error _                         => false
  | .findEntry _, .ok (.string answer)  => answer = "function"
  | .findEntry _, .ok _                 => false
  | .readErrors, .ok (.string t)        =>
    match Json.read t with
    | .ok (.array _) => true
    | _              => false
  | .readErrors, .ok _                  => false
  | _, .ok _                            => true

/-- How messages call an evaluation for a purpose. -/
def label : Purpose → Text
  | .load script              => script
  | .findEntry _ | .runDriver => Engine.evaluationLabel
  | .bind global              => "bind " ++ global
  | .readErrors               => "read " ++ Global.errors

/-- The failure that an answer is, unless it is accepted. -/
def verdict (p : Purpose) : Except Raised Json → Except Failure Unit
  | .error r => .error (Engine.failure p.label r)
  | .ok v    =>
    match p with
    | .findEntry script =>
      match v with
      | .string answer =>
        if answer = Global.entryAnswer then .ok () else .error (.load (.noEntryPoint script))
      | _ => .error (.load (.noEntryPoint script))
    | .readErrors =>
      match Engine.decode Global.errors v with
      | .ok (.array _) => .ok ()
      | .ok v          => .error (.evaluation (.notArray Global.errors v.kind))
      | .error f       => .error f
    | _ => .ok ()

lemma verdict_eq_ok_iff (p : Purpose) (answer : Except Raised Json) :
    p.verdict answer = .ok () ↔ p.accepts answer = true := by
  cases answer with
  | error r => cases p <;> simp [verdict, accepts]
  | ok v =>
    cases p with
    | load _ | bind _ | runDriver => simp [verdict, accepts]
    | findEntry script =>
      have ha : Global.entryAnswer = "function" := rfl
      cases v <;> simp [verdict, accepts, ha]
    | readErrors =>
      cases v with
      | string t =>
        simp only [verdict, accepts, Engine.decode]
        rcases Json.read t with e | v
        · cases e <;> simp [Except.mapError]
        · cases v <;> simp [Except.mapError]
      | _ => simp [verdict, accepts, Engine.decode]

end Purpose

/-- A source to be sent, and what for. -/
structure Step where
  purpose : Purpose
  source : Text

namespace Step

/-- Send a source and judge the answer. -/
def perform (i : Interpreter σ) (step : Step) : Action σ Unit := fun s =>
  (step.purpose.verdict (i.eval step.source s).1, (i.eval step.source s).2)

lemma perform_apply (i : Interpreter σ) (step : Step) (s : σ) :
    step.perform i s = (step.purpose.verdict (i.eval step.source s).1, (i.eval step.source s).2) :=
  rfl

/-- Send sources in order, up to the first whose answer is not accepted. -/
def performAll (i : Interpreter σ) : List Step → Action σ Unit
  | []            => pure ()
  | step :: steps => do
    step.perform i
    performAll i steps

lemma performAll_append (i : Interpreter σ) (xs ys : List Step) :
    performAll i (xs ++ ys) = (performAll i xs >>= fun _ => performAll i ys) := by
  induction xs with
  | nil => rfl
  | cons x xs ih =>
    funext s
    simp only [List.cons_append, performAll, ih, bind_apply]
    rcases x.perform i s with ⟨_ | _, _⟩ <;> rfl

lemma performAll_singleton (i : Interpreter σ) (step : Step) :
    performAll i [step] = step.perform i := by
  funext s
  rw [performAll, bind_apply]
  rcases step.perform i s with ⟨_ | _, _⟩ <;> rfl

lemma performAll_cons_cons (i : Interpreter σ) (x y : Step) (steps : List Step) :
    performAll i (x :: y :: steps) = (x.perform i >>= fun _ => performAll i (y :: steps)) := rfl

/-- The answers that an interpreter gives to steps sent one after another, each with its step. -/
def exchange (i : Interpreter σ) : List Step → σ → List (Step × Except Raised Json)
  | [], _            => []
  | step :: steps, s =>
    (step, (i.eval step.source s).1) :: exchange i steps (i.eval step.source s).2

/-- Whether the answer to a step is accepted. -/
def isAccepted (e : Step × Except Raised Json) : Bool := e.1.purpose.accepts e.2

/-- How many steps are accepted before the first that is not. -/
def acceptedCount (i : Interpreter σ) (steps : List Step) (s : σ) : Nat :=
  ((exchange i steps s).takeWhile isAccepted).length

lemma length_exchange (i : Interpreter σ) (steps : List Step) (s : σ) :
    (exchange i steps s).length = steps.length := by
  induction steps generalizing s with
  | nil => rfl
  | cons step steps ih => simp [exchange, ih]

lemma acceptedCount_cons (i : Interpreter σ) (step : Step) (steps : List Step) (s : σ) :
    acceptedCount i (step :: steps) s =
      if step.purpose.accepts (i.eval step.source s).1
      then acceptedCount i steps (i.eval step.source s).2 + 1 else 0 := by
  rw [acceptedCount, exchange, List.takeWhile_cons]
  by_cases h : isAccepted (step, (i.eval step.source s).1)
  · rw [h]
    exact (if_pos h).symm
  · rw [eq_false_of_ne_true h]
    exact (if_neg h).symm

lemma acceptedCount_le (i : Interpreter σ) (steps : List Step) (s : σ) :
    acceptedCount i steps s ≤ steps.length := by
  rw [← length_exchange i steps s]
  exact (List.takeWhile_sublist _).length_le

lemma acceptedCount_eq_length_iff (i : Interpreter σ) (steps : List Step) (s : σ) :
    acceptedCount i steps s = steps.length ↔ ∀ e ∈ exchange i steps s, isAccepted e = true := by
  rw [acceptedCount, ← length_exchange i steps s, ← List.takeWhile_eq_self_iff]
  constructor
  · exact (List.takeWhile_prefix _).eq_of_length
  · exact congrArg List.length

/-- A plan succeeds if every answer is accepted. -/
lemma performAll_eq_ok_iff (i : Interpreter σ) (steps : List Step) (s : σ) :
    (performAll i steps s).1 = .ok () ↔ acceptedCount i steps s = steps.length := by
  induction steps generalizing s with
  | nil => simp [performAll, acceptedCount, exchange]
  | cons step steps ih =>
    rw [performAll, bind_apply, acceptedCount_cons, perform_apply]
    by_cases h : step.purpose.accepts (i.eval step.source s).1
    · rw [(Purpose.verdict_eq_ok_iff _ _).mpr h, if_pos h]
      simp [ih]
    · rw [if_neg h]
      cases hv : step.purpose.verdict (i.eval step.source s).1 with
      | ok _    => exact absurd ((Purpose.verdict_eq_ok_iff _ _).mp hv) h
      | error f => simp

/-- A recorded interpreter is sent the accepted steps and the first that is not. -/
lemma log_performAll (i : Interpreter σ) (steps : List Step) (s : σ) (log : List Text) :
    (performAll i.recorded steps (s, log)).2.2 =
      log ++ (steps.take (acceptedCount i steps s + 1)).map Step.source := by
  induction steps generalizing s log with
  | nil => simp [performAll]
  | cons step steps ih =>
    rw [performAll, bind_apply, acceptedCount_cons, perform_apply]
    by_cases h : step.purpose.accepts (i.eval step.source s).1
    · have hv := (Purpose.verdict_eq_ok_iff _ _).mpr h
      simp only [Interpreter.recorded, hv, if_pos h]
      rw [show Interpreter.mk _ _ = i.recorded from rfl, ih]
      simp
    · rw [if_neg h]
      cases hv : step.purpose.verdict (i.eval step.source s).1 with
      | ok _    => exact absurd ((Purpose.verdict_eq_ok_iff _ _).mp hv) h
      | error f => simp [Interpreter.recorded, hv]

/-- A recorded interpreter answers as the interpreter does. -/
lemma performAll_recorded_fst (i : Interpreter σ) (steps : List Step) (s : σ) (log : List Text) :
    (performAll i.recorded steps (s, log)).1 = (performAll i steps s).1 := by
  induction steps generalizing s log with
  | nil => rfl
  | cons step steps ih =>
    simp only [performAll, bind_apply, perform_apply, Interpreter.recorded]
    rcases step.purpose.verdict (i.eval step.source s).1 with _ | _
    · rfl
    · exact ih _ _

/-! ### The first answer that is not accepted -/

variable {i : Interpreter σ} {steps : List Step} {s : σ}

/-- The first of the answers that is not accepted, with its place. -/
structure FirstRejected (answers : List (Step × Except Raised Json)) (j : Nat)
    (e : Step × Except Raised Json) : Prop where
  place : answers[j]? = some e
  rejected : isAccepted e = false
  before : ∀ e ∈ answers.take j, isAccepted e = true

lemma map_fst_exchange (i : Interpreter σ) (steps : List Step) (s : σ) :
    (exchange i steps s).map Prod.fst = steps := by
  induction steps generalizing s with
  | nil => rfl
  | cons step steps ih => rw [exchange, List.map_cons, ih]

lemma take_exchange (i : Interpreter σ) (steps : List Step) (s : σ) (k : Nat) :
    (exchange i steps s).take k = exchange i (steps.take k) s := by
  induction steps generalizing s k with
  | nil => simp [exchange]
  | cons step steps ih =>
    cases k with
    | zero => rfl
    | succ k => rw [exchange, List.take_succ_cons, List.take_succ_cons, exchange, ih]

lemma FirstRejected.lt_length {j : Nat} {e : Step × Except Raised Json}
    (h : FirstRejected (exchange i steps s) j e) : j < steps.length := by
  rw [← length_exchange i steps s]
  exact (List.getElem?_eq_some_iff.mp h.place).1

lemma FirstRejected.step {step : Step} {j : Nat} {e : Step × Except Raised Json}
    (h : FirstRejected (exchange i (step :: steps) s) j e) :
    (j = 0 ∧ e = (step, (i.eval step.source s).1)) ∨
      ∃ k, j = k + 1 ∧ step.purpose.accepts (i.eval step.source s).1 = true ∧
        FirstRejected (exchange i steps (i.eval step.source s).2) k e := by
  obtain ⟨hp, hr, hb⟩ := h
  rw [exchange] at hp hb
  cases j with
  | zero => exact .inl ⟨rfl, by simpa using hp.symm⟩
  | succ k =>
    rw [List.take_succ_cons, List.forall_mem_cons] at hb
    exact .inr ⟨k, rfl, hb.1, by simpa using hp, hr, hb.2⟩

/-- A plan stops at the first answer that is not accepted. -/
lemma FirstRejected.acceptedCount_eq {j : Nat} {e : Step × Except Raised Json}
    (h : FirstRejected (exchange i steps s) j e) : acceptedCount i steps s = j := by
  induction steps generalizing s j with
  | nil => cases h.place
  | cons step steps ih =>
    have hr := h.rejected
    rw [acceptedCount_cons]
    obtain ⟨rfl, rfl⟩ | ⟨k, rfl, ha, h⟩ := h.step
    · exact if_neg (Bool.eq_false_iff.mp hr)
    · rw [if_pos ha, ih h]

/-- A plan fails as the first answer does that is not accepted. -/
lemma FirstRejected.performAll_eq {j : Nat} {e : Step × Except Raised Json}
    (h : FirstRejected (exchange i steps s) j e) :
    (performAll i steps s).1 = e.1.purpose.verdict e.2 := by
  induction steps generalizing s j with
  | nil => cases h.place
  | cons step steps ih =>
    have hr := h.rejected
    rw [performAll, bind_apply, perform_apply]
    obtain ⟨rfl, rfl⟩ | ⟨k, rfl, ha, h⟩ := h.step
    · dsimp only
      cases hv : step.purpose.verdict (i.eval step.source s).1 with
      | ok _    =>
        rw [isAccepted, (Purpose.verdict_eq_ok_iff _ _).mp hv] at hr
        cases hr
      | error f => rfl
    · rw [(Purpose.verdict_eq_ok_iff _ _).mpr ha]
      exact ih h

/-- If not every answer is accepted, then there is a first that is not. -/
lemma exists_firstRejected (h : ¬ ∀ e ∈ exchange i steps s, isAccepted e = true) :
    ∃ j e, FirstRejected (exchange i steps s) j e := by
  induction steps generalizing s with
  | nil => exact absurd (List.forall_mem_nil _) h
  | cons step steps ih =>
    rw [exchange, List.forall_mem_cons] at h
    by_cases ha : step.purpose.accepts (i.eval step.source s).1 = true
    · obtain ⟨j, e, hp, hr, hb⟩ := ih fun hall => h ⟨ha, hall⟩
      exact ⟨j + 1, e, hp, hr, List.forall_mem_cons.mpr ⟨ha, hb⟩⟩
    · exact ⟨0, _, rfl, eq_false_of_ne_true ha, List.forall_mem_nil _⟩

lemma FirstRejected.not_forall {j : Nat} {e : Step × Except Raised Json}
    (h : FirstRejected (exchange i steps s) j e) :
    ¬ ∀ e ∈ exchange i steps s, isAccepted e = true := by
  intro ha
  have hr := h.rejected
  rw [ha e (List.mem_of_getElem? h.place)] at hr
  cases hr

/-- There is one first answer that is not accepted. -/
lemma FirstRejected.eq {j j' : Nat} {e e' : Step × Except Raised Json}
    (h : FirstRejected (exchange i steps s) j e)
    (h' : FirstRejected (exchange i steps s) j' e') : j = j' ∧ e = e' := by
  obtain rfl : j = j' := h.acceptedCount_eq.symm.trans h'.acceptedCount_eq
  exact ⟨rfl, Option.some.inj (h.place.symm.trans h'.place)⟩

end Step

end ScriptLint
