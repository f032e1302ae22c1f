import ScriptLint.Proofs.Action
import ScriptLint.Proofs.Json.Writable

/-!
# Steps of an engine over an interpreter

Each step of an engine is one evaluation of the interpreter under it. What is raised becomes a
failure of the engine, and no failure of an engine is a refusal of a session.
-/

namespace ScriptLint.Engine

open ScriptLint.Action

variable {σ : Type} (i : Interpreter σ)

lemma loadScript_ofInterpreter (name source : Text) (s : σ) :
    (ofInterpreter i).loadScript name source s = match i.eval source s with
      | (.ok _, s')    => (.ok (), s')
      | (.error r, s') => (.error (failure name r), s') := by
  simp only [ofInterpreter, bind_apply, run]
  rcases i.eval source s with ⟨_ | _, _⟩ <;> rfl

lemma bindGlobal_ofInterpreter (name : Text) (v : Json) (s : σ) :
    (ofInterpreter i).bindGlobal name v s = match i.eval (bindingSource name v) s with
      | (.ok _, s')    => (.ok (), s')
      | (.error r, s') => (.error (failure ("bind " ++ name) r), s') := by
  simp only [ofInterpreter, bind_apply, run]
  rcases i.eval (bindingSource name v) s with ⟨_ | _, _⟩ <;> rfl

lemma evaluate_ofInterpreter (source : Text) (s : σ) :
    (ofInterpreter i).evaluate source s = match i.eval source s with
      | (.ok v, s')    => (.ok v, s')
      | (.error r, s') => (.error (failure evaluationLabel r), s') := rfl

lemma readGlobal_ofInterpreter (name : Text) (s : σ) :
    (ofInterpreter i).readGlobal name s = match i.eval (readingSource name) s with
      | (.ok v, s')    => (decode name v, s')
      | (.error r, s') => (.error (failure ("read " ++ name) r), s') := by
  simp only [ofInterpreter, bind_apply, run]
  rcases i.eval (readingSource name) s with ⟨_ | _, _⟩ <;> rfl

/-- The value of a global was read, and so can be written. -/
lemma isWritable_of_decode {name : Text} {v v' : Json} (h : decode name v = .ok v') :
    v'.isWritable = true := by
  cases v with
  | string t =>
    rw [decode] at h
    rcases hr : Json.read t with e | w <;> rw [hr] at h <;> cases h
    exact Json.isWritable_of_read hr
  | _ =>
    cases h
    rfl

/-! ### Failures -/

lemma failure_ne_outOfOrder (label : Text) (r : Raised) (o : OutOfOrder) :
    failure label r ≠ .outOfOrder o := by
  cases r <;> simp [failure]

lemma decode_ne_outOfOrder (name : Text) (v : Json) (o : OutOfOrder) :
    decode name v ≠ .error (.outOfOrder o) := by
  cases v with
  | string t =>
    rw [decode]
    rcases Json.read t with e | v
    · cases e <;> simp [Except.mapError]
    · simp [Except.mapError]
  | _ => simp [decode]

/-- The steps of an engine do not fail in the way in which a session refuses calls. -/
structure NeverRefuses (e : Engine σ) : Prop where
  bind (name : Text) (v : Json) (s : σ) (o : OutOfOrder) :
    (e.bindGlobal name v s).1 ≠ .error (.outOfOrder o)
  evaluate (source : Text) (s : σ) (o : OutOfOrder) :
    (e.evaluate source s).1 ≠ .error (.outOfOrder o)
  read (name : Text) (s : σ) (o : OutOfOrder) : (e.readGlobal name s).1 ≠ .error (.outOfOrder o)

lemma neverRefuses_ofInterpreter : (ofInterpreter i).NeverRefuses where
  bind name v s o := by
    rw [bindGlobal_ofInterpreter]
    rcases i.eval (bindingSource name v) s with ⟨r | _, _⟩ <;> simp [failure_ne_outOfOrder]
  evaluate source s o := by
    rw [evaluate_ofInterpreter]
    rcases i.eval source s with ⟨r | _, _⟩ <;> simp [failure_ne_outOfOrder]
  read name s o := by
    rw [readGlobal_ofInterpreter]
    rcases i.eval (readingSource name) s with ⟨r | v, _⟩
    · simp [failure_ne_outOfOrder]
    · exact decode_ne_outOfOrder name v o

end ScriptLint.Engine
