import Mathlib.Tactic.Common
import ScriptLint.Interpreter.Engine

/-!
# Laws of actions

What an action does in a state, step by step, and two ways to say what a sequence of actions does.
`Action.Returns` is a total triple: from every state with one property the action returns, with a
value and a state of which another property holds. `Action.Follows` compares an action with one on
a part of its state: both fail in the same way, and leave that part the same.
-/

namespace ScriptLint.Action

variable {σ τ υ α β γ : Type}

/-! ### Steps -/

lemma bind_apply (a : Action σ α) (f : α → Action σ β) (s : σ) :
    (a >>= f) s = match a s with
      | (.ok x, s')    => f x s'
      | (.error e, s') => (.error e, s') := by
  rcases h : a s with ⟨_ | x, s'⟩ <;>
    simp only [bind, ExceptT.bind, ExceptT.mk, StateT.bind, h] <;> rfl

lemma bind_of_ok {a : Action σ α} {s s' : σ} {x : α} (h : a s = (.ok x, s'))
    (f : α → Action σ β) : (a >>= f) s = f x s' := by
  rw [bind_apply, h]

lemma bind_of_error {a : Action σ α} {s s' : σ} {e : Failure} (h : a s = (.error e, s'))
    (f : α → Action σ β) : (a >>= f) s = (.error e, s') := by
  rw [bind_apply, h]

/-- Both parts of an action that returned have returned. -/
lemma exists_of_bind_eq_ok {a : Action σ α} {f : α → Action σ β} {s s' : σ} {y : β}
    (h : (a >>= f) s = (.ok y, s')) : ∃ x t, a s = (.ok x, t) ∧ f x t = (.ok y, s') := by
  rw [bind_apply] at h
  rcases ha : a s with ⟨_ | x, t⟩ <;> rw [ha] at h
  · cases h
  · exact ⟨x, t, rfl, h⟩

@[simp] lemma pure_apply (x : α) (s : σ) : (pure x : Action σ α) s = (.ok x, s) := rfl

@[simp] lemma get_apply (s : σ) : (get : Action σ σ) s = (.ok s, s) := rfl

@[simp] lemma modify_apply (f : σ → σ) (s : σ) : (modify f : Action σ Unit) s = (.ok (), f s) := rfl

@[simp] lemma mk_pure_apply (x : Except Failure α) (s : σ) :
    (ExceptT.mk (pure x) : Action σ α) s = (x, s) := rfl

@[simp] lemma mk_pure_ok_bind (x : α) (f : α → Action σ β) :
    (ExceptT.mk (pure (.ok x)) : Action σ α) >>= f = f x := rfl

/-- An action followed by a result that is known leaves the state of the action. -/
lemma bind_mk_pure_snd (a : Action σ Unit) (x : Except Failure Unit) (s : σ) :
    ((a >>= fun _ => ExceptT.mk (pure x)) s).2 = (a s).2 := by
  rw [bind_apply]
  rcases a s with ⟨_ | _, _⟩ <;> rfl

lemma bind_mk_pure_eq_ok_iff (a : Action σ Unit) (x : Except Failure Unit) (s : σ) :
    ((a >>= fun _ => ExceptT.mk (pure x)) s).1 = .ok () ↔ (a s).1 = .ok () ∧ x = .ok () := by
  rw [bind_apply]
  rcases a s with ⟨_ | _, _⟩ <;> simp

/-! ### Triples -/

/-- From every state with `P` an action returns, and `Q` holds of its value and its state. -/
def Returns (P : σ → Prop) (a : Action σ α) (Q : α → σ → Prop) : Prop :=
  ∀ s, P s → ∃ x s', a s = (.ok x, s') ∧ Q x s'

/-! ### Comparison with an action on a part of the state -/

/-- From every state with `P`, an action fails or returns as `b` does on the part `part` of the
state, and leaves that part as `b` does; if it returns, then in a state with `Q`. -/
def Follows (part : τ → σ) (P : τ → Prop) (a : Action τ α) (b : Action σ Unit) (Q : τ → Prop) :
    Prop :=
  ∀ t, P t → (a t).1.map (fun _ => ()) = (b (part t)).1 ∧ part (a t).2 = (b (part t)).2 ∧
    ((b (part t)).1 = .ok () → Q (a t).2)

/-- What is known of the value of an action may be used after it. -/
lemma Follows.bind_of {part : τ → σ} {P Q R : τ → Prop} {V : α → Prop} {a : Action τ α}
    {b : Action σ Unit} {f : α → Action τ β} {c : Action σ Unit} (ha : Follows part P a b Q)
    (hv : ∀ t x t', a t = (.ok x, t') → V x) (hf : ∀ x, V x → Follows part Q (f x) c R) :
    Follows part P (a >>= f) (b >>= fun _ => c) R := by
  intro t ht
  obtain ⟨hr, hp, hq⟩ := ha t ht
  rw [bind_apply, bind_apply]
  rcases hat : a t with ⟨e | x, t'⟩ <;> rw [hat] at hr hp hq <;>
    rcases hb : b (part t) with ⟨e' | u, s'⟩ <;> rw [hb] at hr hp hq
  · exact ⟨hr, hp, by simp⟩
  · exact absurd hr (by simp [Except.map])
  · exact absurd hr (by simp [Except.map])
  · obtain rfl : part t' = s' := hp
    exact hf x (hv t x t' hat) t' (hq rfl)

lemma Follows.bind {part : τ → σ} {P Q R : τ → Prop} {a : Action τ α} {b : Action σ Unit}
    {f : α → Action τ β} {c : Action σ Unit} (ha : Follows part P a b Q)
    (hf : ∀ x, Follows part Q (f x) c R) : Follows part P (a >>= f) (b >>= fun _ => c) R :=
  ha.bind_of (fun _ _ _ _ => trivial) fun x _ => hf x

/-- Where an action returns that follows another one, the other one returns too. -/
lemma Follows.of_ok {part : τ → σ} {P Q : τ → Prop} {a : Action τ α} {b : Action σ Unit}
    (h : Follows part P a b Q) {t t' : τ} {x : α} (ht : P t) (ha : a t = (.ok x, t')) :
    b (part t) = (.ok (), part t') ∧ Q t' := by
  obtain ⟨hr, hp, hq⟩ := h t ht
  rw [ha] at hr hp hq
  exact ⟨Prod.ext hr.symm hp.symm, hq hr.symm⟩

lemma exists_eq_ok_iff (x : Except Failure α) :
    (∃ y, x = .ok y) ↔ x.map (fun _ => ()) = .ok () := by
  cases x <;> simp [Except.map]

/-- An action that returns and leaves the part alone follows no action at all. -/
lemma Follows.skip {part : τ → σ} {P Q : τ → Prop} {a : Action τ α}
    (h : ∀ t, P t → ∃ x t', a t = (.ok x, t') ∧ part t' = part t ∧ Q t') :
    Follows part P a (pure ()) Q := by
  intro t ht
  obtain ⟨x, t', ha, hp, hq⟩ := h t ht
  rw [ha]
  exact ⟨rfl, hp, fun _ => hq⟩

end ScriptLint.Action
