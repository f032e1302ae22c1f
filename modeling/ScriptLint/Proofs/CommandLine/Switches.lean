import ScriptLint.Proofs.CommandLine.Stages

/-!
# Switches

The switches of the command are on its messages. A switch that is given adds nothing but itself to
what is read, and arguments that differ in switches only have the program do the same apart from its
messages.
-/

namespace ScriptLint.CommandLine

/-! ### Reading -/

lemma Arguments.setSwitch_comm (a : Arguments) (s s' : Switch) :
    (a.setSwitch s).setSwitch s' = (a.setSwitch s').setSwitch s := by
  cases s <;> cases s' <;> rfl

lemma Arguments.setValue_setSwitch (a : Arguments) (s : Switch) (v : Valued) (value : Text) :
    (a.setSwitch s).setValue v value = (a.setValue v value).setSwitch s := by
  cases s <;> cases v <;> rfl

lemma Arguments.addFile_setSwitch (a : Arguments) (s : Switch) (file : Text) :
    (a.setSwitch s).addFile file = (a.addFile file).setSwitch s := by
  cases s <;> rfl

/-- What was read with a switch on. -/
def switchedOn (s : Switch) (r : Arguments × Pending) : Arguments × Pending := (r.1.setSwitch s, r.2)

lemma readLetters_setSwitch (a : Arguments) (s : Switch) (t : Text) :
    readLetters (a.setSwitch s) t = (readLetters a t).map (switchedOn s) := by
  fun_induction readLetters a t with
  | case1 a => rfl
  | case2 a c t hc => rw [readLetters, hc]; rfl
  | case3 a c t s' hc ih => rw [readLetters, hc, ← ih, a.setSwitch_comm]
  | case4 a c v hc => rw [readLetters, hc]; rfl
  | case5 a c t v hc ht =>
    rw [readLetters, hc]
    dsimp only
    rw [if_neg ht, a.setValue_setSwitch]
    rfl

lemma readLong_setSwitch (a : Arguments) (s : Switch) (name : Text) (value : Option Text) :
    readLong (a.setSwitch s) name value = (readLong a name value).map (switchedOn s) := by
  fun_cases readLong a name value with
  | case1 _ h => rw [readLong.eq_def, h]; rfl
  | case2 s' h =>
    rw [readLong.eq_def, h]
    exact congrArg (fun b => Except.ok (b, Pending.nothing)) (a.setSwitch_comm s s')
  | case3 s' value h => rw [readLong.eq_def, h]; rfl
  | case4 v value h =>
    rw [readLong.eq_def, h]
    exact congrArg (fun b => Except.ok (b, Pending.nothing)) (a.setValue_setSwitch s v value)
  | case5 v h => rw [readLong.eq_def, h]; rfl

lemma readOption_setSwitch (a : Arguments) (s : Switch) (arg : Text) :
    readOption (a.setSwitch s) arg = (readOption a arg).map (switchedOn s) := by
  fun_cases readOption a arg with
  | case1 => exact readLong_setSwitch _ _ _ _
  | case2 arg h =>
    rw [readOption]
    · exact readLetters_setSwitch _ _ _
    · exact h

lemma readAll_setSwitch (a : Arguments) (s : Switch) (pending : Pending) (args : List Text) :
    readAll (a.setSwitch s) pending args = (readAll a pending args).map (·.setSwitch s) := by
  fun_induction readAll a pending args with
  | case1 a => rfl
  | case2 => rfl
  | case3 a v arg rest ih => rw [readAll, a.setValue_setSwitch, ih]
  | case4 a rest =>
    rw [readAll, if_pos rfl]
    cases s <;> rfl
  | case5 a arg rest h ho b pending hr ih =>
    rw [readAll, if_neg h, if_pos ho, readOption_setSwitch, hr, ← ih]
    rfl
  | case6 a arg rest h ho e hr =>
    rw [readAll, if_neg h, if_pos ho, readOption_setSwitch, hr]
    rfl
  | case7 a arg rest h ho ih =>
    rw [readAll, if_neg h, if_neg ho, a.addFile_setSwitch, ih]

/-- The long name of a switch. -/
def Switch.name : Switch → Text
  | .verbose => "--verbose"
  | .noEmoji => "--no-emoji"
  | .noColor => "--no-color"

lemma parse_lint (args : List Text) : parse ("lint" :: args) = readAll .none .nothing args := rfl

lemma readAll_switch (a : Arguments) (s : Switch) (args : List Text) :
    readAll a .nothing (s.name :: args) = readAll (a.setSwitch s) .nothing args := by
  rw [readAll]
  cases s <;> rfl

lemma parse_switch (s : Switch) (args : List Text) :
    parse ("lint" :: s.name :: args) = (parse ("lint" :: args)).map (·.setSwitch s) := by
  rw [parse_lint, parse_lint, readAll_switch, readAll_setSwitch]

/-! ### What switches change -/

/-- The arguments without the switches, which are on messages only. -/
def Arguments.withoutSwitches (a : Arguments) : Arguments :=
  { a with verbose := false, noEmoji := false, noColor := false }

lemma Arguments.withoutSwitches_setSwitch (a : Arguments) (s : Switch) :
    (a.setSwitch s).withoutSwitches = a.withoutSwitches := by
  cases s <;> rfl

variable {σ : Type} (e : Engine σ) (engine : σ) (streams : Streams) (w : Workspace)

lemma reportFor_withoutSwitches (a : Arguments) :
    reportFor e engine w a.withoutSwitches = reportFor e engine w a := rfl

/-- Switches change messages only. -/
lemma effect_eq_of_withoutSwitches {args args' : List Text} {a a' : Arguments}
    (ha : parse args = .ok a) (ha' : parse args' = .ok a') (hf : a.files ≠ [])
    (h : a'.withoutSwitches = a.withoutSwitches) :
    (run e engine streams w args').effect = (run e engine streams w args).effect := by
  have hf' : a'.files ≠ [] := by
    have hw : a'.withoutSwitches.files = a.withoutSwitches.files := congrArg Arguments.files h
    rwa [show a'.files = a.files from hw]
  rw [effect_run _ _ _ _ ha hf, effect_run _ _ _ _ ha' hf', ← reportFor_withoutSwitches _ _ _ a', h,
    reportFor_withoutSwitches]

/-- A switch before all other arguments changes messages only, also where the arguments are not
understood. -/
theorem effect_run_switch (s : Switch) (args : List Text) :
    (run e engine streams w ("lint" :: s.name :: args)).effect
      = (run e engine streams w ("lint" :: args)).effect := by
  have hs := parse_switch s args
  rcases ha : parse ("lint" :: args) with err | a <;> rw [ha] at hs
  · simp only [run, ha, hs, Except.map]
  · by_cases hf : a.files = []
    · have hf' : (a.setSwitch s).files = [] := by cases s <;> exact hf
      have hc : checkPaths (a.setSwitch s) = checkPaths a := by cases s <;> rfl
      simp only [run, ha, hs, Except.map, if_pos hf, if_pos hf', hc]
    · exact effect_eq_of_withoutSwitches e engine streams w ha hs hf (a.withoutSwitches_setSwitch s)

end ScriptLint.CommandLine
