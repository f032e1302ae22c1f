import ScriptLint.Proofs.Run.Steps

/-!
# The options that a run binds

An engine can note what it binds, and the run on it is the same otherwise. A run binds the options
of the linter once, before its files, or it gives no report.
-/

namespace ScriptLint

/-! ### Actions with notes -/

namespace Action

variable {σ τ α β γ : Type}

/-- On a part of its state an action does what `b` does, and the note on its state stays as it is. -/
def Mirrors (part : τ → σ) (note : τ → γ) (a : Action τ α) (b : Action σ α) : Prop :=
  ∀ t, ((a t).1, part (a t).2) = b (part t) ∧ note (a t).2 = note t

variable {part : τ → σ} {note : τ → γ}

lemma Mirrors.bind {a : Action τ α} {b : Action σ α} {f : α → Action τ β} {g : α → Action σ β}
    (ha : Mirrors part note a b) (hf : ∀ x, Mirrors part note (f x) (g x)) :
    Mirrors part note (a >>= f) (b >>= g) := by
  intro t
  obtain ⟨h, hn⟩ := ha t
  rw [bind_apply, bind_apply, ← h]
  rcases hat : a t with ⟨e | x, t'⟩ <;> rw [hat] at hn
  · exact ⟨rfl, hn⟩
  · obtain ⟨hx, hnx⟩ := hf x t'
    exact ⟨hx, hnx.trans hn⟩

lemma mirrors_pure (x : α) : Mirrors part note (pure x) (pure x) := fun _ => ⟨rfl, rfl⟩

lemma mirrors_mk_pure (x : Except Failure α) :
    Mirrors part note (ExceptT.mk (pure x)) (ExceptT.mk (pure x)) := fun _ => ⟨rfl, rfl⟩

lemma mirrors_throw (f : Failure) :
    Mirrors part note (throw f : Action τ α) (throw f) := fun _ => ⟨rfl, rfl⟩

end Action

open ScriptLint.Action

variable {σ : Type}

/-! ### Engines -/

namespace Engine

/-- The globals that were bound, in order, and their values. -/
abbrev Notes : Type := List (Text × Json)

/-- The engine that also notes what it has bound. -/
def noting (e : Engine σ) : Engine (σ × Notes) where
  loadScript name source := fun s =>
    let (r, t) := e.loadScript name source s.1
    (r, t, s.2)
  bindGlobal name v := fun s =>
    match e.bindGlobal name v s.1 with
    | (.ok (), t)   => (.ok (), t, s.2 ++ [(name, v)])
    | (.error f, t) => (.error f, t, s.2)
  evaluate source := fun s =>
    let (r, t) := e.evaluate source s.1
    (r, t, s.2)
  readGlobal name := fun s =>
    let (r, t) := e.readGlobal name s.1
    (r, t, s.2)
  close s := (e.close s.1, s.2)

/-- The values that were bound to a global. -/
def boundTo (name : Text) (notes : Notes) : List Json :=
  (notes.filter fun note => note.1 = name).map Prod.snd

/-- The values that were bound to the options of the linter. -/
def boundOptions (s : σ × Notes) : List Json := boundTo Global.options s.2

variable (e : Engine σ)

lemma mirrors_loadScript (name source : Text) :
    Mirrors Prod.fst boundOptions (e.noting.loadScript name source) (e.loadScript name source) :=
  fun _ => ⟨rfl, rfl⟩

lemma mirrors_evaluate (source : Text) :
    Mirrors Prod.fst boundOptions (e.noting.evaluate source) (e.evaluate source) :=
  fun _ => ⟨rfl, rfl⟩

lemma mirrors_readGlobal (name : Text) :
    Mirrors Prod.fst boundOptions (e.noting.readGlobal name) (e.readGlobal name) :=
  fun _ => ⟨rfl, rfl⟩

/-- What a global is bound to is noted, unless there is an error. -/
lemma bindGlobal_noting (name : Text) (v : Json) (s : σ × Notes) :
    e.noting.bindGlobal name v s = match e.bindGlobal name v s.1 with
      | (.ok (), t)   => (.ok (), t, s.2 ++ [(name, v)])
      | (.error f, t) => (.error f, t, s.2) := rfl

lemma mirrors_bindGlobal {name : Text} (h : name ≠ Global.options) (v : Json) :
    Mirrors Prod.fst boundOptions (e.noting.bindGlobal name v) (e.bindGlobal name v) := by
  intro s
  rw [bindGlobal_noting]
  rcases e.bindGlobal name v s.1 with ⟨f | _, t⟩
  · exact ⟨rfl, rfl⟩
  · exact ⟨rfl, by simp [boundOptions, boundTo, h]⟩

end Engine

open Engine

/-! ### Sessions -/

namespace Session

variable {α : Type}

/-- The session on the engine without its notes. -/
def withoutNotes (s : Session (σ × Notes)) : Session σ := { s with engine := s.engine.1 }

/-- The values that were bound to the options of the linter in a session. -/
def boundOptions (s : Session (σ × Notes)) : List Json := Engine.boundOptions s.engine

lemma mirrors_ofEngine {a : Action (σ × Notes) α} {b : Action σ α}
    (h : Mirrors Prod.fst Engine.boundOptions a b) :
    Mirrors withoutNotes boundOptions (ofEngine a) (ofEngine b) := by
  intro s
  obtain ⟨hab, hn⟩ := h s.engine
  refine ⟨?_, hn⟩
  rw [ofEngine_apply, ofEngine_apply, show s.withoutNotes.engine = s.engine.1 from rfl, ← hab]
  rfl

lemma mirrors_inOrder {ok : Session (σ × Notes) → Bool} {ok' : Session σ → Bool}
    (h : ∀ s, ok s = ok' s.withoutNotes) (o : OutOfOrder) :
    Mirrors withoutNotes boundOptions (inOrder ok o) (inOrder ok' o) := by
  intro s
  rw [inOrder_apply, inOrder_apply, h]
  split_ifs
  · exact ⟨rfl, rfl⟩
  · exact ⟨rfl, rfl⟩

lemma mirrors_modify {f : Session (σ × Notes) → Session (σ × Notes)}
    {g : Session σ → Session σ} (h : ∀ s, (f s).withoutNotes = g s.withoutNotes)
    (hn : ∀ s, boundOptions (f s) = boundOptions s) :
    Mirrors withoutNotes boundOptions (modify f) (modify g) :=
  fun s => ⟨congrArg (Prod.mk _) (h s), hn s⟩

variable (e : Engine σ)

lemma mirrors_prepare (linter driver : Script) :
    Mirrors Prod.fst Engine.boundOptions (prepare e.noting linter driver)
      (prepare e linter driver) := by
  refine (e.mirrors_loadScript _ _).bind fun _ => (e.mirrors_evaluate _).bind fun answer => ?_
  have hload : Mirrors Prod.fst Engine.boundOptions
      (do
        e.noting.loadScript driver.name (Global.driverDefinition driver.text)
        e.noting.bindGlobal Global.currentFile (.string [])
        e.noting.bindGlobal Global.currentCode (.string []))
      (do
        e.loadScript driver.name (Global.driverDefinition driver.text)
        e.bindGlobal Global.currentFile (.string [])
        e.bindGlobal Global.currentCode (.string [])) :=
    (e.mirrors_loadScript _ _).bind fun _ => (e.mirrors_bindGlobal (by decide) _).bind fun _ =>
      e.mirrors_bindGlobal (by decide) _
  cases answer with
  | string answer =>
    dsimp only
    split_ifs
    · exact (mirrors_throw _).bind fun _ => hload
    · exact hload
  | _ => exact (mirrors_throw _).bind fun _ => hload

lemma mirrors_setCurrentFile (name content : Text) :
    Mirrors withoutNotes boundOptions (setCurrentFile e.noting name content)
      (setCurrentFile e name content) :=
  (mirrors_ofEngine (e.mirrors_bindGlobal (by decide) _)).bind fun _ =>
    (mirrors_ofEngine (e.mirrors_bindGlobal (by decide) _)).bind fun _ =>
    mirrors_modify (fun _ => by rfl) fun _ => by rfl

lemma mirrors_resetErrors :
    Mirrors withoutNotes boundOptions (resetErrors e.noting) (resetErrors e) :=
  (mirrors_inOrder (fun _ => by rfl) _).bind fun _ =>
    (mirrors_ofEngine (e.mirrors_bindGlobal (by decide) _)).bind fun _ =>
    mirrors_modify (fun _ => by rfl) fun _ => by rfl

lemma mirrors_evaluate : Mirrors withoutNotes boundOptions (evaluate e.noting) (evaluate e) :=
  (mirrors_inOrder (fun _ => by rfl) _).bind fun _ =>
  (mirrors_inOrder (fun _ => by rfl) _).bind fun _ =>
    (mirrors_ofEngine (e.mirrors_evaluate _)).bind fun _ =>
    mirrors_modify (fun _ => by rfl) fun _ => by rfl

lemma mirrors_readErrors :
    Mirrors withoutNotes boundOptions (readErrors e.noting) (readErrors e) := by
  refine (mirrors_inOrder (fun _ => by rfl) _).bind fun _ =>
    (mirrors_ofEngine (e.mirrors_readGlobal _)).bind fun v => ?_
  cases v with
  | array records =>
    exact (mirrors_modify (fun _ => by rfl) fun _ => by rfl).bind fun _ => mirrors_pure records
  | _ => exact mirrors_throw _

/-- Options that are bound for the first time are bound to their object, or there is an error. -/
lemma setOptions_noting (options : Options) {s : Session (σ × Notes)}
    (hs : s.optionsBound = false) :
    (∃ t, setOptions e.noting options s = (.ok (), t) ∧
      setOptions e options s.withoutNotes = (.ok (), t.withoutNotes) ∧
      t.boundOptions = s.boundOptions ++ [optionsObject options]) ∨
    ∃ f t, setOptions e.noting options s = (.error f, t) ∧
      setOptions e options s.withoutNotes = (.error f, t.withoutNotes) ∧
      t.boundOptions = s.boundOptions := by
  rw [setOptions_apply_options, setOptions_apply_options, if_neg (by simp [hs]),
    if_neg (by simp [withoutNotes, hs]), bindGlobal_noting,
    show s.withoutNotes.engine = s.engine.1 from rfl]
  rcases e.bindGlobal Global.options (optionsObject options) s.engine.1 with ⟨f | _, t⟩
  · exact .inr ⟨f, _, rfl, rfl, rfl⟩
  · exact .inl ⟨_, rfl, rfl, by simp [boundOptions, Engine.boundOptions, boundTo]⟩

end Session

/-! ### Runs -/

namespace Run

variable {α : Type}

/-! What tells of records is the same on a part of the state if telling is, and the loop over the
files is if its turn is. -/

section Parts

variable {τ γ : Type} {part : State τ → State σ} {note : State τ → γ}

lemma mirrors_lintFiles {e : Engine τ} {e' : Engine σ} {w : Workspace}
    (h : ∀ name, Mirrors part note (lintFile e w name) (lintFile e' w name)) (names : List Text)
    (r : Report) : Mirrors part note (lintFiles e w names r) (lintFiles e' w names r) := by
  induction names generalizing r with
  | nil => exact mirrors_pure r
  | cons name names ih =>
    rw [lintFiles, lintFiles]
    refine (h name).bind fun result => ?_
    split
    · exact ih _
    · exact mirrors_throw _

variable (h : ∀ messages, Mirrors part note (tell messages) (tell messages))
include h

lemma mirrors_tellAll (diagnostics : List Diagnostic) :
    Mirrors part note (tellAll diagnostics) (tellAll diagnostics) := by
  induction diagnostics with
  | nil => exact mirrors_pure ()
  | cons d diagnostics ih =>
    rw [tellAll, tellAll]
    split
    · exact mirrors_throw _
    · exact (h _).bind fun _ => ih

lemma mirrors_announce (r : FileResult) : Mirrors part note (announce r) (announce r) := by
  rw [announce, announce]
  split_ifs
  · exact (h _).bind fun _ => mirrors_tellAll h _
  · exact mirrors_pure ()

lemma mirrors_collect (name : Text) (records : List Json) :
    Mirrors part note (collect name records) (collect name records) :=
  (h _).bind fun _ => (mirrors_announce h _).bind fun _ => mirrors_pure _

end Parts

/-- The state of a run on the engine without its notes. -/
def withoutNotes (s : State (σ × Notes)) : State σ := { s with session := s.session.withoutNotes }

/-- The values that were bound to the options of the linter in a run. -/
def boundOptions (s : State (σ × Notes)) : List Json := s.session.boundOptions

lemma mirrors_ofSession {a : Action (Session (σ × Notes)) α} {b : Action (Session σ) α}
    (h : Mirrors Session.withoutNotes Session.boundOptions a b) :
    Mirrors withoutNotes boundOptions (ofSession a) (ofSession b) := by
  intro s
  obtain ⟨hab, hn⟩ := h s.session
  refine ⟨?_, hn⟩
  rw [ofSession_apply, ofSession_apply,
    show (withoutNotes s).session = s.session.withoutNotes from rfl, ← hab]
  rfl

lemma mirrors_tell (messages : List LogEntry) :
    Mirrors (withoutNotes (σ := σ)) boundOptions (tell messages) (tell messages) :=
  fun _ => ⟨rfl, rfl⟩

variable (e : Engine σ) (w : Workspace)

lemma mirrors_lintFile (name : Text) :
    Mirrors withoutNotes boundOptions (lintFile e.noting w name) (lintFile e w name) :=
  (mirrors_mk_pure _).bind fun _ =>
    (mirrors_ofSession (Session.mirrors_setCurrentFile e _ _)).bind fun _ =>
    (mirrors_ofSession (Session.mirrors_resetErrors e)).bind fun _ =>
    (mirrors_ofSession (Session.mirrors_evaluate e)).bind fun _ =>
    (mirrors_ofSession (Session.mirrors_readErrors e)).bind fun _ =>
      mirrors_collect mirrors_tell _ _

/-- A session that binds the options and lints files has bound the options once, or nothing to them
and there is an error. -/
lemma body_noting (options : Options) (names : List Text) {s : State (σ × Notes)}
    (hs : s.session.optionsBound = false) :
    let done := body e.noting w options names s
    (done.1, withoutNotes done.2) = body e w options names (withoutNotes s) ∧
      (boundOptions done.2 = boundOptions s ++ [Session.optionsObject options] ∨
        boundOptions done.2 = boundOptions s ∧ ∀ report, done.1 ≠ .ok report) := by
  dsimp only
  rw [body, body, bind_apply, bind_apply, ofSession_apply, ofSession_apply,
    show (withoutNotes s).session = s.session.withoutNotes from rfl]
  obtain ⟨t, ht, ht', hb⟩ | ⟨f, t, ht, ht', hb⟩ := Session.setOptions_noting e options hs
  · rw [ht, ht']
    obtain ⟨hl, hn⟩ := mirrors_lintFiles (mirrors_lintFile e w) names (.empty names.length)
      { s with session := t }
    exact ⟨hl, .inl (hn.trans hb)⟩
  · rw [ht, ht']
    exact ⟨rfl, .inr ⟨hb, nofun⟩⟩

/-- A run that keeps notes is the run without them. If it gives a report its options were bound
once, to their object, and they were never bound to anything else. -/
lemma lint_noting (path : Option Path) (options : Options) (names : List Text) (engine : σ) :
    let done := lint e.noting w path options names (engine, [])
    (done.1, done.2.1) = lint e w path options names engine ∧
      (boundTo Global.options done.2.2 = [Session.optionsObject options] ∨
        boundTo Global.options done.2.2 = [] ∧ ∀ report, done.1.result ≠ .ok report) := by
  dsimp only
  rw [lint, lint, lintLogging, lintLogging]
  rcases scripts w path with f | ⟨linter, driver⟩
  · exact ⟨rfl, .inr ⟨rfl, fun _ h => by cases h⟩⟩
  obtain ⟨hp, hn⟩ := Session.mirrors_prepare e linter driver (engine, [])
  simp only [inSession, Session.begin, ← hp]
  rcases hs : Session.prepare e.noting linter driver (engine, []) with ⟨f | _, s⟩ <;> rw [hs] at hn
  · exact ⟨rfl, .inr ⟨hn, fun _ h => by cases h⟩⟩
  obtain ⟨hb, hbound⟩ := body_noting e w options names (s := ⟨.start s, some []⟩) rfl
  rw [show boundOptions ⟨.start s, some []⟩ = [] from hn] at hbound
  refine ⟨?_, hbound⟩
  exact congrArg
    (fun done => ((⟨done.1, done.2.log.getD []⟩ : Outcome), (done.2.session.close e).engine)) hb

end Run

end ScriptLint
