import ScriptLint.Interpreter.Scripted
import ScriptLint.Proofs.CommandLine.Stages
import ScriptLint.Proofs.Config.Document
import ScriptLint.Proofs.Config.Merge
import ScriptLint.Proofs.Config.OptionToken
import ScriptLint.Proofs.Run.Bindings
import ScriptLint.Proofs.Run.Store

/-!
# Effective options

The options that a command binds come from three places: the platform, which is assumed, the
document of the project, and the tokens among the arguments. A later place overrides the value of an
option, and each place has its options after those of the places before it.
-/

namespace ScriptLint

/-! ### Tokens -/

namespace OptionToken

/-- Tokens are parsed if they all have names, and otherwise the first one without is at fault. -/
lemma mapM_parse (tokens : List Text) :
    tokens.mapM (fun token => (parse token).mapError Failure.config) =
      match tokens.find? fun token => name token = [] with
      | some token => .error (.config (.unnamedOption token))
      | none       => .ok (tokens.map fun token => (name token, value token)) := by
  induction tokens with
  | nil => rfl
  | cons token tokens ih =>
    rw [List.mapM_cons, List.find?_cons, parse_eq, ih]
    by_cases h : name token = []
    · simp only [h]
      rfl
    · simp only [h, if_false, decide_false, List.map_cons]
      rcases tokens.find? fun token => name token = [] with _ | t <;> rfl

end OptionToken

namespace CommandLine

open OptionToken Engine

/-! ### Configurations -/

variable {w : Workspace} {a : Arguments}

/-- Without a name for every token there is no configuration. -/
lemma configFor_of_unnamed (h : ∃ token ∈ a.options, name token = []) :
    ∃ token ∈ a.options, name token = [] ∧
      configFor w a = .error (.config (.unnamedOption token)) := by
  rcases hf : a.options.find? fun token => name token = [] with _ | token
  · obtain ⟨token, hm, hn⟩ := h
    exact absurd (decide_eq_true hn) (List.find?_eq_none.mp hf token hm)
  · have hn : name token = [] := by simpa using List.find?_some hf
    refine ⟨token, List.mem_of_find?_eq_some hf, hn, ?_⟩
    rw [configFor, mapM_parse, hf]
    rfl

/-- With names for all tokens, and a format that there is, the options of the configuration are those
of the project with those of the tokens. -/
lemma configFor_of_named (h : ∀ token ∈ a.options, name token ≠ []) {own : Config}
    (hown : Config.load w (some w.currentPath) (a.config.map Path.ofText) = .ok own)
    {format : Option Format} (hf : a.format = format.map Format.name) :
    ∃ config, configFor w a = .ok config ∧ config.options =
      own.options.union (.ofList (a.options.map fun token => (name token, value token))) := by
  have hn : (a.options.find? fun token => name token = []) = none := by
    rw [List.find?_eq_none]
    intro token hm hd
    exact h token hm (of_decide_eq_true hd)
  rw [configFor, mapM_parse, hn, hown]
  exact ⟨_, Config.merge_overrides own hf _, rfl⟩

/-! ### The options that are bound -/

/-- Options in effect for those that a project lists and for tokens. The platform comes first, then
the options of the project, then those of the tokens, each in the place where it is first named. The
last token that names an option decides on it, then the project, then the platform. -/
structure InEffect (listed : List (Text × Bool)) (tokens : List Text) (options : Options) :
    Prop where
  keys : Entries.keys options.entries =
    (Global.platformOption :: (Entries.keys listed ++ tokens.map name)).eraseDups
  get? (n : Text) : options.get? n =
    (((tokens.reverse.find? fun token => name token = n).map value).or
      ((OrderedMap.ofList listed).get? n)).or (if n = Global.platformOption then some true else none)

lemma inEffect_effectiveOptions (listed : List (Text × Bool)) (tokens : List Text) :
    InEffect listed tokens (Session.effectiveOptions ((OrderedMap.ofList listed).union
      (.ofList (tokens.map fun token => (name token, value token))))) where
  keys := by
    rw [Session.effectiveOptions, OrderedMap.keys_union, OrderedMap.keys_union_ofList]
    refine (eraseDups_append_eraseDups [Global.platformOption] _).trans ?_
    simp only [Entries.keys, List.map_map]
    rfl
  get? n := by
    rw [Engine.Store.get?_effectiveOptions, OrderedMap.get?_union, OrderedMap.get?_ofList _ (tokens.map _),
      ← List.map_reverse, Entries.get?_map]

variable {σ : Type} (e : Engine σ) (engine : σ)

/-- A command that makes a run makes it under its configuration. If the engine keeps notes the run
is the same, and its options were bound once to their object, unless there is no report. -/
lemma runFor_noting {config config' : Config} {outcome : Run.Outcome} {state : σ}
    (hc : configFor w a = .ok config) : runFor e engine w a = .ok (config', outcome, state) →
    ∃ notes, runFor e.noting (engine, []) w a = .ok (config', outcome, (state, notes)) ∧
      (boundTo Global.options notes = [Session.optionsObject config.options] ∨
        boundTo Global.options notes = [] ∧ ∀ report, outcome.result ≠ .ok report) := by
  rw [runFor, runFor, hc]
  rcases checkPaths a with err | _ <;> intro h
  · cases h
  revert h
  rcases (targets w a.files).1 with err | files <;> intro h
  · cases h
  obtain ⟨rfl, hl⟩ := Prod.mk.inj (Except.ok.inj h)
  obtain ⟨hrun, hbound⟩ := Run.lint_noting e w config.linterScript config.options files engine
  rw [hl] at hrun
  obtain ⟨ho, hs⟩ := Prod.mk.inj hrun
  rw [← ho, ← hs]
  exact ⟨_, rfl, hbound⟩

/-- The object that a command binds to the options. If all tokens have names it is that of the
options in effect for the project and the tokens, and it is bound once, unless there is no report. If
a token has no name nothing is run, and it is the configuration that fails, once all paths can be
handed to the file system. -/
theorem boundTo_runFor (streams : Streams) (w : Workspace) {args : List Text}
    (ha : parse args = .ok a) (hf : a.files ≠ []) :
    ((∀ token ∈ a.options, name token ≠ []) →
      ∀ own, Config.load w (some w.currentPath) (a.config.map Path.ofText) = .ok own →
      ∀ format : Option Format, a.format = format.map Format.name →
      ∃ listed config bound,
        Config.Lists w (some w.currentPath) (a.config.map Path.ofText) listed ∧
        configFor w a = .ok config ∧ InEffect listed a.options bound ∧
        ∀ config' outcome state, runFor e engine w a = .ok (config', outcome, state) →
          ∃ notes, runFor e.noting (engine, []) w a = .ok (config', outcome, (state, notes)) ∧
            (boundTo Global.options notes = [bound.toJson] ∨
              boundTo Global.options notes = [] ∧ ∀ report, outcome.result ≠ .ok report)) ∧
    ((∃ token ∈ a.options, name token = []) →
      (∃ stop, runFor e engine w a = .error stop) ∧
      (checkPaths a = .ok () → ∃ token ∈ a.options, name token = [] ∧
        (run e engine streams w args).ending = .badConfig (.unnamedOption token) ∧
        (run e engine streams w args).out = [])) := by
  constructor
  · intro hnamed own hown format hformat
    obtain ⟨listed, hl, ho⟩ := Config.lists_of_load hown
    obtain ⟨config, hc, hoptions⟩ := configFor_of_named hnamed hown hformat
    refine ⟨listed, config, _, hl, hc, inEffect_effectiveOptions listed a.options, ?_⟩
    intro config' outcome state hrun
    obtain ⟨notes, hnoting, hbound⟩ := runFor_noting e engine hc hrun
    rw [hoptions, ho] at hbound
    exact ⟨notes, hnoting, hbound⟩
  · intro hunnamed
    obtain ⟨token, hm, hn, hc⟩ := configFor_of_unnamed (w := w) hunnamed
    refine ⟨?_, fun hp => ⟨token, hm, hn, ?_⟩⟩
    · rw [runFor, hc]
      rcases checkPaths a with err | _
      · exact ⟨_, rfl⟩
      · exact ⟨_, rfl⟩
    · have hrun := effect_run e engine streams w ha hf
      rw [reportFor, runFor, hp, hc] at hrun
      exact ⟨congrArg Effect.ending hrun, congrArg Effect.out hrun⟩

/-- A project that names a linter script and lists options, the platform among them. -/
def optionProject : Workspace where
  tree := ⟨[(["l"], .file [0x6C]), (["a"], .file [0x61]),
    (["pyproject.toml"], .file (("[tool.pyjshint]\nlinter-script = 'l'\n" ++
      ("[tool.pyjshint.options]\nundef = true\nrhino = false\ncurly = true\n" : Text)).flatMap
        Utf8.octets))]⟩
  current := []
  home := ⟨.slash, []⟩
  homes := []

/-- The arguments that have a file linted with tokens. -/
def lintTokens (tokens : List Text) : List Text :=
  "lint" :: "a" :: tokens.flatMap fun token => ["-O", token]

/-- What these arguments ask for. -/
def withTokens (tokens : List Text) : Arguments :=
  { Arguments.none with files := ["a"], options := tokens }

/-- The run on these arguments, with an engine that finds nothing. -/
def runOn (tokens : List Text) : Except Stop (Config × Run.Outcome × Scripted.State) :=
  runFor (.ofInterpreter .scripted) (Scripted.start []) optionProject (withTokens tokens)

/-- The run on these arguments, with an engine that finds nothing and keeps notes. -/
def notedRunOn (tokens : List Text) :
    Except Stop (Config × Run.Outcome × (Scripted.State × Notes)) :=
  runFor (ofInterpreter .scripted).noting (Scripted.start [], []) optionProject (withTokens tokens)

/-- Tokens that override the project and each other, with blanks and in any case. -/
def overlapping : List Text := [" curly = no", "eqeqeq", "curly=TRUE", "undef=1"]

/-- The object for these tokens, as it is printed. -/
def overlappingObject : Text :=
  "\x7b\"rhino\": false, \"undef\": false, \"curly\": true, \"eqeqeq\": true\x7d"

theorem boundTo_runFor_overlapping :
    (parse (lintTokens overlapping) = .ok (withTokens overlapping) ∧
      (withTokens overlapping).files ≠ [] ∧
      (∀ token ∈ (withTokens overlapping).options, name token ≠ []) ∧
      ∃ listed bound config outcome state notes,
        Config.Lists optionProject (some optionProject.currentPath) none listed ∧
        InEffect listed overlapping bound ∧ runOn overlapping = .ok (config, outcome, state) ∧
        notedRunOn overlapping = .ok (config, outcome, (state, notes)) ∧
        boundTo Global.options notes = [bound.toJson] ∧
        bound.toJson.print .inline = overlappingObject) ∧
    parse (lintTokens ["a", "=true"]) = .ok (withTokens ["a", "=true"]) ∧
      checkPaths (withTokens ["a", "=true"]) = .ok () ∧
      (run (.ofInterpreter .scripted) (Scripted.start []) ⟨.file, .file⟩ optionProject
        (lintTokens ["a", "=true"])).ending = .badConfig (.unnamedOption "=true") := by
  constructor
  · have ha : parse (lintTokens overlapping) = .ok (withTokens overlapping) := by decide +kernel
    have hf : (withTokens overlapping).files ≠ [] := by decide
    have hnamed : ∀ token ∈ (withTokens overlapping).options, name token ≠ [] := by decide +kernel
    have hprinted : (notedRunOn overlapping).toOption.map (fun done =>
          (boundTo Global.options done.2.2.2).map (Json.print .inline)) = some [overlappingObject] := by
      decide +kernel
    have hran : (runOn overlapping).toOption.isSome = true := by decide +kernel
    have hloaded : (Config.load optionProject (some optionProject.currentPath) none).toOption.isSome
        = true := by decide +kernel
    rcases hl : Config.load optionProject (some optionProject.currentPath) none with f | own
    · rw [hl] at hloaded
      cases hloaded
    rcases hr : runOn overlapping with stop | ⟨config, outcome, state⟩
    · rw [hr] at hran
      cases hran
    obtain ⟨listed, -, bound, hlisted, -, hin, hbound⟩ :=
      (boundTo_runFor (ofInterpreter .scripted) (Scripted.start []) ⟨.file, .file⟩ optionProject
        ha hf).1 hnamed own hl none rfl
    obtain ⟨notes, hn, hb⟩ := hbound config outcome state hr
    rw [notedRunOn, hn] at hprinted
    have hprinted : (boundTo Global.options notes).map (Json.print .inline) = [overlappingObject] :=
      Option.some.inj hprinted
    obtain hb | ⟨hb, -⟩ := hb
    · rw [hb] at hprinted
      exact ⟨ha, hf, hnamed, listed, bound, config, outcome, state, notes, hlisted, hin, rfl, hn, hb,
        (List.cons.inj hprinted).1⟩
    · rw [hb] at hprinted
      cases hprinted
  · have ha : parse (lintTokens ["a", "=true"]) = .ok (withTokens ["a", "=true"]) := by
      decide +kernel
    have hp : checkPaths (withTokens ["a", "=true"]) = .ok () := by decide +kernel
    obtain ⟨token, hm, hn, hend, -⟩ := ((boundTo_runFor (.ofInterpreter .scripted)
      (Scripted.start []) ⟨.file, .file⟩ optionProject ha (by decide)).2 ⟨"=true", by decide, by decide⟩).2 hp
    refine ⟨ha, hp, hend.trans ?_⟩
    obtain rfl | rfl : token = "a" ∨ token = "=true" := by simpa [withTokens] using hm
    · exact absurd hn (by decide)
    · rfl

end CommandLine

end ScriptLint
