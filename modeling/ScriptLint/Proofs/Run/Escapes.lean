import ScriptLint.CommandLine.Program
import ScriptLint.Proofs.Files.Reading
import ScriptLint.Proofs.Run.Failures
import ScriptLint.Proofs.Script.Loading

/-!
# Failures of a run that are not reported

A run ends with a report or a failure, and the program tells of the failures that a caller is to
expect: a file that is refused, a script that is missing or cannot be loaded, an evaluation that
failed, a source that is not UTF-8. The failures that are none of these come from the path or the
content of the linter script, from an answer of the interpreter, or from the name of a source.
-/

namespace ScriptLint

open ScriptLint.Action Step

namespace Run

open CommandLine (isReported)

/-! ### Paths and files -/

section Files

variable {w : Workspace} {p : Path} {t : Text} {e : FileError} {f : Failure}

lemma not_isReported_of_check (h : Workspace.check t = .error e) :
    isReported (.file e) = false := by
  obtain rfl | ⟨e', rfl⟩ := Workspace.eq_of_check h <;> rfl

lemma not_isReported_of_expandHome (h : w.expandHome p = .error e) :
    isReported (.file e) = false := by
  rw [Workspace.expandHome.eq_def] at h
  split at h
  · next user names _ _ =>
    split_ifs at h with hu
    · cases h
    · rcases hc : Workspace.check user with e' | _ <;> rw [hc] at h
      · cases h
        exact not_isReported_of_check hc
      · dsimp only [bind, Except.bind] at h
        split at h <;> cases h
        rfl
  · cases h

lemma not_isReported_of_resolve (h : w.resolve p = .error e) : isReported (.file e) = false := by
  rw [Workspace.resolve] at h
  rcases hc : Workspace.check p.text with e' | _ <;> rw [hc] at h
  · cases h
    exact not_isReported_of_check hc
  · dsimp only [bind, Except.bind] at h
    split at h
    · cases h
    · split at h <;> cases h
      rfl

lemma isReported_of_isFile (h : w.isFile p = .error e) : isReported (.file e) = true := by
  obtain ⟨path, rfl⟩ := Workspace.eq_of_isFile h
  rfl

lemma isReported_of_firstInstalled {directories : List Path}
    (h : Script.firstInstalled w directories = .error e) : isReported (.file e) = true := by
  induction directories with
  | nil => cases h
  | cons directory rest ih =>
    rw [Script.firstInstalled] at h
    rcases hf : w.isFile (directory.append Script.installed) with e' | _ | _ <;> rw [hf] at h
    · cases h
      exact isReported_of_isFile hf
    · exact ih h
    · cases h

lemma readSource_of_check {name : Text} (h : Workspace.check (Path.ofText name).text = .error e) :
    readSource w name = .error (.file e) := by
  rw [readSource, Workspace.readText, Workspace.read_of_check h]
  obtain rfl | ⟨e', rfl⟩ := Workspace.eq_of_check h <;> rfl

/-- If the name of a source can be handed to the file system, then failing to read it is
reported. -/
lemma isReported_of_readSource {name : Text} (hc : Workspace.check (Path.ofText name).text = .ok ())
    (h : readSource w name = .error f) : isReported f = true := by
  rw [readSource] at h
  rcases hr : w.read (Path.ofText name) with e | content
  · obtain ⟨fault, rfl⟩ := Workspace.eq_of_read hc hr
    rw [Workspace.readText, hr] at h
    cases h
    rfl
  · rcases hd : Utf8.decode content with e | t
    · rw [Workspace.readText_of_undecodable hr hd] at h
      cases h
      rfl
    · rw [Workspace.readText_of_decoded hr hd] at h
      cases h

/-- Of the failures to read a source, those that are not reported tell that its name cannot be
handed to the file system. -/
lemma readSource_escapes_iff {name : Text} :
    readSource w name = .error f ∧ isReported f = false ↔
      ∃ e, Workspace.check (Path.ofText name).text = .error e ∧ f = .file e := by
  constructor
  · rintro ⟨h, hf⟩
    rcases hc : Workspace.check (Path.ofText name).text with e | ⟨⟩
    · cases h.symm.trans (readSource_of_check hc)
      exact ⟨e, rfl, rfl⟩
    · cases hf.symm.trans (isReported_of_readSource hc h)
  · rintro ⟨e, hc, rfl⟩
    exact ⟨readSource_of_check hc, not_isReported_of_check hc⟩

lemma allReadable_append_cons {before : List Text} (hb : allReadable w before = .ok ())
    {name : Text} (h : readSource w name = .error f) (after : List Text) :
    allReadable w (before ++ name :: after) = .error f := by
  induction before with
  | nil => rw [List.nil_append, allReadable, h]
  | cons name' before ih =>
    rw [allReadable] at hb
    rw [List.cons_append, allReadable]
    rcases hr : readSource w name' with e | code <;> rw [hr] at hb
    · cases hb
    · exact ih hb

lemma exists_of_allReadable {names : List Text} (h : allReadable w names = .error f) :
    ∃ before name after, names = before ++ name :: after ∧ allReadable w before = .ok () ∧
      readSource w name = .error f := by
  induction names with
  | nil => cases h
  | cons name names ih =>
    rw [allReadable] at h
    rcases hr : readSource w name with e | code <;> rw [hr] at h
    · cases h
      exact ⟨[], name, names, rfl, rfl, hr⟩
    · obtain ⟨before, name', after, rfl, hb, hn⟩ := ih h
      refine ⟨name :: before, name', after, rfl, ?_, hn⟩
      rw [allReadable, hr]
      exact hb

end Files

/-! ### The linter script -/

/-- The file that the linter script is read from: the one that is asked for, or the one that is
found. -/
inductive LinterFile (w : Workspace) : Option Path → Path → Prop
  | asked {p p' : Path} (h : w.expandHome p = .ok p') : LinterFile w (some p) p'
  | installed {p : Path} (h : Script.findInstalled w none = .ok (some p)) : LinterFile w none p

/-- How a linter script is not loaded, other than by a failure that is reported. -/
inductive ScriptEscapes (w : Workspace) : Option Path → Failure → Prop
  /-- The path of the script starts at a home directory that is not known. -/
  | home {p : Path} {e : FileError} (h : w.expandHome p = .error e) :
      ScriptEscapes w (some p) (.file e)
  /-- The current directory, where the search for a script starts, cannot be resolved. -/
  | search {e : FileError} (h : w.resolve w.currentPath = .error e) : ScriptEscapes w none (.file e)
  | undecodable {path : Option Path} {p : Path} {content : List Byte} {e : Utf8.DecodeError}
      (h : LinterFile w path p) (hc : w.read p = .ok content)
      (hd : Utf8.decode content = .error e) : ScriptEscapes w path (.file (.undecodable e))

variable {w : Workspace} {path : Option Path} {f : Failure}

/-- A script is not loaded from a file because of a failure that is reported, or because the file is
not UTF-8. -/
lemma ofPath_escapes_iff {p : Path} :
    Script.ofPath w p = .error f ∧ isReported f = false ↔
      ∃ content e, w.read p = .ok content ∧ Utf8.decode content = .error e ∧
        f = .file (.undecodable e) := by
  rw [Script.ofPath]
  rcases hp : w.isFile p with e | _ | _
  · constructor
    · rintro ⟨h, hf⟩
      cases h
      cases hf.symm.trans (isReported_of_isFile hp)
    · rintro ⟨content, e', hc, -, -⟩
      cases hp.symm.trans (Workspace.isFile_iff.mpr ⟨content, hc⟩)
  · constructor
    · rintro ⟨h, hf⟩
      cases h
      cases hf
    · rintro ⟨content, e', hc, -, -⟩
      cases hp.symm.trans (Workspace.isFile_iff.mpr ⟨content, hc⟩)
  · obtain ⟨content, hc⟩ := Workspace.isFile_iff.mp hp
    rcases hd : Utf8.decode content with e | t
    · rw [Workspace.readText_of_undecodable hc hd]
      constructor
      · rintro ⟨h, -⟩
        cases h
        exact ⟨content, e, hc, hd, rfl⟩
      · rintro ⟨content', e', hc', hd', rfl⟩
        cases hc.symm.trans hc'
        cases hd.symm.trans hd'
        exact ⟨rfl, rfl⟩
    · rw [Workspace.readText_of_decoded hc hd]
      constructor
      · rintro ⟨h, -⟩
        cases h
      · rintro ⟨content', e', hc', hd', -⟩
        cases hc.symm.trans hc'
        cases hd.symm.trans hd'

/-- The driver is bundled, so that the scripts fail as the linter script does. -/
lemma scripts_eq_error_iff :
    scripts w path = .error f ↔ Script.linter w path none = .error f := by
  rw [scripts]
  rcases Script.linter w path none with e | linter
  · exact ⟨fun h => by cases h; rfl, fun h => by cases h; rfl⟩
  · exact ⟨nofun, nofun⟩

/-- Once its file is known, the linter script fails as that file does. -/
lemma LinterFile.linter_eq {p : Path} (h : LinterFile w path p) :
    Script.linter w path none = Script.ofPath w p := by
  cases h with
  | asked h =>
    rw [Script.linter, h]
    rfl
  | installed h =>
    rw [Script.linter_none, h]
    rfl

lemma LinterFile.escapes {p : Path} (h : LinterFile w path p)
    (hl : Script.linter w path none = .error f) (hf : isReported f = false) :
    ScriptEscapes w path f := by
  rw [h.linter_eq] at hl
  obtain ⟨content, e, hc, hd, rfl⟩ := ofPath_escapes_iff.mp ⟨hl, hf⟩
  exact .undecodable h hc hd

lemma resolve_of_findInstalled {e : FileError} (h : Script.findInstalled w none = .error e)
    (he : isReported (.file e) = false) : w.resolve w.currentPath = .error e := by
  rw [Script.findInstalled, Option.getD_none] at h
  rcases hr : w.resolve w.currentPath with e' | origin <;> rw [hr] at h
  · cases h
    rfl
  · cases he.symm.trans (isReported_of_firstInstalled h)

lemma scripts_escapes_iff :
    scripts w path = .error f ∧ isReported f = false ↔ ScriptEscapes w path f := by
  rw [scripts_eq_error_iff]
  constructor
  · rintro ⟨h, hf⟩
    cases path with
    | some p =>
      rcases hp : w.expandHome p with e | p'
      · rw [Script.linter, hp] at h
        cases h
        exact .home hp
      · exact LinterFile.escapes (.asked hp) h hf
    | none =>
      rcases hp : Script.findInstalled w none with e | _ | p'
      · rw [Script.linter_none, hp] at h
        cases h
        exact .search (resolve_of_findInstalled hp hf)
      · rw [Script.linter_none, hp] at h
        cases h
        cases hf
      · exact LinterFile.escapes (.installed hp) h hf
  · intro h
    cases h with
    | home h =>
      rw [Script.linter, h]
      exact ⟨rfl, not_isReported_of_expandHome h⟩
    | search h =>
      rw [Script.linter_none, Script.findInstalled, Option.getD_none, h]
      exact ⟨rfl, not_isReported_of_resolve h⟩
    | undecodable h hc hd =>
      rw [h.linter_eq]
      exact ofPath_escapes_iff.mpr ⟨_, _, hc, hd, rfl⟩

/-! ### Answers -/

/-- How an answer becomes a failure that is not reported: it is an exception that is not the
interpreter's own, or the collected errors hold an integer with too many digits. -/
inductive AnswerEscapes : Purpose → Except Raised Json → Failure → Prop
  | foreign {p : Purpose} {kind m : Text} :
      AnswerEscapes p (.error (.foreign kind m)) (.foreign kind m)
  | integerTooLong {t : Text} {n : Nat} (h : Json.read t = .error (.integerTooLong n)) :
      AnswerEscapes .readErrors (.ok (.string t)) (.integerTooLong n)

lemma surfaces_escapes_iff {j : Nat} {p : Purpose} {answer : Except Raised Json} :
    Surfaces j p answer f ∧ isReported f = false ↔ AnswerEscapes p answer f := by
  constructor
  · rintro ⟨h, hf⟩
    cases h with
    | foreign => exact .foreign
    | integerTooLong h => exact .integerTooLong h
    | _ => cases hf
  · rintro (_ | h)
    · exact ⟨.foreign, rfl⟩
    · exact ⟨.integerTooLong h, rfl⟩

/-! ### Runs -/

variable {σ : Type} (i : Interpreter σ)

/-- How a run fails in a way that is not reported. -/
inductive Escapes (w : Workspace) (path : Option Path) (options : Options) (names : List Text)
    (s : σ) : Failure → Prop
  | script {f : Failure} (h : ScriptEscapes w path f) : Escapes w path options names s f
  | answer {linter driver : Script} {j : Nat} {e : Step × Except Raised Json} {f : Failure}
      (hs : scripts w path = .ok (linter, driver))
      (he : FirstRejected (exchange i (plan linter driver options (readable w names)) s) j e)
      (h : AnswerEscapes e.1.purpose e.2 f) : Escapes w path options names s f
  /-- Every answer is accepted, and the first file that cannot be read has a name that cannot be
  handed to the file system. -/
  | name {linter driver : Script} {before after : List Text} {name : Text} {e : FileError}
      (hs : scripts w path = .ok (linter, driver))
      (ha : ∀ e ∈ exchange i (plan linter driver options (readable w names)) s, isAccepted e = true)
      (hn : names = before ++ name :: after) (hb : allReadable w before = .ok ())
      (hc : Workspace.check (Path.ofText name).text = .error e) :
      Escapes w path options names s (.file e)

section

variable {i} {linter driver : Script} {options : Options} {names : List Text} {s : σ}

/-- A run ends with the failure that the first answer that is not accepted becomes. -/
lemma result_of_firstRejected (hs : scripts w path = .ok (linter, driver)) {j : Nat}
    {e : Step × Except Raised Json}
    (he : FirstRejected (exchange i (plan linter driver options (readable w names)) s) j e) :
    ∃ f, (lint (.ofInterpreter i) w path options names s).1.result = .error f ∧
      Surfaces j e.1.purpose e.2 f := by
  have hplace : (plan linter driver options (readable w names))[j]? = some e.1 := by
    rw [← map_fst_exchange i (plan linter driver options (readable w names)) s,
      List.getElem?_map, he.place, Option.map_some]
  obtain ⟨f, hf, hsurfaces⟩ := exists_surfaces (five_le_of_readErrors hplace) he.rejected
  have hresult := lint_result i hs options names s
  rw [performAll_loadingPlan i he, he.performAll_eq, hf] at hresult
  refine ⟨surfaced j f, ?_, hsurfaces⟩
  have hmap : (lint (.ofInterpreter i) w path options names s).1.result.map (fun _ => ())
      = .error (surfaced j f) := by
    rw [hresult, surfaced]
    split_ifs <;> rfl
  rcases hrun : (lint (.ofInterpreter i) w path options names s).1.result with f' | r <;>
    rw [hrun] at hmap <;> cases hmap
  rfl

/-- A run whose answers are all accepted ends as its files are read. -/
lemma result_of_accepted (hs : scripts w path = .ok (linter, driver))
    (ha : ∀ e ∈ exchange i (plan linter driver options (readable w names)) s,
      isAccepted e = true) :
    (lint (.ofInterpreter i) w path options names s).1.result.map (fun _ => ())
      = allReadable w names := by
  have hplan : (performAll i (plan linter driver options (readable w names)) s).1 = .ok () := by
    rw [performAll_eq_ok_iff, acceptedCount_eq_length_iff]
    exact ha
  have hloading : (performAll i (loadingPlan linter driver) s).1 = .ok () := by
    rw [performAll_eq_ok_iff, acceptedCount_eq_length_iff,
      exchange_loadingPlan i linter driver options (readable w names)]
    exact fun e he => ha e (List.mem_of_mem_take he)
  rw [lint_result i hs, hloading, hplan]

end

end Run

open Run

/-- A run ends with a report or with a failure that is reported, but for the failures that
`Run.Escapes` tells of. -/
theorem lint_escapes {σ : Type} (i : Interpreter σ) (w : Workspace) (path : Option Path)
    (options : Options) (names : List Text) (s : σ) (f : Failure) :
    (lint (.ofInterpreter i) w path options names s).1.result = .error f ∧
      CommandLine.isReported f = false ↔ Run.Escapes i w path options names s f := by
  rcases hs : scripts w path with e | ⟨linter, driver⟩
  · have hl : (lint (.ofInterpreter i) w path options names s).1.result = .error f ↔
        scripts w path = .error f := by
      rw [lint, lintLogging, hs, Except.error.injEq, Except.error.injEq]
    rw [hl, scripts_escapes_iff]
    refine ⟨.script, ?_⟩
    rintro (h | ⟨hs', -, -⟩ | ⟨hs', -, -, -, -⟩)
    · exact h
    · cases hs.symm.trans hs'
    · cases hs.symm.trans hs'
  have hscript (h : ScriptEscapes w path f) : False := by
    cases hs.symm.trans (scripts_escapes_iff.mpr h).1
  by_cases ha : ∀ e ∈ exchange i (plan linter driver options (readable w names)) s,
    isAccepted e = true
  · have hresult := result_of_accepted hs ha
    have hl : (lint (.ofInterpreter i) w path options names s).1.result = .error f ↔
        allReadable w names = .error f := by
      rw [← hresult]
      rcases (lint (.ofInterpreter i) w path options names s).1.result with f' | r <;>
        simp [Except.map]
    rw [hl]
    constructor
    · rintro ⟨h, hf⟩
      obtain ⟨before, name, after, hn, hb, hr⟩ := exists_of_allReadable h
      obtain ⟨e, hc, rfl⟩ := readSource_escapes_iff.mp ⟨hr, hf⟩
      exact .name hs ha hn hb hc
    · rintro (h | ⟨hs', he, -⟩ | ⟨-, -, rfl, hb, hc⟩)
      · exact (hscript h).elim
      · cases hs.symm.trans hs'
        exact absurd ha he.not_forall
      · obtain ⟨hr, hf⟩ := readSource_escapes_iff.mpr ⟨_, hc, rfl⟩
        exact ⟨allReadable_append_cons hb hr _, hf⟩
  · obtain ⟨j, e, he⟩ := exists_firstRejected ha
    obtain ⟨f', hf', hsurfaces⟩ := result_of_firstRejected hs he
    rw [hf', Except.error.injEq]
    constructor
    · rintro ⟨rfl, hf⟩
      exact .answer hs he (surfaces_escapes_iff.mp ⟨hsurfaces, hf⟩)
    · rintro (h | ⟨hs', he', h⟩ | ⟨hs', ha', -, -, -⟩)
      · exact (hscript h).elim
      · cases hs.symm.trans hs'
        obtain ⟨rfl, rfl⟩ := he.eq he'
        obtain ⟨h, hf⟩ := surfaces_escapes_iff.mpr h
        exact ⟨hsurfaces.unique h, hf⟩
      · cases hs.symm.trans hs'
        exact absurd ha' ha

/-- A source, and a linter script that is not UTF-8. -/
def undecodableScript : Workspace where
  tree := ⟨[(["a"], .file [0x61]), (["l"], .file [0x61, 0xE9])]⟩
  current := []
  home := ⟨.slash, []⟩
  homes := []

/-- A linter script that is not UTF-8 ends a run over sources that can all be read, with an
interpreter that raises nothing, in a way that is not reported. -/
theorem lint_escapes_undecodableScript :
    readSource undecodableScript "a" = .ok "a" ∧
    ∃ f, (lint (.ofInterpreter Interpreter.scripted) undecodableScript (some ⟨.current, ["l"]⟩)
        (OrderedMap.empty : Options) ["a"] (Scripted.start [])).1.result = .error f ∧
      f = .file (.undecodable ⟨.truncated, 1, 1, 0xE9⟩) ∧ CommandLine.isReported f = false :=
  ⟨rfl, _, rfl, rfl, rfl⟩

end ScriptLint
