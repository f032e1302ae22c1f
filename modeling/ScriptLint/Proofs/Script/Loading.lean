import ScriptLint.Proofs.Files.Writing
import ScriptLint.Proofs.Script.Searching

/-!
# The linter script that is loaded

A linter script that is asked for is loaded from its path alone: if there is no file, then it is
missing, whatever a project has installed. If none is asked for, then the nearest installed one is
loaded, and it is missing only if the search finds none.
-/

namespace ScriptLint.Script

variable {w : Workspace} {start : Option Path} {place : Location} {p : Path}
  {r : Except Failure Script}

/-- What loading the script at a path gives: the text of the file that is there, or a failure. -/
inductive Loads (w : Workspace) (p : Path) : Except Failure Script → Prop
  | script {content : List Byte} {t : Text} (hc : w.read p = .ok content)
      (hd : Utf8.decode content = .ok t) : Loads w p (.ok ⟨p.text, t.unifyLineEnds⟩)
  | undecodable {content : List Byte} {e : Utf8.DecodeError} (hc : w.read p = .ok content)
      (hd : Utf8.decode content = .error e) : Loads w p (.error (.file (.undecodable e)))
  | missing (h : ¬ w.LeadsToFile p) : Loads w p (.error (.missingScript (.file p.text)))

lemma loads_ofPath (h : w.Fits p) : Loads w p (ofPath w p) := by
  rw [ofPath]
  by_cases hl : w.LeadsToFile p
  · have hf := Workspace.leadsToFile_iff.mp hl
    obtain ⟨content, hc⟩ := Workspace.isFile_iff.mp hf
    rw [hf]
    rcases hd : Utf8.decode content with e | t
    · rw [Workspace.readText_of_undecodable hc hd]
      exact .undecodable hc hd
    · rw [Workspace.readText_of_decoded hc hd]
      exact .script hc hd
  · rw [h.isFile_eq hl]
    exact .missing hl

/-- A script is missing only where there is no file. -/
lemma Loads.missing_iff (h : Loads w p r) :
    (∃ e, r = .error (.missingScript e)) ↔ ¬ w.LeadsToFile p := by
  cases h with
  | script hc =>
    have hl := Workspace.leadsToFile_iff.mpr (Workspace.isFile_iff.mpr ⟨_, hc⟩)
    simp [hl]
  | undecodable hc =>
    have hl := Workspace.leadsToFile_iff.mpr (Workspace.isFile_iff.mpr ⟨_, hc⟩)
    simp [hl]
  | missing h => simp [h]

/-- No linter script is bundled, so that one is looked for. -/
lemma linter_none (w : Workspace) (start : Option Path) : linter w none start = (do
    match ← (findInstalled w start).mapError .file with
    | some p => ofPath w p
    | none   => .error (.missingScript .linter)) := rfl

/-- The linter script that is asked for is loaded from its path, and no other is. Otherwise the one
that is installed in the nearest directory is, whatever is further up. -/
theorem linter_nearest (w : Workspace) :
    (∀ start place,
      w.reach (start.getD w.currentPath) = .ok (place, some .directory) →
      w.Fits (installedIn place) →
      ∃ found, findInstalled w start = .ok found ∧
        (∀ p, found = some p ↔
          ∃ directory, IsNearest w place directory ∧ p = installedIn directory) ∧
        (found = none ↔
          ∀ directory, directory <+: place → ¬ w.LeadsToFile (installedIn directory)) ∧
        (w.tree.IsDirectory w.current →
          ∀ directory outer tree, IsNearest w place directory →
            ChangedAround w.tree tree place directory outer →
            findInstalled { w with tree } start = .ok (some (installedIn directory))) ∧
        (∀ p, found = some p → Loads w p (linter w none start)) ∧
        ((∃ e, linter w none start = .error (.missingScript e)) ↔ found = none)) ∧
    ∀ asked start,
      match w.expandHome asked with
      | .ok p => w.Fits p → Loads w p (linter w (some asked) start) ∧
          ((∃ e, linter w (some asked) start = .error (.missingScript e)) ↔ ¬ w.LeadsToFile p)
      | .error e => linter w (some asked) start = .error (.file e) := by
  constructor
  · intro start place hs hf
    obtain ⟨found, hfound, hsome, hnone⟩ := exists_findInstalled hs hf
    have hload : ∀ p, found = some p → Loads w p (linter w none start) := by
      rintro p rfl
      obtain ⟨directory, hn, rfl⟩ := (hsome p).mp rfl
      rw [linter_none, hfound]
      exact loads_ofPath (fits_installedIn hf hn.around)
    refine ⟨found, hfound, hsome, hnone, ?_, hload, ?_⟩
    · intro hw directory outer tree hn hc
      exact hn.findInstalled_changed hc hw hs hf
    · cases found with
      | none =>
        rw [linter_none, hfound]
        exact ⟨fun _ => rfl, fun _ => ⟨_, rfl⟩⟩
      | some p =>
        obtain ⟨directory, hn, rfl⟩ := (hsome p).mp rfl
        rw [(hload _ rfl).missing_iff]
        simp [hn.leads]
  · intro asked start
    rcases he : w.expandHome asked with e | p
    · change linter w (some asked) start = _
      rw [linter, he]
      rfl
    · intro hf
      have hl : Loads w p (linter w (some asked) start) := by
        rw [linter, he]
        exact loads_ofPath hf
      exact ⟨hl, hl.missing_iff⟩

/-- A project with the linter installed, and a link to a directory of it. The root has the
directories for a linter, but no script. -/
def project : Workspace where
  tree := ⟨[(["s"], .link "p/src"), (["p"], .directory), (["p", "src"], .directory),
    (["p", "node_modules"], .directory), (["p", "node_modules", "jshint"], .directory),
    (["p", "node_modules", "jshint", "dist"], .directory),
    (["p", "node_modules", "jshint", "dist", "jshint.js"], .file [0x61]),
    (["node_modules"], .directory), (["node_modules", "jshint"], .directory),
    (["node_modules", "jshint", "dist"], .directory)]⟩
  current := []
  home := ⟨.slash, []⟩
  homes := []

lemma mem_project {place : Location} {text : Text}
    (h : (place, .link text) ∈ project.tree.entries) : place = ["s"] ∧ text = "p/src" := by
  simpa [project] using h

lemma linksFit_project : project.tree.LinksFit := by
  intro place text hm base name hn
  obtain ⟨-, rfl⟩ := mem_project hm
  revert name
  change ∀ name ∈ (["p", "src"] : List Text), _
  decide +kernel

/-- Making a script in the root is a change around the project. -/
lemma changedAround_project (content : List Byte) :
    ChangedAround project.tree (project.tree.put (installedIn []).names (.file content))
      ["p", "src"] ["p"] [] := by
  have hplace : project.tree.IsDirectory ["p", "src"] :=
    .child (.child .root (by decide +kernel) (by rfl)) (by decide +kernel) (by rfl)
  have hdist : project.tree.IsDirectory ["node_modules", "jshint", "dist"] :=
    .child (.child (.child .root (by decide +kernel) (by rfl)) (by decide +kernel) (by rfl))
      (by decide +kernel) (by rfl)
  apply changedAround_of_not_linked List.nil_prefix (by decide +kernel) (by decide +kernel) hplace
    hdist
  · intro e he
    cases he
  · intro e he
    rw [FileTree.find?_put_self (by decide +kernel)] at he
    cases he
    exact ⟨content, rfl⟩
  · intro l hl
    exact FileTree.find?_put_of_ne hl _
  · -- the only link of the project is in the root
    rintro inner ⟨rest, rfl⟩ _ front hf text he
    cases front with
    | nil => cases he
    | cons name front =>
      have hm := (mem_project (FileTree.mem_of_find? he (List.cons_ne_nil _ _))).1
      have hname : Text.ofString "s" = Text.ofString "p" :=
        (List.cons.inj hm).1.symm.trans (List.cons_prefix_cons.mp hf).1
      revert hname
      decide +kernel

theorem linter_nearest_project :
    IsNearest project ["p", "src"] ["p"] ∧
      findInstalled project (some ⟨.current, ["s"]⟩) = .ok (some (installedIn ["p"])) ∧
      findInstalled { project with tree := project.tree.put (installedIn []).names (.file []) }
        (some ⟨.current, ["s"]⟩) = .ok (some (installedIn ["p"])) ∧
      linter project none (some ⟨.current, ["s"]⟩) = .ok ⟨(installedIn ["p"]).text, "a"⟩ ∧
      ∃ e, linter project (some ⟨.current, ["x"]⟩) (some ⟨.current, ["s"]⟩)
        = .error (.missingScript e) := by
  have hs : project.reach ⟨.current, ["s"]⟩ = .ok (["p", "src"], some .directory) := by rfl
  have hf : project.Fits (installedIn ["p", "src"]) :=
    ⟨by decide +kernel, by decide +kernel, linksFit_project⟩
  obtain ⟨found, hfound, hsome, -, hchanged, hload, -⟩ :=
    (linter_nearest project).1 (some ⟨.current, ["s"]⟩) ["p", "src"] hs hf
  have hp : found = some (installedIn ["p"]) := by
    have h : findInstalled project (some ⟨.current, ["s"]⟩) = .ok (some (installedIn ["p"])) := by
      decide +kernel
    exact Except.ok.inj (hfound.symm.trans h)
  have hn : IsNearest project ["p", "src"] ["p"] := by
    obtain ⟨directory, hn, hd⟩ := (hsome _).mp hp
    rw [List.append_cancel_right (congrArg Path.names hd)]
    exact hn
  refine ⟨hn, hfound.trans (congrArg Except.ok hp), ?_, ?_, ?_⟩
  · exact hchanged .root ["p"] [] _ hn (changedAround_project [])
  · have hr : project.read (installedIn ["p"]) = .ok [0x61] := by decide +kernel
    have ha : Utf8.decode [0x61] = .ok "a" := by rfl
    have hl := hload _ hp
    generalize linter project none (some ⟨.current, ["s"]⟩) = r at hl ⊢
    cases hl with
    | script hc hd =>
      cases hr.symm.trans hc
      cases ha.symm.trans hd
      rfl
    | undecodable hc hd =>
      cases hr.symm.trans hc
      cases ha.symm.trans hd
    | missing h => exact absurd hn.leads h
  · have hx : project.Fits ⟨.current, ["x"]⟩ :=
      ⟨by decide +kernel, by decide +kernel, linksFit_project⟩
    obtain ⟨-, hmissing⟩ :=
      (linter_nearest project).2 ⟨.current, ["x"]⟩ (some ⟨.current, ["s"]⟩) hx
    apply hmissing.mpr
    rintro ⟨here, content, h⟩
    cases h

/-- A project whose packages are those of the root. -/
def linkedModules : Workspace where
  tree := ⟨[(["node_modules"], .directory), (["node_modules", "jshint"], .directory),
    (["node_modules", "jshint", "dist"], .directory),
    (["node_modules", "jshint", "dist", "jshint.js"], .file []),
    (["p"], .directory), (["p", "node_modules"], .link "../node_modules")]⟩
  current := ["p"]
  home := ⟨.slash, []⟩
  homes := []

/-- If the script in a nearer directory is a link to that of the root, then taking the latter away
changes what is found. -/
theorem linter_nearest_linkedModules :
    IsNearest linkedModules ["p"] ["p"] ∧ linkedModules.LeadsToFile (installedIn []) ∧
      findInstalled linkedModules none = .ok (some (installedIn ["p"])) ∧
      findInstalled { linkedModules with
        tree := ⟨linkedModules.tree.entries.filter (·.1 ≠ (installedIn []).names)⟩ } none
          = .ok none := by
  have hp : linkedModules.LeadsToFile (installedIn ["p"]) :=
    Workspace.leadsToFile_iff.mpr (by decide +kernel)
  have hroot : linkedModules.LeadsToFile (installedIn []) :=
    Workspace.leadsToFile_iff.mpr (by decide +kernel)
  refine ⟨⟨List.prefix_rfl, hp, ?_⟩, hroot, by decide +kernel, by decide +kernel⟩
  intro inner hi hi' _
  exact hi'.eq_of_length_le hi.length_le

end ScriptLint.Script
