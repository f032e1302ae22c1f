import Mathlib.Data.List.Induction
import ScriptLint.Proofs.Files.Reading
import ScriptLint.Proofs.Files.Resolving
import ScriptLint.Script.Location

/-!
# The nearest linter script

The search for an installed linter script starts where the directory that is given leads, and goes
up to the root. It ends at the nearest directory whose script is a file. What is further up does not
matter, unless a link leads there from the way of a script that the search looks at.
-/

namespace ScriptLint.Script

variable {w : Workspace} {start : Option Path} {place directory outer : Location} {p : Path}

/-! ### The directories around a place -/

/-- The path of the linter script that is installed in a directory. -/
def installedIn (directory : Location) : Path := ⟨.slash, directory ++ installed.names⟩

/-- Of the directories from a place up to the root, the nearest that has the linter installed. -/
structure IsNearest (w : Workspace) (place directory : Location) : Prop where
  around : directory <+: place
  leads : w.LeadsToFile (installedIn directory)
  nearest : ∀ inner, directory <+: inner → inner <+: place →
    w.LeadsToFile (installedIn inner) → inner = directory

lemma IsNearest.unique {directory' : Location} (h : IsNearest w place directory)
    (h' : IsNearest w place directory') : directory' = directory := by
  rcases List.prefix_or_prefix_of_prefix h.around h'.around with hd | hd
  · exact h.nearest directory' hd h'.around h'.leads
  · exact (h'.nearest directory hd h.around h.leads).symm

lemma exists_isNearest (hd : directory <+: place) (hl : w.LeadsToFile (installedIn directory)) :
    ∃ directory, IsNearest w place directory := by
  induction place using List.reverseRecOn with
  | nil =>
    refine ⟨directory, hd, hl, ?_⟩
    intro inner _ hi _
    rw [List.prefix_nil.mp hd, List.prefix_nil.mp hi]
  | append_singleton place name ih =>
    by_cases hp : w.LeadsToFile (installedIn (place ++ [name]))
    · refine ⟨place ++ [name], List.prefix_rfl, hp, ?_⟩
      intro inner hi hi' _
      exact hi'.eq_of_length_le hi.length_le
    · rcases List.prefix_concat_iff.mp hd with rfl | hd
      · exact absurd hl hp
      obtain ⟨nearest, hn⟩ := ih hd
      refine ⟨nearest, hn.around.trans (List.prefix_append _ _), hn.leads, ?_⟩
      intro inner hi hi' hl'
      rcases List.prefix_concat_iff.mp hi' with rfl | hi'
      · exact absurd hl' hp
      · exact hn.nearest inner hi hi' hl'

/-! ### The search -/

lemma ancestors_concat (root : Root) (names : List Text) (name : Text) :
    ancestors root (names ++ [name]) = ⟨root, names ++ [name]⟩ :: ancestors root names := by
  have hrange : List.range ((names ++ [name]).length + 1)
      = 0 :: (List.range (names.length + 1)).map Nat.succ := by
    rw [List.length_append, List.length_singleton, List.range_succ_eq_map]
  rw [ancestors, hrange, List.map_cons, List.map_map, ancestors]
  congr 1
  · simp only [Nat.sub_zero, List.take_length]
  · apply List.map_congr_left
    intro up _
    have hlength : (names ++ [name]).length - up.succ = names.length - up := by
      rw [List.length_append, List.length_singleton]
      omega
    simp only [Function.comp_apply, hlength, Path.mk.injEq, true_and]
    exact List.take_append_of_le_length (Nat.sub_le _ _)

lemma firstInstalled_of_isFile {rest : List Path}
    (h : w.isFile (installedIn directory) = .ok true) :
    firstInstalled w (⟨.slash, directory⟩ :: rest) = .ok (some (installedIn directory)) := by
  change (do if ← w.isFile (installedIn directory) then _ else _) = _
  rw [h]
  rfl

lemma firstInstalled_of_not_isFile {rest : List Path}
    (h : w.isFile (installedIn directory) = .ok false) :
    firstInstalled w (⟨.slash, directory⟩ :: rest) = firstInstalled w rest := by
  change (do if ← w.isFile (installedIn directory) then _ else _) = _
  rw [h]
  rfl

/-- A search ends at a directory whose script is a file if those of nearer ones are not. -/
lemma firstInstalled_ancestors (hd : directory <+: place)
    (hf : w.isFile (installedIn directory) = .ok true)
    (hn : ∀ inner, directory <+: inner → inner <+: place → inner ≠ directory →
      w.isFile (installedIn inner) = .ok false) :
    firstInstalled w (ancestors .slash place) = .ok (some (installedIn directory)) := by
  induction place using List.reverseRecOn with
  | nil =>
    rw [List.prefix_nil.mp hd] at hf ⊢
    exact firstInstalled_of_isFile hf
  | append_singleton place name ih =>
    rw [ancestors_concat]
    rcases List.prefix_concat_iff.mp hd with rfl | hd'
    · exact firstInstalled_of_isFile hf
    · have hne : place ++ [name] ≠ directory := by
        rintro rfl
        exact absurd hd'.length_le (by simp)
      rw [firstInstalled_of_not_isFile (hn _ hd List.prefix_rfl hne)]
      apply ih hd'
      intro inner hi hi'
      exact hn inner hi (hi'.trans (List.prefix_append _ _))

lemma firstInstalled_ancestors_none
    (hn : ∀ inner, inner <+: place → w.isFile (installedIn inner) = .ok false) :
    firstInstalled w (ancestors .slash place) = .ok none := by
  induction place using List.reverseRecOn with
  | nil => exact firstInstalled_of_not_isFile (hn [] List.prefix_rfl)
  | append_singleton place name ih =>
    rw [ancestors_concat, firstInstalled_of_not_isFile (hn _ List.prefix_rfl)]
    apply ih
    intro inner hi
    exact hn inner (hi.trans (List.prefix_append _ _))

lemma fits_installedIn (h : w.Fits (installedIn place)) (hd : directory <+: place) :
    w.Fits (installedIn directory) := by
  apply h.sublist
  · exact List.Sublist.append hd.sublist (List.Sublist.refl _)
  · intro hn
    cases (List.append_eq_nil_iff.mp hn).2

/-- The search starts where the directory that is given leads. -/
lemma findInstalled_eq {found : Option Entry}
    (h : w.reach (start.getD w.currentPath) = .ok (place, found)) :
    findInstalled w start = firstInstalled w (ancestors .slash place) := by
  rw [findInstalled, Workspace.resolve_of_reach h]
  rfl

lemma IsNearest.findInstalled {found : Option Entry} (h : IsNearest w place directory)
    (hs : w.reach (start.getD w.currentPath) = .ok (place, found))
    (hf : w.Fits (installedIn place)) :
    findInstalled w start = .ok (some (installedIn directory)) := by
  rw [findInstalled_eq hs]
  apply firstInstalled_ancestors h.around (Workspace.leadsToFile_iff.mp h.leads)
  intro inner hi hi' hne
  apply (fits_installedIn hf hi').isFile_eq
  intro hl
  exact hne (h.nearest inner hi hi' hl)

lemma findInstalled_none {found : Option Entry}
    (h : ∀ directory, directory <+: place → ¬ w.LeadsToFile (installedIn directory))
    (hs : w.reach (start.getD w.currentPath) = .ok (place, found))
    (hf : w.Fits (installedIn place)) : findInstalled w start = .ok none := by
  rw [findInstalled_eq hs]
  apply firstInstalled_ancestors_none
  intro inner hi
  exact (fits_installedIn hf hi).isFile_eq (h inner hi)

/-- A search gives the nearest script, or none if there is none. -/
lemma exists_findInstalled {found : Option Entry}
    (hs : w.reach (start.getD w.currentPath) = .ok (place, found))
    (hf : w.Fits (installedIn place)) :
    ∃ result, findInstalled w start = .ok result ∧
      (∀ p, result = some p ↔
        ∃ directory, IsNearest w place directory ∧ p = installedIn directory) ∧
      (result = none ↔
        ∀ directory, directory <+: place → ¬ w.LeadsToFile (installedIn directory)) := by
  by_cases hn : ∃ directory, IsNearest w place directory
  · obtain ⟨directory, hn⟩ := hn
    refine ⟨some (installedIn directory), hn.findInstalled hs hf, ?_, ?_⟩
    · intro p
      constructor
      · intro h
        cases h
        exact ⟨directory, hn, rfl⟩
      · rintro ⟨directory', hn', rfl⟩
        rw [hn.unique hn']
    · constructor
      · exact nofun
      · intro h
        exact absurd hn.leads (h directory hn.around)
  · have hnone : ∀ directory, directory <+: place → ¬ w.LeadsToFile (installedIn directory) := by
      intro directory hd hl
      exact hn (exists_isNearest hd hl)
    refine ⟨none, findInstalled_none hnone hs hf, ?_, ?_⟩
    · intro p
      constructor
      · exact nofun
      · rintro ⟨directory, hn', -⟩
        exact absurd ⟨directory, hn'⟩ hn
    · exact ⟨fun _ => hnone, fun _ => rfl⟩

/-! ### What is further up -/

/-- Whether the walk along a path from the root looks at a location, before or after a link, in a
tree or in the one that it is changed to. -/
def OnWay (t t' : FileTree) (p : Path) (linked : Bool) (l : Location) : Prop :=
  t.Visits [] p.names linked l ∨ t'.Visits [] p.names linked l

/-- A tree is changed on the way of the script in an outer directory, and nowhere where a path leads
to a directory. If the way of the script in an inner directory comes to a changed location too, then
neither comes there through a link. -/
structure ChangedAround (t t' : FileTree) (place directory outer : Location) : Prop where
  around : outer <+: directory
  ne : outer ≠ directory
  onWay : ∀ l, t'.find? l ≠ t.find? l → ∃ linked, OnWay t t' (installedIn outer) linked l
  kept : ∀ l, t'.find? l ≠ t.find? l → ¬ t.LeadsToDirectory l
  apart : ∀ l, t'.find? l ≠ t.find? l → ∀ inner, directory <+: inner → inner <+: place →
    ∀ linked linked', t.Visits [] (installedIn inner).names linked l →
      OnWay t t' (installedIn outer) linked' l → linked = false ∧ linked' = false

/-- Two paths that part at an outer directory do not meet again on the way of a script. -/
lemma isPrefix_of_ways {l : Location} (ha : outer <+: directory) (hne : outer ≠ directory)
    (hl : l <+: directory ++ installed.names) (hl' : l <+: outer ++ installed.names) :
    l <+: directory := by
  rcases List.prefix_or_prefix_of_prefix hl (List.prefix_append directory _) with h | h
  · exact h
  obtain ⟨front, rfl⟩ := h
  obtain ⟨back, rfl⟩ := ha
  cases front with
  | nil => simp
  | cons name front =>
    have hname : installed.names = Text.ofString "node_modules" :: installed.names.tail := by rfl
    have htail : Text.ofString "node_modules" ∉ installed.names.tail := by decide +kernel
    cases back with
    | nil => simp at hne
    | cons first back =>
      rw [List.prefix_append_right_inj, hname, List.cons_prefix_cons] at hl
      rw [List.append_assoc, List.prefix_append_right_inj, List.cons_append, hname,
        List.cons_prefix_cons, hl.1] at hl'
      refine absurd (hl'.2.subset ?_) htail
      exact List.mem_append_right _ List.mem_cons_self

lemma isProper_installedIn {t : FileTree} (h : t.IsDirectory directory) :
    ∀ name ∈ (installedIn directory).names, FileTree.IsProper name := by
  have hinstalled : ∀ name ∈ installed.names, FileTree.IsProper name := by decide +kernel
  intro name hm
  rcases List.mem_append.mp hm with hm | hm
  · exact h.isProper name hm
  · exact hinstalled name hm

/-- Where no link is on the way, a script that is made, taken away or replaced in an outer directory
is such a change. -/
lemma changedAround_of_not_linked {t t' : FileTree} (ha : outer <+: directory)
    (hne : outer ≠ directory) (hd : directory <+: place) (hp : t.IsDirectory place)
    (hdist : t.IsDirectory (outer ++ installed.names.dropLast))
    (hw : t.IsWritable (installedIn outer).names) (hw' : t'.IsWritable (installedIn outer).names)
    (hsame : ∀ l, l ≠ (installedIn outer).names → t'.find? l = t.find? l)
    (hlinks : ∀ inner, directory <+: inner → inner <+: place →
      ∀ front, front <+: (installedIn inner).names →
        ∀ text, t.find? front ≠ some (.link text)) :
    ChangedAround t t' place directory outer := by
  have hnames : (installedIn outer).names
      = (outer ++ installed.names.dropLast) ++ [Text.ofString "jshint.js"] := by
    rw [List.append_assoc]
    rfl
  have hscript : FileTree.IsProper (Text.ofString "jshint.js") := by decide +kernel
  have hproper := isProper_installedIn (hp.around (ha.trans hd))
  have hchange : ∀ l, t'.find? l ≠ t.find? l → l = (installedIn outer).names := by
    intro l hl
    by_contra hne
    exact hl (hsame l hne)
  -- the way of the script in the outer directory has no link, before the change and after it
  have hfront : ∀ front, front <+: (installedIn outer).names →
      ∀ text, t.find? front ≠ some (.link text) ∧ t'.find? front ≠ some (.link text) := by
    intro front hf text
    by_cases hl : front = (installedIn outer).names
    · constructor <;> intro he
      · obtain ⟨content, hc⟩ := hw _ (hl ▸ he)
        cases hc
      · obtain ⟨content, hc⟩ := hw' _ (hl ▸ he)
        cases hc
    · rw [hsame front hl, and_self]
      rw [hnames] at hf hl
      rw [(hdist.around ((List.prefix_concat_iff.mp hf).resolve_left hl)).find?_eq]
      nofun
  refine ⟨ha, hne, ?_, ?_, ?_⟩
  · intro l hl
    have hv : t.Visits [] _ false _ := hdist.visits (@FileTree.Visits.here t _ _ [] hscript)
    rw [← hnames] at hv
    rw [hchange l hl]
    exact ⟨false, .inl hv⟩
  · intro l hl
    rw [hchange l hl, hnames]
    exact hdist.not_leadsToDirectory hscript (hnames ▸ hw)
  · intro l _ inner hi hi' linked linked' hv ho
    refine ⟨hv.not_linked (isProper_installedIn (hp.around hi')) (hlinks inner hi hi'), ?_⟩
    rcases ho with ho | ho
    · exact ho.not_linked hproper fun front hf text => (hfront front hf text).1
    · exact ho.not_linked hproper fun front hf text => (hfront front hf text).2

/-- What is changed is not on the way of the script in the directory or in one further down. -/
lemma ChangedAround.agree {t t' : FileTree} {inner : Location}
    (h : ChangedAround t t' place directory outer) (hp : t.IsDirectory place)
    (hi : directory <+: inner) (hi' : inner <+: place) :
    t.Agree t' [] (installedIn inner).names := by
  intro linked l hv
  by_contra hne
  obtain ⟨linked', ho⟩ := h.onWay l hne
  obtain ⟨rfl, rfl⟩ := h.apart l hne inner hi hi' linked linked' hv ho
  have hinner : t.IsDirectory inner := hp.around hi'
  have houter : t.IsDirectory outer := hinner.around (h.around.trans hi)
  have hl : l <+: inner ++ installed.names := hv.isPrefix (isProper_installedIn hinner) rfl
  have hl' : l <+: outer ++ installed.names := by
    rcases ho with ho | ho
    · exact ho.isPrefix (isProper_installedIn houter) rfl
    · exact ho.isPrefix (isProper_installedIn houter) rfl
  have hne' : outer ≠ inner := by
    rintro rfl
    exact h.ne (h.around.eq_of_length_le hi.length_le)
  have hprefix := isPrefix_of_ways (h.around.trans hi) hne' hl hl'
  exact h.kept l hne (hinner.around hprefix).leadsToDirectory

/-- What is further up does not matter to a search that ends at a directory. -/
lemma IsNearest.findInstalled_changed {tree : FileTree} (h : IsNearest w place directory)
    (hc : ChangedAround w.tree tree place directory outer) (hw : w.tree.IsDirectory w.current)
    (hs : w.reach (start.getD w.currentPath) = .ok (place, some .directory))
    (hf : w.Fits (installedIn place)) :
    Script.findInstalled { w with tree } start = .ok (some (installedIn directory)) := by
  have hb : w.tree.IsDirectory (w.base (start.getD w.currentPath)) := Workspace.isDirectory_base hw
  have hends := (Workspace.ends_of_reach hs).2
  have hplace : w.tree.IsDirectory place := hends.isDirectory hb rfl
  -- the search starts at the same place
  have hs' : Workspace.reach { w with tree } (start.getD w.currentPath)
      = .ok (place, some .directory) := by
    rw [← hs]
    apply Workspace.reach_congr
    intro linked l hv
    by_contra hne
    exact hc.kept l hne (hends.leadsToDirectory hb rfl hv)
  -- and finds the same up to the directory
  have hsame : ∀ inner, directory <+: inner → inner <+: place →
      Workspace.isFile { w with tree } (installedIn inner) = w.isFile (installedIn inner) := by
    intro inner hi hi'
    rw [Workspace.isFile, Workspace.entry?, Workspace.isFile, Workspace.entry?,
      Workspace.reach_congr (hc.agree hplace hi hi')]
  rw [findInstalled_eq hs']
  apply firstInstalled_ancestors h.around
  · rw [hsame directory List.prefix_rfl h.around]
    exact Workspace.leadsToFile_iff.mp h.leads
  · intro inner hi hi' hne
    rw [hsame inner hi hi']
    apply (fits_installedIn hf hi').isFile_eq
    intro hl
    exact hne (h.nearest inner hi hi' hl)

end ScriptLint.Script
