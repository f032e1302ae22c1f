import Mathlib.Data.List.Perm.Subperm
import ScriptLint.Files.Workspace
import ScriptLint.Proofs.Files.Walking

/-!
# A path that leads somewhere is resolved

Resolving a path gives up at a link that is being resolved already. A path that a walk follows to
its end does not come to such a link: resolving the names after a link takes fewer links than
resolving the link itself, and how many a path takes is determined. So as many links can be nested
as the tree has, and the result is the location at which the walk ends.
-/

namespace ScriptLint

namespace FileTree

variable {t : FileTree} {base place : Location} {names : List Text} {found : Option Entry}
  {links : Nat}

/-- Resolving names from a directory gives a location, and takes so many links. -/
inductive Resolves (t : FileTree) : Location → List Text → Location → (links : Nat) → Prop
  | here {base : Location} : Resolves t base [] base 0
  | dot {base place : Location} {rest : List Text} {links : Nat}
      (h : Resolves t base rest place links) : Resolves t base (Path.dot :: rest) place links
  | up {base place : Location} {rest : List Text} {links : Nat}
      (h : Resolves t base.dropLast rest place links) :
      Resolves t base (Path.dotDot :: rest) place links
  | down {base place : Location} {name : Text} {rest : List Text} {links : Nat}
      (hdot : name ≠ Path.dot) (hup : name ≠ Path.dotDot)
      (he : ∀ text, t.find? (base ++ [name]) ≠ some (.link text))
      (h : Resolves t (base ++ [name]) rest place links) :
      Resolves t base (name :: rest) place links
  | link {base mid place : Location} {name text : Text} {rest : List Text} {inner links : Nat}
      (hdot : name ≠ Path.dot) (hup : name ≠ Path.dotDot)
      (he : t.find? (base ++ [name]) = some (.link text))
      (ht : Resolves t (target base text).1 (target base text).2 mid inner)
      (h : Resolves t mid rest place links) :
      Resolves t base (name :: rest) place (inner + links + 1)

/-- Names are resolved one after the other. -/
lemma Resolves.split {rest : List Text} (h : t.Resolves base (names ++ rest) place links) :
    ∃ mid i j, t.Resolves base names mid i ∧ t.Resolves mid rest place j ∧ i + j = links := by
  induction names generalizing base links with
  | nil => exact ⟨base, 0, links, .here, h, Nat.zero_add links⟩
  | cons name names ih =>
    cases h with
    | dot h =>
      obtain ⟨mid, i, j, hi, hj, rfl⟩ := ih h
      exact ⟨mid, i, j, .dot hi, hj, rfl⟩
    | up h =>
      obtain ⟨mid, i, j, hi, hj, rfl⟩ := ih h
      exact ⟨mid, i, j, .up hi, hj, rfl⟩
    | down hdot hup he h =>
      obtain ⟨mid, i, j, hi, hj, rfl⟩ := ih h
      exact ⟨mid, i, j, .down hdot hup he hi, hj, rfl⟩
    | @link _ _ _ _ _ _ inner _ hdot hup he ht h =>
      obtain ⟨mid, i, j, hi, hj, rfl⟩ := ih h
      exact ⟨mid, inner + i + 1, j, .link hdot hup he ht hi, hj, by omega⟩

/-- What names resolve to is determined, and how many links it takes. -/
lemma Resolves.unique (h : t.Resolves base names place links) :
    ∀ {place' links'}, t.Resolves base names place' links' → place' = place ∧ links' = links := by
  induction h with
  | here =>
    intro place' links' h'
    cases h'
    exact ⟨rfl, rfl⟩
  | dot h ih =>
    intro place' links' h'
    cases h' with
    | dot h' => exact ih h'
    | down hdot => exact absurd rfl hdot
    | link hdot => exact absurd rfl hdot
  | up h ih =>
    intro place' links' h'
    cases h' with
    | up h' => exact ih h'
    | down _ hup => exact absurd rfl hup
    | link _ hup => exact absurd rfl hup
  | down hdot hup he h ih =>
    intro place' links' h'
    cases h' with
    | dot => exact absurd rfl hdot
    | up => exact absurd rfl hup
    | down _ _ _ h' => exact ih h'
    | link _ _ he' => exact absurd he' (he _)
  | link hdot hup he ht h iht ih =>
    intro place' links' h'
    cases h' with
    | dot => exact absurd rfl hdot
    | up => exact absurd rfl hup
    | down _ _ he' => exact absurd he (he' _)
    | link _ _ he' ht' h' =>
      cases he.symm.trans he'
      obtain ⟨rfl, rfl⟩ := iht ht'
      obtain ⟨rfl, rfl⟩ := ih h'
      exact ⟨rfl, rfl⟩

/-- Where a walk ends, names resolve to. -/
lemma Ends.resolves (h : t.Ends base names place found) :
    ∃ links, t.Resolves base names place links := by
  induction h with
  | here => exact ⟨0, .here⟩
  | dot h ih =>
    obtain ⟨links, h⟩ := ih
    exact ⟨links, .dot h⟩
  | up h ih =>
    obtain ⟨links, h⟩ := ih
    exact ⟨links, .up h⟩
  | down hn he h ih =>
    obtain ⟨links, h⟩ := ih
    exact ⟨links, .down hn.ne_dot hn.ne_dotDot (by simp [he]) h⟩
  | link hn he h ih =>
    obtain ⟨links, h⟩ := ih
    obtain ⟨mid, i, j, hi, hj, rfl⟩ := h.split
    exact ⟨i + j + 1, .link hn.ne_dot hn.ne_dotDot he hi hj⟩
  | missing hn he => exact ⟨0, .down hn.ne_dot hn.ne_dotDot (by simp [he]) .here⟩
  | file hn he => exact ⟨0, .down hn.ne_dot hn.ne_dotDot (by simp [he]) .here⟩

/-! ### The links that are being resolved -/

/-- Links that are being resolved while names are that take so many links: the tree can hold no
more of them than there is room for, and each takes more links itself. -/
structure Opened (t : FileTree) (opened : List Location) (room links : Nat) : Prop where
  nodup : opened.Nodup
  subset : opened ⊆ t.entries.map (·.1)
  room : opened.length + room = t.entries.length
  lt : ∀ base name, base ++ [name] ∈ opened →
    ∀ place inner, t.Resolves base [name] place inner → links < inner

variable {opened : List Location} {room : Nat}

lemma Opened.mono {links' : Nat} (h : t.Opened opened room links) (hl : links' ≤ links) :
    t.Opened opened room links' where
  nodup := h.nodup
  subset := h.subset
  room := h.room
  lt base name hm place inner hr := Nat.lt_of_le_of_lt hl (h.lt base name hm place inner hr)

/-- A link that takes no more links than that is not one that is being resolved. -/
lemma Opened.notMem {mid : Location} {name : Text} {inner : Nat} (h : t.Opened opened room links)
    (hr : t.Resolves base [name] mid inner) (hle : inner ≤ links) : base ++ [name] ∉ opened := by
  intro hm
  exact Nat.not_lt_of_le hle (h.lt base name hm mid inner hr)

/-- Such a link can be opened: there is room for it. -/
lemma Opened.cons {mid : Location} {name text : Text} {inner : Nat} (h : t.Opened opened room links)
    (he : t.find? (base ++ [name]) = some (.link text))
    (hr : t.Resolves base [name] mid (inner + 1)) (hle : inner + 1 ≤ links) :
    ∃ room', room = room' + 1 ∧ t.Opened ((base ++ [name]) :: opened) room' inner := by
  have hnodup : ((base ++ [name]) :: opened).Nodup :=
    List.nodup_cons.mpr ⟨h.notMem hr hle, h.nodup⟩
  have hsubset : ((base ++ [name]) :: opened) ⊆ t.entries.map (·.1) :=
    List.cons_subset.mpr ⟨List.mem_map_of_mem (mem_of_find? he (by simp)), h.subset⟩
  have hlength := (hnodup.subperm hsubset).length_le
  rw [List.length_cons, List.length_map, ← h.room] at hlength
  obtain ⟨room', rfl⟩ : ∃ room', room = room' + 1 := ⟨room - 1, by omega⟩
  refine ⟨room', rfl, hnodup, hsubset, ?_, ?_⟩
  · have hroom := h.room
    rw [List.length_cons]
    omega
  · intro base' name' hm place' inner' hr'
    rcases List.mem_cons.mp hm with heq | hm
    · -- the link itself
      obtain ⟨rfl, hname⟩ := List.append_inj' heq rfl
      cases hname
      rw [(hr.unique hr').2]
      exact Nat.lt_succ_self inner
    · have hlt := h.lt base' name' hm place' inner' hr'
      omega

/-- Names are resolved while links are open. -/
lemma Resolves.resolveWith (h : t.Resolves base names place links) :
    ∀ {opened room}, t.Opened opened room links →
      t.resolveWith opened (t.resolve room) base names = .ok place := by
  induction h with
  | here =>
    intro opened room ho
    rfl
  | dot h ih =>
    intro opened room ho
    rw [FileTree.resolveWith, if_pos rfl]
    exact ih ho
  | up h ih =>
    intro opened room ho
    rw [FileTree.resolveWith, if_neg (by decide), if_pos rfl]
    exact ih ho
  | down hdot hup he h ih =>
    intro opened room ho
    rw [FileTree.resolveWith, if_neg hdot, if_neg hup]
    dsimp only
    split
    · next he' => exact absurd he' (he _)
    · exact ih ho
  | @link base mid place name text rest inner links hdot hup he ht h iht ih =>
    intro opened room ho
    have hr : t.Resolves base [name] mid (inner + 1) := .link hdot hup he ht .here
    have hle : inner + 1 ≤ inner + links + 1 := by omega
    obtain ⟨room', rfl, ho'⟩ := ho.cons he hr hle
    rw [FileTree.resolveWith, if_neg hdot, if_neg hup]
    dsimp only
    rw [he]
    dsimp only
    rw [if_neg (by simpa using ho.notMem hr hle), resolve, iht ho']
    exact ih (ho.mono (by omega))

/-- As many links can be nested as there are entries. -/
lemma Ends.resolve (h : t.Ends base names place found) :
    t.resolve (t.entries.length + 1) [] base names = .ok place := by
  obtain ⟨links, hr⟩ := h.resolves
  have ho : t.Opened [] t.entries.length links :=
    ⟨List.nodup_nil, List.nil_subset _, Nat.zero_add _, by simp⟩
  exact hr.resolveWith ho

end FileTree

namespace Workspace

variable {w : Workspace} {p : Path} {place : Location} {found : Option Entry}

lemma ends_of_reach (h : w.reach p = .ok (place, found)) :
    check p.text = .ok () ∧ w.tree.Ends (w.base p) p.names place found := by
  rw [reach] at h
  rcases hc : check p.text with e | _ <;> rw [hc] at h
  · cases h
  · dsimp only [bind, Except.bind] at h
    split_ifs at h
    rcases hr : w.tree.reach (w.base p) p.names with fault | r <;> rw [hr] at h <;> cases h
    exact ⟨rfl, FileTree.ends_of_walk hr⟩

lemma isDirectory_base (h : w.tree.IsDirectory w.current) : w.tree.IsDirectory (w.base p) := by
  rw [base]
  split_ifs
  · exact .root
  · exact h

/-- What a path leads to depends on the locations that its walk looks at. -/
lemma reach_congr {tree : FileTree} (h : w.tree.Agree tree (w.base p) p.names) :
    reach { w with tree } p = w.reach p := by
  have hr : tree.reach (w.base p) p.names = w.tree.reach (w.base p) p.names :=
    FileTree.walk_congr h
  rw [reach, reach]
  change (do check p.text; if _ then _ else (tree.reach (w.base p) p.names).mapError _) = _
  rw [hr]

/-- A path that leads somewhere is resolved to where it leads. -/
lemma resolve_of_reach (h : w.reach p = .ok (place, found)) :
    w.resolve p = .ok ⟨.slash, place⟩ := by
  obtain ⟨hc, he⟩ := ends_of_reach h
  rw [resolve, hc]
  dsimp only [bind, Except.bind]
  rw [he.resolve]
  rfl

end Workspace

end ScriptLint
