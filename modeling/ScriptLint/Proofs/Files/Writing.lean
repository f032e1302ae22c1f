import Mathlib.Tactic.Common
import ScriptLint.Proofs.Files.Walking
import ScriptLint.Report.Format

/-!
# What was written is read

A path along which a file can be written leads to that file afterwards: the walk looks at the place
of the file last, since it may not go on from there, and finds all other places as they were.
-/

namespace ScriptLint

namespace FileTree

variable {t : FileTree} {place : Location}

lemma find?_put_self (hp : place ≠ []) (e : Entry) : (t.put place e).find? place = some e := by
  have hn : (t.entries.filter fun e => e.1 ≠ place).find? (fun e => e.1 = place) = none := by
    simp [List.find?_eq_none]
  rw [find?, if_neg hp, put, List.find?_append, hn]
  simp

lemma find?_put_of_ne {other : Location} (h : other ≠ place) (e : Entry) :
    (t.put place e).find? other = t.find? other := by
  have hf : (fun e : Location × Entry => decide (e.1 ≠ place) && decide (e.1 = other))
      = fun e => decide (e.1 = other) := by
    funext e
    by_cases he : e.1 = other <;> simp [he, h]
  simp only [find?, put, List.find?_append, List.find?_filter, Bool.decide_and,
    Bool.decide_eq_true, hf]
  simp [h.symm]

/-- Where the one walk ends at a place for a file, the other ends at a file that is there. -/
def Settles (t : FileTree) (place : Location) (content : List Byte) (walk walk' : Walk) : Prop :=
  ∀ base names found, walk base names = .ok (place, found) → found ≠ some .directory →
    place ≠ [] ∧ t.IsWritable place ∧ walk' base names = .ok (place, some (.file content))

variable {content : List Byte}

/-- A place that is looked at before the end is not the place of the file. -/
lemma find?_put_of_isWritable (h : t.IsWritable place) {other : Location} {e : Entry}
    (ho : t.find? other = some e) (he : ∀ content, e ≠ .file content) (new : Entry) :
    (t.put place new).find? other = some e := by
  rw [find?_put_of_ne _ new, ho]
  rintro rfl
  obtain ⟨content, rfl⟩ := h e ho
  exact he content rfl

lemma settles_walkWith {follow follow' : Walk} (hf : t.Settles place content follow follow') :
    t.Settles place content (t.walkWith follow)
      ((t.put place (.file content)).walkWith follow') := by
  intro base names found h hd
  induction names generalizing base with
  | nil =>
    cases h
    exact absurd rfl hd
  | cons name rest ih =>
    by_cases hdot : name = Path.dot
    · rw [walkWith, if_pos hdot] at h ⊢
      exact ih base h
    by_cases hup : name = Path.dotDot
    · rw [walkWith, if_neg hdot, if_pos hup] at h ⊢
      exact ih base.dropLast h
    by_cases hlong : maxName < Utf8.byteLength name
    · rw [walkWith, if_neg hdot, if_neg hup, if_pos hlong] at h
      cases h
    rw [walkWith_name hdot hup hlong] at h ⊢
    rcases hfind : t.find? (base ++ [name]) with _ | e <;> rw [hfind] at h
    · -- the place of the file, where nothing is yet
      dsimp only at h
      split_ifs at h with hrest
      cases h
      have hw : t.IsWritable (base ++ [name]) := by
        intro e he
        rw [hfind] at he
        cases he
      refine ⟨by simp, hw, ?_⟩
      rw [find?_put_self (by simp)]
      exact if_pos hrest
    · cases e with
      | directory =>
        obtain ⟨hp, hw, hs⟩ := ih _ h
        rw [find?_put_of_isWritable hw hfind (by simp)]
        exact ⟨hp, hw, hs⟩
      | link text =>
        obtain ⟨hp, hw, hs⟩ := hf _ _ _ h hd
        rw [find?_put_of_isWritable hw hfind (by simp)]
        exact ⟨hp, hw, hs⟩
      | file old =>
        dsimp only at h
        split_ifs at h with hrest
        cases h
        refine ⟨by simp, fun e he => ⟨old, Option.some.inj (he.symm.trans hfind)⟩, ?_⟩
        rw [find?_put_self (by simp)]
        exact if_pos hrest

/-- Through any number of links. -/
lemma settles_walk (t : FileTree) (place : Location) (content : List Byte) (links : Nat) :
    t.Settles place content (t.walk links) ((t.put place (.file content)).walk links) := by
  induction links with
  | zero => exact settles_walkWith fun _ _ _ h => by cases h
  | succ links ih => exact settles_walkWith ih

end FileTree

namespace Workspace

variable {w w' : Workspace} {p : Path}

lemma reach_put {place : Location} {found : Option Entry} (h : w.reach p = .ok (place, found))
    (hd : found ≠ some .directory) (content : List Byte) :
    reach { w with tree := w.tree.put place (.file content) } p
      = .ok (place, some (.file content)) := by
  rw [reach] at h ⊢
  rcases hc : check p.text with e | _ <;> rw [hc] at h
  · cases h
  · simp only [bind, Except.bind] at h ⊢
    split_ifs at h ⊢
    rcases hr : w.tree.reach (w.base p) p.names with fault | r <;> rw [hr] at h
    · cases h
    · cases h
      have hs := (w.tree.settles_walk place content FileTree.maxLinks _ _ _ hr hd).2.2
      rw [FileTree.reach]
      change Except.mapError _ ((w.tree.put place (.file content)).walk _ (w.base p) _) = _
      rw [hs]
      rfl

/-- A text that was written to a file is what the file holds. -/
lemma read_of_writeText {t : Text} (h : w.writeText p t = (w', .ok ())) :
    ∃ content, Utf8.encode t = .ok content ∧ w'.read p = .ok content := by
  rw [writeText] at h
  split at h
  · cases h
  · cases h
  · next place found hd hr =>
    rcases he : Utf8.encode t with e | content <;> rw [he] at h <;> cases h
    refine ⟨content, rfl, ?_⟩
    rw [read, reach_put hr hd]
    rfl

end Workspace

/-- A report that was written to a file is what the file holds. -/
lemma Report.read_of_write {r : Report} {f : Format} {p : Path} {w w' : Workspace}
    (h : r.write f p w = (w', .ok ())) : ∃ t content, r.render? f = some t ∧
      Utf8.encode t = .ok content ∧ w'.read p = .ok content := by
  rw [write] at h
  split at h
  · cases h
  next w₁ _ =>
    split at h
    · cases h
    next t ht =>
      rcases hw : w₁.writeText p t with ⟨w₂, err | _⟩ <;> rw [hw] at h <;> cases h
      obtain ⟨content, he, hread⟩ := Workspace.read_of_writeText hw
      exact ⟨t, content, ht, he, hread⟩

end ScriptLint
