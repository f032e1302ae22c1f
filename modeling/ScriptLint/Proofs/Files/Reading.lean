import Mathlib.Tactic.Common
import Mathlib.Tactic.SplitIfs
import ScriptLint.Files.Workspace
import ScriptLint.Proofs.Files.Walking

/-!
# Looking for files and reading them

A path that cannot be handed to the file system leads nowhere, but it is an error to read from it.
Any other path is read or refused. Only what is too long keeps a file from being looked for.
-/

namespace ScriptLint

/-! ### The length of a path -/

lemma Utf8.byteLength_append (t u : Text) : byteLength (t ++ u) = byteLength t + byteLength u := by
  have shift : ∀ (u : Text) (n : Nat),
      u.foldl (fun n c => n + if c.isLowSurrogate then 1 else (octets c).length) n
        = n + byteLength u := by
    intro u
    induction u with
    | nil => exact fun _ => rfl
    | cons c u ih =>
      intro n
      rw [byteLength, List.foldl_cons, List.foldl_cons, ih, ih, Nat.zero_add, Nat.add_assoc]
  rw [byteLength, List.foldl_append, shift]
  rfl

lemma Path.text_slash {names : List Text} (hn : names ≠ []) :
    Path.text ⟨.slash, names⟩ = names.flatMap ([slash] ++ ·) := by
  cases names with
  | nil => exact absurd rfl hn
  | cons name names =>
    change [slash] ++ Text.join [slash] (name :: names) = _
    rw [Text.join_cons, List.flatMap_cons, List.append_assoc]

/-- A path from the root is longer than one of only some of its names. -/
lemma Path.byteLength_text_le {names names' : List Text} (hs : names'.Sublist names)
    (hn : names' ≠ []) :
    Utf8.byteLength (Path.text ⟨.slash, names'⟩) ≤ Utf8.byteLength (Path.text ⟨.slash, names⟩) := by
  have hne : names ≠ [] := by
    rintro rfl
    exact hn (List.sublist_nil.mp hs)
  rw [text_slash hn, text_slash hne]
  clear hn hne
  induction hs with
  | slnil => exact Nat.le_refl _
  | cons name _ ih =>
    rw [List.flatMap_cons, Utf8.byteLength_append]
    exact Nat.le_add_left_of_le ih
  | cons_cons name _ ih =>
    simp only [List.flatMap_cons, Utf8.byteLength_append] at ih ⊢
    exact Nat.add_le_add_left ih _

namespace Workspace

variable {w : Workspace} {p : Path} {t : Text} {e : FileError}

/-- A path that cannot be handed to the file system holds a NUL or has no encoded form. -/
lemma eq_of_check (h : check t = .error e) : e = .nullByte ∨ ∃ e', e = .unencodablePath e' := by
  rw [check] at h
  split at h
  · cases h
    exact .inr ⟨_, rfl⟩
  · split at h <;> cases h
    exact .inl rfl

/-- Nothing on the way of a path is too long: not the path, nor a name of it or of a link. -/
structure Fits (w : Workspace) (p : Path) : Prop where
  text : Utf8.byteLength p.text < FileTree.maxPath
  names : ∀ name ∈ p.names, Utf8.byteLength name ≤ FileTree.maxName
  links : w.tree.LinksFit

lemma Fits.sublist {names names' : List Text} (h : w.Fits ⟨.slash, names⟩)
    (hs : names'.Sublist names) (hn : names' ≠ []) : w.Fits ⟨.slash, names'⟩ where
  text := Nat.lt_of_le_of_lt (Path.byteLength_text_le hs hn) h.text
  names name hm := h.names name (hs.subset hm)
  links := h.links

lemma Fits.reach_ne_nameTooLong (h : w.Fits p) {path : Text} :
    w.reach p ≠ .error (.refused .nameTooLong path) := by
  rw [reach]
  rcases hc : check p.text with e | _
  · obtain rfl | ⟨e', rfl⟩ := eq_of_check hc <;> simp [bind, Except.bind]
  · dsimp only [bind, Except.bind]
    rw [if_neg (Nat.not_le_of_lt h.text)]
    have hr : w.tree.reach (w.base p) p.names ≠ .error .nameTooLong :=
      FileTree.walk_ne_nameTooLong h.links h.names
    intro he
    rcases hf : w.tree.reach (w.base p) p.names with fault | r <;> rw [hf] at he hr <;> cases he
    exact hr rfl

/-! ### Looking for a file -/

/-- Whether a path leads to a file. -/
def LeadsToFile (w : Workspace) (p : Path) : Prop :=
  ∃ here content, w.reach p = .ok (here, some (.file content))

/-- A path leads to a file if and only if it can be read. -/
lemma isFile_iff : w.isFile p = .ok true ↔ ∃ content, w.read p = .ok content := by
  rw [isFile, entry?, read]
  rcases w.reach p with (⟨fault, path⟩ | _ | _ | _ | _ | _ | _) | ⟨here, _ | content | _ | _⟩
  · cases fault <;> simp [bind, Except.bind, pure, Except.pure]
  all_goals simp [bind, Except.bind, pure, Except.pure]

lemma leadsToFile_iff : w.LeadsToFile p ↔ w.isFile p = .ok true := by
  rw [isFile_iff, LeadsToFile, read]
  rcases w.reach p with e | ⟨here, _ | content | _ | _⟩ <;> simp [bind, Except.bind]

lemma entry?_of_isFile (h : w.isFile p = .error e) : w.entry? p = .error e := by
  rw [isFile] at h
  rcases he : w.entry? p with e' | found <;> rw [he] at h
  · cases h
    rfl
  · dsimp only [bind, Except.bind] at h
    split at h <;> cases h

/-- Only a name that is too long keeps a file from being looked for. -/
lemma eq_of_isFile (h : w.isFile p = .error e) : ∃ path, e = .refused .nameTooLong path := by
  have he := entry?_of_isFile h
  unfold entry? at he
  split at he <;> cases he
  exact ⟨_, rfl⟩

lemma Fits.isFile_eq (h : w.Fits p) (hf : ¬ w.LeadsToFile p) : w.isFile p = .ok false := by
  rcases hi : w.isFile p with e | _ | _
  · have he := entry?_of_isFile hi
    unfold entry? at he
    split at he
    · cases he
    · next hr => exact absurd hr h.reach_ne_nameTooLong
    · cases he
  · rfl
  · exact absurd (leadsToFile_iff.mpr hi) hf

lemma read_of_check (h : check p.text = .error e) : w.read p = .error e := by
  rw [read, reach, h]
  rfl

/-- A path that can be handed to the file system is read or refused. -/
lemma eq_of_read (hc : check p.text = .ok ()) (h : w.read p = .error e) :
    ∃ fault, e = .refused fault p.text := by
  rw [read, reach, hc] at h
  dsimp only [bind, Except.bind] at h
  split_ifs at h
  · cases h
    exact ⟨_, rfl⟩
  · rcases hr : w.tree.reach (w.base p) p.names with fault | ⟨here, _ | _ | _ | _⟩ <;>
      rw [hr] at h <;> cases h <;> exact ⟨_, rfl⟩

/-! ### Reading a file -/

lemma readText_of_undecodable {content : List Byte} {e : Utf8.DecodeError}
    (hc : w.read p = .ok content) (hd : Utf8.decode content = .error e) :
    w.readText p = .error (.undecodable e) := by
  rw [readText, hc]
  dsimp only [bind, Except.bind]
  rw [hd]

lemma readText_of_decoded {content : List Byte} (hc : w.read p = .ok content)
    (hd : Utf8.decode content = .ok t) : w.readText p = .ok t.unifyLineEnds := by
  rw [readText, hc]
  dsimp only [bind, Except.bind]
  rw [hd]

end Workspace

end ScriptLint
