import Mathlib.Tactic.Common
import Mathlib.Tactic.SplitIfs
import ScriptLint.Files.Tree

/-!
# Walks through trees

How following names goes on at a name, where it ends, and which locations it looks at on the way. A
walk depends on these locations only: `walk_congr`. If it ends at a directory then each of them
leads to one.
-/

namespace ScriptLint.FileTree

/-- A way of following names. -/
abbrev Walk := Location → List Text → Except FileFault (Location × Option Entry)

/-- Whether there is nothing, or a file, at a place. -/
def IsWritable (t : FileTree) (place : Location) : Prop :=
  ∀ e, t.find? place = some e → ∃ content, e = .file content

variable {t t' : FileTree} {base place : Location} {name : Text} {names rest : List Text}
  {found : Option Entry} {follow : Walk}

/-! ### One name -/

lemma walkWith_dot : t.walkWith follow base (Path.dot :: rest) = t.walkWith follow base rest := by
  rw [walkWith, if_pos rfl]

lemma walkWith_dotDot :
    t.walkWith follow base (Path.dotDot :: rest) = t.walkWith follow base.dropLast rest := by
  rw [walkWith, if_neg (by decide), if_pos rfl]

lemma walkWith_of_long (hdot : name ≠ Path.dot) (hup : name ≠ Path.dotDot)
    (hlong : maxName < Utf8.byteLength name) :
    t.walkWith follow base (name :: rest) = .error .nameTooLong := by
  rw [walkWith, if_neg hdot, if_neg hup, if_pos hlong]

/-- How a walk goes on at a name that stands for an entry. -/
lemma walkWith_name (hdot : name ≠ Path.dot) (hup : name ≠ Path.dotDot)
    (hlong : ¬ maxName < Utf8.byteLength name) :
    t.walkWith follow base (name :: rest) =
      match t.find? (base ++ [name]) with
      | none => if rest = [] then .ok (base ++ [name], none) else .error .missing
      | some .directory => t.walkWith follow (base ++ [name]) rest
      | some (.link text) => follow (target base text).1 ((target base text).2 ++ rest)
      | some (.file content) =>
        if rest = [] then .ok (base ++ [name], some (.file content)) else .error .notDirectory := by
  rewrite [walkWith, if_neg hdot, if_neg hup, if_neg hlong]
  rfl

/-- Whether no link of a tree leads through a name that is too long. -/
def LinksFit (t : FileTree) : Prop :=
  ∀ place text, (place, .link text) ∈ t.entries →
    ∀ base, ∀ name ∈ (target base text).2, Utf8.byteLength name ≤ maxName

lemma mem_of_find? {e : Entry} (h : t.find? place = some e) (hp : place ≠ []) :
    (place, e) ∈ t.entries := by
  rw [find?, if_neg hp] at h
  obtain ⟨entry, he, rfl⟩ := Option.map_eq_some_iff.mp h
  have hplace : entry.1 = place := by simpa using List.find?_some he
  rw [← hplace]
  exact List.mem_of_find?_eq_some he

lemma walkWith_ne_nameTooLong
    (hf : ∀ base names, (∀ name ∈ names, Utf8.byteLength name ≤ maxName) →
      follow base names ≠ .error .nameTooLong)
    (ht : t.LinksFit) (hn : ∀ name ∈ names, Utf8.byteLength name ≤ maxName) :
    t.walkWith follow base names ≠ .error .nameTooLong := by
  induction names generalizing base with
  | nil => simp [walkWith]
  | cons name rest ih =>
    obtain ⟨hname, hrest⟩ := List.forall_mem_cons.mp hn
    by_cases hdot : name = Path.dot
    · rw [hdot, walkWith_dot]
      exact ih hrest
    by_cases hup : name = Path.dotDot
    · rw [hup, walkWith_dotDot]
      exact ih hrest
    rw [walkWith_name hdot hup (Nat.not_lt_of_le hname)]
    rcases he : t.find? (base ++ [name]) with _ | content | text | _ <;> dsimp only
    · split_ifs <;> simp
    · split_ifs <;> simp
    · apply hf
      intro name hm
      rcases List.mem_append.mp hm with hm | hm
      · exact ht _ text (mem_of_find? he (by simp)) base name hm
      · exact hrest name hm
    · exact ih hrest

/-- Where all names fit, none is refused. -/
lemma walk_ne_nameTooLong {links : Nat} (ht : t.LinksFit)
    (hn : ∀ name ∈ names, Utf8.byteLength name ≤ maxName) :
    t.walk links base names ≠ .error .nameTooLong := by
  induction links generalizing base names with
  | zero => exact walkWith_ne_nameTooLong (fun _ _ _ => nofun) ht hn
  | succ links ih => exact walkWith_ne_nameTooLong (fun _ _ hn => ih hn) ht hn

/-! ### Where a walk ends -/

/-- A name that stands for an entry. -/
structure IsProper (name : Text) : Prop where
  ne_dot : name ≠ Path.dot
  ne_dotDot : name ≠ Path.dotDot
  fits : Utf8.byteLength name ≤ maxName

instance (name : Text) : Decidable (IsProper name) :=
  decidable_of_iff
    (name ≠ Path.dot ∧ name ≠ Path.dotDot ∧ Utf8.byteLength name ≤ maxName)
    ⟨fun ⟨hdot, hup, h⟩ => ⟨hdot, hup, h⟩, fun ⟨hdot, hup, h⟩ => ⟨hdot, hup, h⟩⟩

/-- Following names from a directory ends at a location, with the entry that is there, or with none
if only the last name is missing. -/
inductive Ends (t : FileTree) : Location → List Text → Location → Option Entry → Prop
  | here {base : Location} : Ends t base [] base (some .directory)
  | dot {base place : Location} {rest : List Text} {found : Option Entry}
      (h : Ends t base rest place found) : Ends t base (Path.dot :: rest) place found
  | up {base place : Location} {rest : List Text} {found : Option Entry}
      (h : Ends t base.dropLast rest place found) : Ends t base (Path.dotDot :: rest) place found
  | down {base place : Location} {name : Text} {rest : List Text} {found : Option Entry}
      (hn : IsProper name) (he : t.find? (base ++ [name]) = some .directory)
      (h : Ends t (base ++ [name]) rest place found) : Ends t base (name :: rest) place found
  | link {base place : Location} {name text : Text} {rest : List Text} {found : Option Entry}
      (hn : IsProper name) (he : t.find? (base ++ [name]) = some (.link text))
      (h : Ends t (target base text).1 ((target base text).2 ++ rest) place found) :
      Ends t base (name :: rest) place found
  | missing {base : Location} {name : Text} (hn : IsProper name)
      (he : t.find? (base ++ [name]) = none) : Ends t base [name] (base ++ [name]) none
  | file {base : Location} {name : Text} {content : List Byte} (hn : IsProper name)
      (he : t.find? (base ++ [name]) = some (.file content)) :
      Ends t base [name] (base ++ [name]) (some (.file content))

lemma ends_of_walkWith
    (hf : ∀ base names, follow base names = .ok (place, found) → t.Ends base names place found)
    (h : t.walkWith follow base names = .ok (place, found)) : t.Ends base names place found := by
  induction names generalizing base with
  | nil =>
    cases h
    exact .here
  | cons name rest ih =>
    by_cases hdot : name = Path.dot
    · subst hdot
      rw [walkWith_dot] at h
      exact .dot (ih h)
    by_cases hup : name = Path.dotDot
    · subst hup
      rw [walkWith_dotDot] at h
      exact .up (ih h)
    by_cases hlong : maxName < Utf8.byteLength name
    · rw [walkWith_of_long hdot hup hlong] at h
      cases h
    have hn : IsProper name := ⟨hdot, hup, Nat.le_of_not_lt hlong⟩
    rw [walkWith_name hdot hup hlong] at h
    rcases he : t.find? (base ++ [name]) with _ | content | text | _ <;> rw [he] at h <;>
      dsimp only at h
    · split_ifs at h with hrest
      cases h
      subst hrest
      exact .missing hn he
    · split_ifs at h with hrest
      cases h
      subst hrest
      exact .file hn he
    · exact .link hn he (hf _ _ h)
    · exact .down hn he (ih h)

lemma ends_of_walk {links : Nat} (h : t.walk links base names = .ok (place, found)) :
    t.Ends base names place found := by
  induction links generalizing base names with
  | zero => exact ends_of_walkWith (fun _ _ h => by cases h) h
  | succ links ih => exact ends_of_walkWith (fun _ _ h => ih h) h

/-! ### What a walk looks at -/

/-- Following names from a directory, a walk looks at a location, before or after a link. -/
inductive Visits (t : FileTree) : Location → List Text → (linked : Bool) → Location → Prop
  | here {base : Location} {name : Text} {rest : List Text} (hn : IsProper name) :
      Visits t base (name :: rest) false (base ++ [name])
  | dot {base place : Location} {rest : List Text} {linked : Bool}
      (h : Visits t base rest linked place) : Visits t base (Path.dot :: rest) linked place
  | up {base place : Location} {rest : List Text} {linked : Bool}
      (h : Visits t base.dropLast rest linked place) :
      Visits t base (Path.dotDot :: rest) linked place
  | down {base place : Location} {name : Text} {rest : List Text} {linked : Bool}
      (hn : IsProper name) (he : t.find? (base ++ [name]) = some .directory)
      (h : Visits t (base ++ [name]) rest linked place) : Visits t base (name :: rest) linked place
  | link {base place : Location} {name text : Text} {rest : List Text} {linked : Bool}
      (hn : IsProper name) (he : t.find? (base ++ [name]) = some (.link text))
      (h : Visits t (target base text).1 ((target base text).2 ++ rest) linked place) :
      Visits t base (name :: rest) true place

lemma Visits.of_dot {linked : Bool} (h : t.Visits base (Path.dot :: rest) linked place) :
    t.Visits base rest linked place := by
  cases h with
  | dot h => exact h
  | here hn => exact absurd rfl hn.ne_dot
  | down hn => exact absurd rfl hn.ne_dot
  | link hn => exact absurd rfl hn.ne_dot

lemma Visits.of_dotDot {linked : Bool} (h : t.Visits base (Path.dotDot :: rest) linked place) :
    t.Visits base.dropLast rest linked place := by
  cases h with
  | up h => exact h
  | here hn => exact absurd rfl hn.ne_dotDot
  | down hn => exact absurd rfl hn.ne_dotDot
  | link hn => exact absurd rfl hn.ne_dotDot

/-- At a name, a walk looks at the entry, and at what follows from there. -/
lemma Visits.of_name {linked : Bool} (hn : IsProper name)
    (h : t.Visits base (name :: rest) linked place) :
    place = base ++ [name] ∨
      (t.find? (base ++ [name]) = some .directory ∧ t.Visits (base ++ [name]) rest linked place) ∨
      ∃ text linked', t.find? (base ++ [name]) = some (.link text) ∧
        t.Visits (target base text).1 ((target base text).2 ++ rest) linked' place := by
  cases h with
  | here => exact .inl rfl
  | dot => exact absurd rfl hn.ne_dot
  | up => exact absurd rfl hn.ne_dotDot
  | down _ he h => exact .inr (.inl ⟨he, h⟩)
  | link _ he h => exact .inr (.inr ⟨_, _, he, h⟩)

/-- Whether two trees have the same at every location that a walk looks at. -/
def Agree (t t' : FileTree) (base : Location) (names : List Text) : Prop :=
  ∀ linked place, t.Visits base names linked place → t'.find? place = t.find? place

lemma walkWith_congr {follow' : Walk}
    (hf : ∀ base names, t.Agree t' base names → follow' base names = follow base names)
    (h : t.Agree t' base names) :
    t'.walkWith follow' base names = t.walkWith follow base names := by
  induction names generalizing base with
  | nil => rfl
  | cons name rest ih =>
    by_cases hdot : name = Path.dot
    · subst hdot
      rw [walkWith_dot, walkWith_dot]
      apply ih
      intro linked place hv
      exact h linked place (.dot hv)
    by_cases hup : name = Path.dotDot
    · subst hup
      rw [walkWith_dotDot, walkWith_dotDot]
      apply ih
      intro linked place hv
      exact h linked place (.up hv)
    by_cases hlong : maxName < Utf8.byteLength name
    · rw [walkWith_of_long hdot hup hlong, walkWith_of_long hdot hup hlong]
    have hn : IsProper name := ⟨hdot, hup, Nat.le_of_not_lt hlong⟩
    rw [walkWith_name hdot hup hlong, walkWith_name hdot hup hlong, h false _ (.here hn)]
    rcases he : t.find? (base ++ [name]) with _ | content | text | _
    · rfl
    · rfl
    · apply hf
      intro linked place hv
      exact h true place (.link hn he hv)
    · apply ih
      intro linked place hv
      exact h linked place (.down hn he hv)

/-- A walk depends on the locations that it looks at. -/
lemma walk_congr {links : Nat} (h : t.Agree t' base names) :
    t'.walk links base names = t.walk links base names := by
  induction links generalizing base names with
  | zero => exact walkWith_congr (fun _ _ _ => rfl) h
  | succ links ih => exact walkWith_congr (fun _ _ h => ih h) h

/-- Before a link, a walk looks at first parts of what it follows. -/
lemma Visits.isPrefix {linked : Bool} (h : t.Visits base names linked place)
    (hn : ∀ name ∈ names, IsProper name) (hl : linked = false) : place <+: base ++ names := by
  induction h with
  | @here base name rest => exact ⟨rest, by simp⟩
  | dot => exact absurd rfl (hn _ List.mem_cons_self).ne_dot
  | up => exact absurd rfl (hn _ List.mem_cons_self).ne_dotDot
  | down _ _ _ ih =>
    rw [List.append_cons]
    exact ih (fun name h => hn name (List.mem_cons_of_mem _ h)) hl
  | link => cases hl

/-- Where no first part of what a walk follows is a link, it comes to none. -/
lemma Visits.not_linked {linked : Bool} (h : t.Visits base names linked place)
    (hn : ∀ name ∈ names, IsProper name)
    (ht : ∀ front, front <+: names → ∀ text, t.find? (base ++ front) ≠ some (.link text)) :
    linked = false := by
  induction h with
  | here => rfl
  | dot => exact absurd rfl (hn _ List.mem_cons_self).ne_dot
  | up => exact absurd rfl (hn _ List.mem_cons_self).ne_dotDot
  | @down base _ name rest _ _ _ _ ih =>
    apply ih fun name h => hn name (List.mem_cons_of_mem _ h)
    intro front hf text
    rw [← List.append_cons]
    exact ht (name :: front) (List.prefix_cons_inj name |>.mpr hf) text
  | @link base _ name text rest _ _ he =>
    exact absurd he (ht [name] (List.prefix_append [name] rest) text)

/-! ### Directories -/

/-- A location at which there is a directory, as at all those around it. -/
inductive IsDirectory (t : FileTree) : Location → Prop
  | root : IsDirectory t []
  | child {base : Location} {name : Text} (hd : IsDirectory t base) (hn : IsProper name)
      (he : t.find? (base ++ [name]) = some .directory) : IsDirectory t (base ++ [name])

/-- A location that is a directory, or leads to one. -/
def LeadsToDirectory (t : FileTree) (place : Location) : Prop :=
  ∃ other, t.Ends [] place other (some .directory)

lemma IsDirectory.find?_eq (h : t.IsDirectory base) : t.find? base = some .directory := by
  cases h with
  | root => rfl
  | child _ _ he => exact he

lemma IsDirectory.dropLast (h : t.IsDirectory base) : t.IsDirectory base.dropLast := by
  cases h with
  | root => exact .root
  | child hd =>
    rw [List.dropLast_concat]
    exact hd

lemma IsDirectory.around {front : Location} (h : t.IsDirectory base) (hf : front <+: base) :
    t.IsDirectory front := by
  induction h with
  | root =>
    rw [List.prefix_nil.mp hf]
    exact .root
  | child hd hn he ih =>
    rcases List.prefix_concat_iff.mp hf with rfl | hf
    · exact .child hd hn he
    · exact ih hf

lemma IsDirectory.isProper (h : t.IsDirectory base) : ∀ name ∈ base, IsProper name := by
  induction h with
  | root => simp
  | child hd hn he ih =>
    intro name hm
    rcases List.mem_append.mp hm with hm | hm
    · exact ih name hm
    · rw [List.mem_singleton.mp hm]
      exact hn

lemma IsDirectory.target {text : Text} (h : t.IsDirectory base) :
    t.IsDirectory (target base text).1 := by
  unfold FileTree.target
  dsimp only
  split_ifs
  · exact .root
  · exact h

/-- What follows the location of a directory is followed from there. -/
lemma IsDirectory.ends (h : t.IsDirectory base) (he : t.Ends base names place found) :
    t.Ends [] (base ++ names) place found := by
  induction h generalizing names with
  | root => exact he
  | child hd hn hc ih =>
    rw [List.append_assoc]
    exact ih (.down hn hc he)

lemma IsDirectory.visits {linked : Bool} (h : t.IsDirectory base)
    (hv : t.Visits base names linked place) : t.Visits [] (base ++ names) linked place := by
  induction h generalizing names with
  | root => exact hv
  | child hd hn hc ih =>
    rw [List.append_assoc]
    exact ih (.down hn hc hv)

lemma IsDirectory.of_ends (h : t.IsDirectory base) (he : t.Ends [] (base ++ names) place found) :
    t.Ends base names place found := by
  induction h generalizing names with
  | root => exact he
  | child hd hn hc ih =>
    rw [List.append_assoc] at he
    cases ih he with
    | dot => exact absurd rfl hn.ne_dot
    | up => exact absurd rfl hn.ne_dotDot
    | down _ _ he => exact he
    | link _ hc' => cases hc.symm.trans hc'
    | missing _ hc' => cases hc.symm.trans hc'
    | file _ hc' => cases hc.symm.trans hc'

lemma IsDirectory.leadsToDirectory (h : t.IsDirectory base) : t.LeadsToDirectory base := by
  have he := h.ends .here
  rw [List.append_nil] at he
  exact ⟨base, he⟩

/-- No path leads to a directory by a file, or by nothing. -/
lemma IsDirectory.not_leadsToDirectory (h : t.IsDirectory base) (hn : IsProper name)
    (hw : t.IsWritable (base ++ [name])) : ¬ t.LeadsToDirectory (base ++ [name]) := by
  rintro ⟨other, he⟩
  cases h.of_ends he with
  | dot => exact hn.ne_dot rfl
  | up => exact hn.ne_dotDot rfl
  | down _ he =>
    obtain ⟨content, hc⟩ := hw _ he
    cases hc
  | link _ he =>
    obtain ⟨content, hc⟩ := hw _ he
    cases hc

/-- The first of the names that lead to a directory lead to one too. -/
lemma Ends.front (h : t.Ends base names place found) (hd : found = some .directory) :
    ∀ front, front <+: names → ∃ mid, t.Ends base front mid (some .directory) := by
  induction h with
  | here =>
    intro front hf
    rw [List.prefix_nil.mp hf]
    exact ⟨_, .here⟩
  | dot h ih =>
    intro front hf
    rcases List.prefix_cons_iff.mp hf with rfl | ⟨front, rfl, hr⟩
    · exact ⟨_, .here⟩
    · obtain ⟨mid, hm⟩ := ih hd front hr
      exact ⟨mid, .dot hm⟩
  | up h ih =>
    intro front hf
    rcases List.prefix_cons_iff.mp hf with rfl | ⟨front, rfl, hr⟩
    · exact ⟨_, .here⟩
    · obtain ⟨mid, hm⟩ := ih hd front hr
      exact ⟨mid, .up hm⟩
  | down hn he h ih =>
    intro front hf
    rcases List.prefix_cons_iff.mp hf with rfl | ⟨front, rfl, hr⟩
    · exact ⟨_, .here⟩
    · obtain ⟨mid, hm⟩ := ih hd front hr
      exact ⟨mid, .down hn he hm⟩
  | link hn he h ih =>
    intro front hf
    rcases List.prefix_cons_iff.mp hf with rfl | ⟨front, rfl, hr⟩
    · exact ⟨_, .here⟩
    · obtain ⟨mid, hm⟩ := ih hd _ (List.prefix_append_right_inj _ |>.mpr hr)
      exact ⟨mid, .link hn he hm⟩
  | missing => cases hd
  | file => cases hd

/-- A walk ends at a directory only along directories. -/
lemma Ends.isDirectory (h : t.Ends base names place found) (hb : t.IsDirectory base)
    (hd : found = some .directory) : t.IsDirectory place := by
  induction h with
  | here => exact hb
  | dot h ih => exact ih hb hd
  | up h ih => exact ih hb.dropLast hd
  | down hn he h ih => exact ih (.child hb hn he) hd
  | link hn he h ih => exact ih hb.target hd
  | missing => cases hd
  | file => cases hd

/-- Whatever a walk looks at leads to a directory if the walk ends at one. -/
lemma Ends.leadsToDirectory (h : t.Ends base names place found) (hb : t.IsDirectory base)
    (hd : found = some .directory) {linked : Bool} {other : Location}
    (hv : t.Visits base names linked other) : t.LeadsToDirectory other := by
  induction h generalizing linked with
  | here => cases hv
  | dot h ih => exact ih hb hd hv.of_dot
  | up h ih => exact ih hb.dropLast hd hv.of_dotDot
  | down hn he h ih =>
    have hchild : t.IsDirectory _ := .child hb hn he
    rcases hv.of_name hn with rfl | ⟨-, hv⟩ | ⟨text, linked', he', -⟩
    · exact hchild.leadsToDirectory
    · exact ih hchild hd hv
    · cases he.symm.trans he'
  | link hn he h ih =>
    rcases hv.of_name hn with rfl | ⟨he', -⟩ | ⟨text, linked', he', hv⟩
    · obtain ⟨mid, hm⟩ := h.front hd _ (List.prefix_append _ _)
      rw [← List.append_nil (target _ _).2] at hm
      exact ⟨mid, hb.ends (.link hn he hm)⟩
    · cases he.symm.trans he'
    · cases he.symm.trans he'
      exact ih hb.target hd hv
  | missing => cases hd
  | file => cases hd

end ScriptLint.FileTree
