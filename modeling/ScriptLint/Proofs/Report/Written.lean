import Mathlib.Tactic.Common
import ScriptLint.Proofs.Json.Writable
import ScriptLint.Report.Format

/-!
# Which reports can be written

A plain report or an XML document is given just if the line and the character of every diagnostic
can be written. What it is then is given here without the ways out, as `plain` and `xml`; the
equations `plain?_eq` and `xml?_eq` say so. A JSON document has the numbers of the report itself
besides.
-/

namespace ScriptLint

/-- Something is made of all items of a list just if it can be made of each. -/
lemma mapM_eq_ite {α β : Type} {f : α → Option β} {p : α → Prop} [DecidablePred p] {g : α → β}
    (h : ∀ x, f x = if p x then some (g x) else none) {q : Prop} [Decidable q] {xs : List α}
    (hq : q ↔ ∀ x ∈ xs, p x) : xs.mapM f = if q then some (xs.map g) else none := by
  induction xs generalizing q with
  | nil => exact (if_pos (hq.mpr (List.forall_mem_nil _))).symm
  | cons x xs ih =>
    rw [List.forall_mem_cons] at hq
    rw [List.mapM_cons, h, ih Iff.rfl]
    by_cases hx : p x
    · by_cases hxs : ∀ y ∈ xs, p y
      · rw [if_pos hx, if_pos hxs, if_pos (hq.mpr ⟨hx, hxs⟩)]
        rfl
      · rw [if_pos hx, if_neg hxs, if_neg fun h => hxs (hq.mp h).2]
        rfl
    · rw [if_neg hx, if_neg fun h => hx (hq.mp h).1]
      rfl

/-! ### What can be written -/

/-- Whether the line and the character of a diagnostic can be written. -/
def Diagnostic.IsWritable (d : Diagnostic) : Prop := IsShort d.line ∧ IsShort d.character

instance : DecidablePred Diagnostic.IsWritable := fun _ => inferInstanceAs (Decidable (_ ∧ _))

/-- What is made of the line and the character of a diagnostic. -/
lemma Diagnostic.position?_eq {α : Type} (d : Diagnostic) (f : Text → Text → α) :
    (do let line ← Text.ofInt? d.line
        let character ← Text.ofInt? d.character
        return f line character)
      = if d.IsWritable then some (f (Text.ofNat d.line) (Text.ofNat d.character)) else none := by
  by_cases h : d.IsWritable
  · rw [if_pos h, Text.ofInt?_of_isShort h.1, Text.ofInt?_of_isShort h.2]
    rfl
  · rw [if_neg h]
    by_cases hl : IsShort d.line
    · rw [Text.ofInt?_of_isShort hl, Text.ofInt?_of_not_isShort fun hc => h ⟨hl, hc⟩]
      rfl
    · rw [Text.ofInt?_of_not_isShort hl]
      rfl

/-- Whether all diagnostics of a result can be written. -/
def FileResult.IsWritable (r : FileResult) : Prop := ∀ d ∈ r.diagnostics, d.IsWritable

instance : DecidablePred FileResult.IsWritable := fun r =>
  inferInstanceAs (Decidable (∀ d ∈ r.diagnostics, d.IsWritable))

/-- Whether all diagnostics of a report can be written. -/
def Report.IsWritable (r : Report) : Prop := ∀ f ∈ r.results, f.IsWritable

instance : DecidablePred Report.IsWritable := fun r =>
  inferInstanceAs (Decidable (∀ f ∈ r.results, f.IsWritable))

/-- Only failed results have diagnostics. -/
lemma Report.isWritable_iff_failed (r : Report) :
    r.IsWritable ↔ ∀ f ∈ r.failed, f.IsWritable := by
  constructor
  · exact fun h f hf => h f (List.mem_filter.mp hf).1
  · intro h f hf
    by_cases he : f.hasErrors = true
    · exact h f (List.mem_filter.mpr ⟨hf, he⟩)
    · have hd : f.diagnostics = [] := by simpa [FileResult.hasErrors] using he
      intro d hm
      rw [hd] at hm
      cases hm

/-! ### Plain reports -/

/-- The line of a diagnostic that can be written. -/
def Diagnostic.text (d : Diagnostic) : Text :=
  d.reason ++ " (evidence: " ++ d.evidence ++ ") at line " ++ Text.ofNat d.line ++ ", character " ++
    Text.ofNat d.character

lemma Diagnostic.text?_eq (d : Diagnostic) :
    d.text? = if d.IsWritable then some d.text else none :=
  d.position?_eq _

/-- The lines of a result that can be written. -/
def FileResult.lines (r : FileResult) : List Text :=
  Text.fileFailure r.file :: r.diagnostics.map Diagnostic.text

lemma FileResult.lines?_eq (r : FileResult) :
    r.lines? = if r.IsWritable then some r.lines else none := by
  rw [lines?, mapM_eq_ite Diagnostic.text?_eq (Iff.refl r.IsWritable), bind_pure_comp]
  exact Option.map_if

namespace Report

def plainLines (r : Report) : List Text := r.failed.flatMap FileResult.lines ++ [r.summary]

/-- The plain text of a report that can be written. -/
def plain (r : Report) : Text := Text.join "\n" r.plainLines

lemma plain?_eq (r : Report) : r.plain? = if r.IsWritable then some r.plain else none := by
  rw [plain?, plainLines?, mapM_eq_ite FileResult.lines?_eq r.isWritable_iff_failed,
    bind_pure_comp, Option.map_eq_map, Option.map_if, Option.map_if]
  rfl

lemma plain?_eq_some_iff {r : Report} {t : Text} :
    r.plain? = some t ↔ r.IsWritable ∧ r.plain = t := by
  rw [plain?_eq, Option.ite_none_right_eq_some, Option.some.injEq]

lemma plain?_eq_none_iff {r : Report} : r.plain? = none ↔ ¬ r.IsWritable := by
  rw [plain?_eq]
  split <;> simp [*]

end Report

/-! ### XML documents -/

namespace Xml

/-- The element of a diagnostic that can be written. -/
def issue (d : Diagnostic) : Text :=
  "<issue" ++ attr "line" (Text.ofNat d.line) ++ attr "char" (Text.ofNat d.character) ++
    attr "reason" d.reason ++ attr "evidence" d.evidence ++ "/>"

/-- The lines of the element of a result that can be written. -/
def fileLines (r : FileResult) : List Text :=
  ("    <file" ++ attr "name" r.file ++ ">") ::
    (r.diagnostics.map fun d => Text.spaces 8 ++ issue d) ++ [("    </file>" : Text)]

end Xml

namespace Report

def xmlLines (r : Report) : List Text :=
  Xml.header :: "<jshint>" :: r.results.flatMap Xml.fileLines ++ [("</jshint>" : Text)]

/-- The document for a report that can be written. -/
def xml (r : Report) : Text := Text.join "\n" r.xmlLines

end Report

/-! ### JSON documents -/

lemma Diagnostic.isWritable_toJson {d : Diagnostic} (h : d.IsWritable) :
    d.toJson.isWritable = true := by
  rw [toJson, Json.isWritable_object_iff, ← List.forall_iff_forall_mem]
  exact ⟨rfl, rfl, (Json.isWritable_int_iff _).mpr h.1, (Json.isWritable_int_iff _).mpr h.2⟩

lemma FileResult.isWritable_toJson {r : FileResult} (h : r.IsWritable) :
    r.toJson.isWritable = true := by
  rw [toJson, Json.isWritable_object_iff, ← List.forall_iff_forall_mem]
  refine ⟨rfl, (Json.isWritable_array_iff _).mpr ?_⟩
  rw [List.forall_mem_map]
  exact fun d hd => Diagnostic.isWritable_toJson (h d hd)

namespace Report

/-- Whether the numbers of a report itself can be written. -/
structure HasShortCounts (r : Report) : Prop where
  expected : IsShort r.expected
  files : IsShort r.fileCount
  errors : IsShort r.errorCount

lemma isWritable_toJson {r : Report} (h : r.IsWritable) (hc : r.HasShortCounts) :
    r.toJson.isWritable = true := by
  rw [toJson, Json.isWritable_object_iff, ← List.forall_iff_forall_mem]
  refine ⟨(Json.isWritable_array_iff _).mpr ?_, ?_⟩
  · rw [List.forall_mem_map]
    exact fun f hf => FileResult.isWritable_toJson (h f hf)
  · refine (Json.isWritable_object_iff _).mpr ?_
    rw [← List.forall_iff_forall_mem]
    exact ⟨(Json.isWritable_int_iff _).mpr hc.files, (Json.isWritable_int_iff _).mpr hc.expected,
      (Json.isWritable_int_iff _).mpr hc.errors, rfl⟩

end Report

end ScriptLint
