import ScriptLint.Diagnostic.Record
import ScriptLint.Proofs.Json.Writable
import ScriptLint.Report.Document

/-!
# Reports are read back from their JSON documents

A record in the document for a report passes every check that a linter's record must pass, and
gives the diagnostic that it was written for. What a document cannot keep is a surrogate pair that
stands as two code points in a file name or in a line of evidence: it is read as one.
-/

namespace ScriptLint

open Json

/-- An object whose names are known. -/
lemma Json.Exact.of_keys {k : List Text} {ms : List (Text × Json)} (hm : Entries.keys ms = k)
    (hk : k.Nodup) (hs : ∀ name ∈ k, name.Separate)
    (h : ms.Forall fun m => m.2.Exact) : (Json.object ms).Exact := by
  subst hm
  exact .object hk (fun m hm => hs m.1 (List.mem_map_of_mem hm)) (List.forall_iff_forall_mem.mp h)

/-! ### Diagnostics -/

namespace Diagnostic

lemma asName_reason (d : Diagnostic) :
    (Datum.text d.reason).asName = .ok ⟨d.reason, d.reason_ne_nil, d.reason_encodable⟩ := by
  simp only [Datum.asName, Datum.asText, bind, Except.bind, d.reason_encodable, d.reason_ne_nil,
    Bool.false_eq_true, dite_false]

lemma asPosition_ofNat {n : Nat} (h : 1 ≤ n) : (Datum.int n).asPosition = .ok ⟨n, h⟩ := by
  have hn : (1 : Int) ≤ n := by omega
  simp only [Datum.asPosition, Datum.asInteger, bind, Except.bind, dif_pos hn, Int.toNat_natCast]

/-- The record of a diagnostic passes all checks and gives the diagnostic. -/
lemma ofRecord_toJson (d : Diagnostic) : ofRecord d.toJson = .ok d := by
  have hfields : ofFields ⟨some (.text d.reason), some (.text d.evidence), some (.int d.line),
      some (.int d.character)⟩ = .ok d := by
    simp only [ofFields, required, asName_reason, asPosition_ofNat d.line_pos,
      asPosition_ofNat d.character_pos, Datum.asText, Except.mapError, d.trim_evidence]
  show Except.mapError Malformed.flawed (ofFields _) = .ok d
  rw [hfields]
  rfl

/-- Records of different diagnostics are different. -/
lemma toJson_injective : Function.Injective toJson := by
  intro d d' h
  have hd := ofRecord_toJson d
  rw [h, ofRecord_toJson d'] at hd
  exact (Except.ok.inj hd).symm

/-- The record of a diagnostic can be read from a document. -/
structure Portable (d : Diagnostic) : Prop where
  evidence : d.evidence.Separate
  line : IsShort d.line
  character : IsShort d.character

lemma exact_toJson {d : Diagnostic} (h : d.Portable) : d.toJson.Exact := by
  have hr : d.reason.Separate := .of_not_isSurrogate (by simpa using d.reason_encodable)
  exact .of_keys (k := [("reason" : Text), "evidence", "line", "character"]) rfl (by decide)
    (by decide) ⟨.string hr, .string h.evidence, .int h.line, .int h.character⟩

end Diagnostic

/-! ### Results -/

/-- The errors listed in the entry for a result. -/
def listed : Json → List Json
  | .object ms =>
    match member ms "errors" with
    | .array errors => errors
    | _             => []
  | _ => []

/-- An entry has the name of a result, and the errors listed in it are accepted, one by one, as the
diagnostics of the result. -/
structure Carries (v : Json) (r : FileResult) : Prop where
  entry : ∃ ms, v = .object ms ∧ member ms "file" = .string r.file ∧
    member ms "errors" = .array (listed v)
  errors : (listed v).map Diagnostic.ofRecord = r.diagnostics.map .ok

namespace FileResult

lemma listed_toJson (r : FileResult) : listed r.toJson = r.diagnostics.map Diagnostic.toJson := rfl

lemma carries_toJson (r : FileResult) : Carries r.toJson r := by
  refine ⟨⟨_, rfl, rfl, rfl⟩, ?_⟩
  rw [listed_toJson, List.map_map]
  exact List.map_congr_left fun d _ => d.ofRecord_toJson

lemma toJson_injective : Function.Injective toJson := by
  intro r r' h
  simp only [toJson, Json.object.injEq, List.cons.injEq, Prod.mk.injEq, Json.string.injEq,
    Json.array.injEq, true_and, and_true] at h
  obtain ⟨hfile, hdiagnostics⟩ := h
  rw [FileResult.mk.injEq]
  exact ⟨hfile, List.map_injective_iff.mpr Diagnostic.toJson_injective hdiagnostics⟩

structure Portable (r : FileResult) : Prop where
  file : r.file.Separate
  diagnostics : ∀ d ∈ r.diagnostics, d.Portable

lemma exact_toJson {r : FileResult} (h : r.Portable) : r.toJson.Exact := by
  have hd : (Json.array (r.diagnostics.map Diagnostic.toJson)).Exact := by
    refine .array ?_
    rw [List.forall_mem_map]
    exact fun d hd => Diagnostic.exact_toJson (h.diagnostics d hd)
  exact .of_keys (k := [("file" : Text), "errors"]) rfl (by decide) (by decide)
    ⟨.string h.file, hd⟩

end FileResult

/-! ### Reports -/

namespace Report

lemma toJson_injective : Function.Injective toJson := by
  intro r r' h
  simp only [toJson, Json.object.injEq, List.cons.injEq, Prod.mk.injEq, Json.array.injEq,
    Json.int.injEq, true_and, and_true] at h
  rw [Report.mk.injEq]
  exact ⟨h.2.2.1, List.map_injective_iff.mpr FileResult.toJson_injective h.1⟩

/-- No pair of surrogates stands as two code points in a file name or in evidence, and no number
has too many digits. -/
structure Portable (r : Report) : Prop where
  expected : IsShort r.expected
  fileCount : IsShort r.fileCount
  errorCount : IsShort r.errorCount
  results : ∀ f ∈ r.results, f.Portable

lemma exact_toJson {r : Report} (h : r.Portable) : r.toJson.Exact := by
  have hfiles : (Json.array (r.results.map FileResult.toJson)).Exact := by
    refine .array ?_
    rw [List.forall_mem_map]
    exact fun f hf => FileResult.exact_toJson (h.results f hf)
  have hsummary : (Json.object [("files", .int r.fileCount), ("expected_files", .int r.expected),
      ("errors", .int r.errorCount), ("passed", .bool (r.errorCount = 0))]).Exact :=
    .of_keys (k := [("files" : Text), "expected_files", "errors", "passed"]) rfl (by decide)
      (by decide) ⟨.int h.fileCount, .int h.expected, .int h.errorCount, .bool _⟩
  exact .of_keys (k := [("files" : Text), "summary"]) rfl (by decide) (by decide)
    ⟨hfiles, hsummary⟩

lemma json?_eq {r : Report} (h : r.Portable) : r.json? = some (r.toJson.print (.indented 2)) :=
  print?_of_isWritable (exact_toJson h).isWritable _

lemma errorCount_eq_sum (r : Report) : r.errorCount
    = ((r.results.map FileResult.toJson).map fun v => (listed v).length).sum := by
  rw [errorCount, List.length_flatMap, List.map_map]
  congr 1
  exact List.map_congr_left fun f _ => (List.length_map _).symm

lemma errorCount_eq_zero (r : Report) : decide (r.errorCount = 0)
    = (r.results.map FileResult.toJson).all fun v => (listed v).isEmpty := by
  rw [Bool.eq_iff_iff, decide_eq_true_eq, errorCount, List.length_eq_zero_iff]
  simp [FileResult.listed_toJson]

end Report

/-- A report has a document, which is read as an object that lists the results in their order, each
with its name and with errors that are accepted as its diagnostics, and the numbers of both. So
reports with one document are one, if no pair of surrogates stands as two code points in their file
names and their evidence and no number is too long. -/
theorem Report.json_roundTrip {r : Report} (h : r.Portable) :
    (∃ t ms files summary, r.json? = some t ∧ Json.read t = .ok (.object ms) ∧
      member ms "files" = .array files ∧ member ms "summary" = .object summary ∧
      List.Forall₂ Carries files r.results ∧
      member summary "files" = .int r.results.length ∧
      member summary "expected_files" = .int r.expected ∧
      member summary "errors" = .int (files.map fun v => (listed v).length).sum ∧
      member summary "passed" = .bool (files.all fun v => (listed v).isEmpty)) ∧
    ∀ r' : Report, r'.Portable → r.json? = r'.json? → r = r' := by
  refine ⟨⟨_, _, _, _, json?_eq h, read_print (exact_toJson h) (.indented 2), rfl, rfl, ?_, rfl,
    rfl, ?_, ?_⟩, ?_⟩
  · rw [List.forall₂_map_left_iff, List.forall₂_same]
    exact fun f _ => f.carries_toJson
  · rw [← errorCount_eq_sum]
    rfl
  · rw [← errorCount_eq_zero]
    rfl
  · intro r' h' hj
    rw [json?_eq h, json?_eq h', Option.some.injEq] at hj
    have hr : Json.read (r.toJson.print (.indented 2)) = .ok r.toJson :=
      read_print (exact_toJson h) (.indented 2)
    rw [hj, read_print (exact_toJson h') (.indented 2)] at hr
    exact (toJson_injective (Except.ok.inj hr)).symm

/-- A diagnostic whose texts need every kind of escape. -/
def escapedDiagnostic : Diagnostic :=
  ⟨"\n", ("|\t\\" : Text) ++ [0x1F600, 0xDC00, 0xD800], 3, 4, by decide, by decide, by decide,
    by decide, by decide⟩

def escapedReport : Report := ⟨2, [⟨"a\"b", [escapedDiagnostic]⟩, ⟨"", []⟩]⟩

theorem Report.json_roundTrip_escaped :
    escapedReport.Portable ∧ ∃ t ms files, escapedReport.json? = some t ∧
      Json.read t = .ok (.object ms) ∧
      member ms "files" = .array files ∧ List.Forall₂ Carries files escapedReport.results := by
  have h : escapedReport.Portable := by
    refine ⟨by decide, by decide, by decide, ?_⟩
    rw [← List.forall_iff_forall_mem]
    have hd : ∀ d ∈ [escapedDiagnostic], d.Portable :=
      List.forall_mem_singleton.mpr ⟨by decide, by decide, by decide⟩
    exact ⟨⟨by decide, hd⟩, ⟨by decide, List.forall_mem_nil _⟩⟩
  obtain ⟨⟨t, ms, files, -, ht, hread, hfiles, -, hcarries, -⟩, -⟩ := Report.json_roundTrip h
  exact ⟨h, t, ms, files, ht, hread, hfiles, hcarries⟩

/-- A report of one diagnostic that is made of the fields a caller gives. -/
def evidenceReport (evidence : Text) : Except (List Flaw) Report := do
  let d ← Diagnostic.ofFields
    ⟨some (.text "r"), some (.text evidence), some (.int 1), some (.int 1)⟩
  let f ← FileResult.ofDatum (.text "a") [d]
  return ⟨1, [f]⟩

/-- Evidence may be a divided surrogate pair, which is written as the pair is. -/
theorem Report.json_eq_of_dividedPair : ∃ r r' t,
    evidenceReport [0xD800, 0xDC00] = .ok r ∧ evidenceReport [0x10000] = .ok r' ∧
      r.json? = some t ∧ r'.json? = some t ∧ r ≠ r' := by
  refine ⟨_, _, _, rfl, rfl, rfl, rfl, by decide⟩

end ScriptLint
