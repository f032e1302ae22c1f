import ScriptLint.Interpreter.Scripted
import ScriptLint.Proofs.Interpreter.Engine
import ScriptLint.Proofs.Json.RoundTrip
import ScriptLint.Proofs.Session.Steps
import ScriptLint.Proofs.Text.Utf8

/-!
# Values in sources

A value that is bound to a global passes into the interpreter as a document within a source. The
source can be taken apart in one way only, so that neither a name nor a value adds to it, and the
document is read as the value.
-/

namespace ScriptLint

/-! ### Values as callers give them -/

mutual

/-- A JSON value as one from a caller. -/
def Datum.ofJson : Json → Datum
  | .null      => .null
  | .bool b    => .bool b
  | .int n     => .int n
  | .float x   => .float x
  | .string t  => .text t
  | .array vs  => .list (ofJsonItems vs)
  | .object ms => .mapping (ofJsonMembers ms)

def Datum.ofJsonItems : List Json → List Datum
  | []      => []
  | v :: vs => ofJson v :: ofJsonItems vs

def Datum.ofJsonMembers : List (Text × Json) → List (Datum × Datum)
  | []              => []
  | (name, v) :: ms => (.text name, ofJson v) :: ofJsonMembers ms

end

mutual

/-- A value whose integers can be written has a JSON form: itself. -/
lemma Datum.toJson_ofJson {v : Json} (h : v.isWritable = true) : (ofJson v).toJson = .ok v := by
  cases v with
  | int n => exact if_pos ((Json.isWritable_int_iff n).mp h)
  | array vs =>
    rw [Json.isWritable] at h
    rw [ofJson, toJson, toJsonItems_ofJson h]
    rfl
  | object ms =>
    rw [Json.isWritable] at h
    rw [ofJson, toJson, toJsonMembers_ofJson h]
    rfl
  | _ => rfl

lemma Datum.toJsonItems_ofJson {vs : List Json} (h : Json.areWritable vs = true) :
    toJsonItems (ofJsonItems vs) = .ok vs := by
  cases vs with
  | nil => rfl
  | cons v vs =>
    obtain ⟨hv, hvs⟩ := Bool.and_eq_true_iff.mp h
    rw [ofJsonItems, toJsonItems, toJson_ofJson hv, toJsonItems_ofJson hvs]
    rfl

lemma Datum.toJsonMembers_ofJson {ms : List (Text × Json)} (h : Json.membersAreWritable ms = true) :
    toJsonMembers (ofJsonMembers ms) = .ok ms := by
  cases ms with
  | nil => rfl
  | cons m ms =>
    obtain ⟨name, v⟩ := m
    obtain ⟨hv, hms⟩ := Bool.and_eq_true_iff.mp h
    rw [ofJsonMembers, toJsonMembers, memberName, toJson_ofJson hv, toJsonMembers_ofJson hms]
    rfl

end

namespace Engine

open Json.Reader

/-! ### Assignments -/

/-- The source that assigns the value of one document to the global named by another. -/
def assignment (n d : Text) : Text := "globalThis[" ++ n ++ "] = " ++ d ++ ";"

lemma bindingSource_eq (name : Text) (v : Json) :
    bindingSource name v = assignment (Json.printText name) (v.print .inline) := rfl

/-- What follows a document that is a string begins after the quote that closes the string. -/
lemma skip_afterClosing {n name : Text} (h : Json.read n = .ok (.string name)) (u : Text) :
    (Json.afterClosing (skip (n ++ 0x5D :: u)).tail).map skip = some (0x5D :: u) := by
  obtain ⟨t, rest, ht, hc, hb⟩ := Json.exists_of_read_eq_string h
  have hs : skip (n ++ 0x5D :: u) = 0x22 :: (t ++ 0x5D :: u) := by
    rw [skip, List.dropWhile_append, show n.dropWhile isBlank = 0x22 :: t from ht]
    rfl
  rw [hs, List.tail_cons, Json.afterClosing_append hc, Option.map_some, Json.skip_append hb,
    Json.skip_cons rfl]

/-- An assignment is made of its documents in one way only. -/
lemma assignment_inj {n d n' d' name name' : Text} (hn : Json.read n = .ok (.string name))
    (hn' : Json.read n' = .ok (.string name')) (h : assignment n d = assignment n' d') :
    n = n' ∧ d = d' := by
  simp only [assignment, List.append_assoc, List.append_cancel_left_eq] at h
  replace h : n ++ 0x5D :: 0x20 :: 0x3D :: 0x20 :: (d ++ [0x3B])
      = n' ++ 0x5D :: 0x20 :: 0x3D :: 0x20 :: (d' ++ [0x3B]) := h
  -- both names end at the same quote, so the same text follows them
  have hu := skip_afterClosing hn (0x20 :: 0x3D :: 0x20 :: (d ++ [0x3B]))
  rw [h, skip_afterClosing hn'] at hu
  have hu := Option.some.inj hu
  rw [hu] at h
  exact ⟨List.append_cancel_right h, by simpa using hu.symm⟩

/-! ### What is sent and read -/

/-- A source assigns the value of the document `d` to a global and does no more: it is written in
printable ASCII, and in whatever way it is taken apart as an assignment, these are its documents. -/
structure Assigns (source name d : Text) (v : Json) : Prop where
  plain : ∀ c ∈ source, c.isPlain = true
  parts : ∃ n, source = assignment n d ∧ Json.read n = .ok (.string name) ∧
    ∀ n' d' name', source = assignment n' d' → Json.read n' = .ok (.string name') →
      n' = n ∧ d' = d
  value : Json.read d = .ok v

lemma isPlain_assignment {n d : Text} (hn : ∀ c ∈ n, c.isPlain = true)
    (hd : ∀ c ∈ d, c.isPlain = true) : ∀ c ∈ assignment n d, c.isPlain = true := by
  simp only [assignment, List.forall_mem_append]
  exact ⟨⟨⟨⟨List.all_eq_true.mp rfl, hn⟩, List.all_eq_true.mp rfl⟩, hd⟩, List.all_eq_true.mp rfl⟩

lemma assigns_bindingSource {name : Text} {v : Json} (hn : name.Separate) (hv : v.Exact) :
    Assigns (bindingSource name v) name (v.print .inline) v := by
  have hname : Json.read (Json.printText name) = .ok (.string name) :=
    Json.read_print (.string hn) .inline
  rw [bindingSource_eq]
  refine ⟨?_, ⟨_, rfl, hname, ?_⟩, Json.read_print hv .inline⟩
  · exact isPlain_assignment (Json.isPlain_printText name) (Json.isPlain_printAt_inline hv 0)
  · intro n d name' h hn'
    exact assignment_inj hn' hname h.symm

variable {σ : Type} (i : Interpreter σ)

/-- A step that binds a global sends one source. -/
lemma log_bindGlobal (name : Text) (v : Json) (s : σ × List Text) :
    ((ofInterpreter i.recorded).bindGlobal name v s).2.2 = s.2 ++ [bindingSource name v] := by
  have he : i.recorded.eval (bindingSource name v) s = ((i.eval (bindingSource name v) s.1).1,
      (i.eval (bindingSource name v) s.1).2, s.2 ++ [bindingSource name v]) := rfl
  rw [bindGlobal_ofInterpreter, he]
  cases (i.eval (bindingSource name v) s.1).1 <;> rfl

lemma readGlobal_of_answer {name d : Text} {v : Json} (hd : Json.read d = .ok v) {s s' : σ}
    (h : i.eval (readingSource name) s = (.ok (.string d), s')) :
    (ofInterpreter i).readGlobal name s = (.ok v, s') := by
  rw [readGlobal_ofInterpreter, h]
  simp only [decode, hd, Except.mapError]

/-- Binding a file sends its name and then, unless that fails, its text. -/
lemma log_setCurrentFile (file content : Text) (s : Session (σ × List Text)) :
    let result := Session.setCurrentFile (ofInterpreter i.recorded) file content s
    let name := bindingSource Global.currentFile (.string file)
    let text := bindingSource Global.currentCode (.string content)
    (result.2.engine.2 = s.engine.2 ++ [name] ∧ result.1 ≠ .ok ()) ∨
      result.2.engine.2 = s.engine.2 ++ [name, text] := by
  dsimp only
  have hname := log_bindGlobal i Global.currentFile (.string file) s.engine
  rw [Session.setCurrentFile_apply]
  rcases h₁ : (ofInterpreter i.recorded).bindGlobal Global.currentFile (.string file) s.engine
    with ⟨_ | _, engine⟩ <;> rw [h₁] at hname
  · exact .inl ⟨hname, by simp⟩
  · have htext := log_bindGlobal i Global.currentCode (.string content) engine
    dsimp only at hname ⊢
    rcases h₂ : (ofInterpreter i.recorded).bindGlobal Global.currentCode (.string content) engine
      with ⟨_ | _, engine'⟩ <;> rw [h₂] at htext <;> right <;> simpa [hname] using htext

end Engine

open Engine

/-- A value that is bound to a global is sent in one source, which assigns the value and does no
more, and an answer with the document of that source is read as the value. So is the text of a
file, whatever is in it: reading a file never gives a divided surrogate pair, and the source that
binds its text is the last one sent unless binding its name fails. -/
theorem Engine.marshal_roundTrip {σ : Type} (i : Interpreter σ) {name : Text} {v : Json}
    (hn : name.Separate) (hv : v.Exact) :
    (∀ s, ∃ source,
      (bindDatum (ofInterpreter i.recorded) name (.ofJson v) s).2.2 = s.2 ++ [source] ∧
        Assigns source name (v.print .inline) v) ∧
    (∀ s s', i.eval (readingSource name) s = (.ok (.string (v.print .inline)), s') →
      (ofInterpreter i).readGlobal name s = (.ok v, s')) ∧
    (∀ w file content, Run.readSource w file = .ok content → content.Separate) ∧
    ∀ file content s, content.Separate → ∃ source d,
      Assigns source Global.currentCode d (.string content) ∧
      let result := Session.setCurrentFile (ofInterpreter i.recorded) file content s
      let first := bindingSource Global.currentFile (.string file)
      (result.2.engine.2 = s.engine.2 ++ [first] ∧ result.1 ≠ .ok ()) ∨
        result.2.engine.2 = s.engine.2 ++ [first, source] := by
  refine ⟨fun s => ?_, fun s s' h => ?_, fun w file content h => ?_, fun file content s hc => ?_⟩
  · refine ⟨_, ?_, assigns_bindingSource hn hv⟩
    rw [bindDatum, Datum.toJson_ofJson hv.isWritable]
    exact log_bindGlobal i name v s
  · exact readGlobal_of_answer i (Json.read_print hv .inline) h
  · exact .of_not_isSurrogate (Run.isSurrogate_of_readSource h)
  · have hcode : Text.Separate Global.currentCode := by decide
    exact ⟨_, _, assigns_bindingSource hcode (.string hc), log_setCurrentFile i file content s⟩

/-- A value that would end its statement, its string or its script if it were pasted. -/
def awkward : Json :=
  .object
    [("\"]; stop",
        .string (("'\"\\\n\r*/</script>" : Text) ++ [0x2028, 0x1F600, 0xDC00, 0xD800])),
     ("", .array [.null, .bool true, .int (-12), .object []])]

theorem Engine.marshal_roundTrip_awkward :
    Text.Separate Global.currentCode ∧ awkward.Exact ∧
    (∃ source, (bindDatum (ofInterpreter Interpreter.scripted.recorded) Global.currentCode
        (.ofJson awkward) (Scripted.start [], [])).2.2 = [source] ∧
      Assigns source Global.currentCode (awkward.print .inline) awkward) ∧
    ((ofInterpreter Interpreter.scripted).readGlobal Global.currentCode (Scripted.start
      [⟨"JSON", none, .ok (.string (awkward.print .inline))⟩])).1 = .ok awkward := by
  have hn : Text.Separate Global.currentCode := by decide
  have hv : awkward.Exact := by
    refine .object (by decide) (by decide) ?_
    simp only [List.forall_mem_cons, List.not_mem_nil, false_imp_iff, implies_true, and_true]
    refine ⟨.string (by decide), .array ?_⟩
    simp only [List.forall_mem_cons, List.not_mem_nil, false_imp_iff, implies_true, and_true]
    exact ⟨.null, .bool true, .int (by decide), .object (by decide) (by simp) (by simp)⟩
  obtain ⟨hbind, hread, -⟩ := Engine.marshal_roundTrip Interpreter.scripted hn hv
  refine ⟨hn, hv, hbind _, ?_⟩
  rw [hread _ _ rfl]

end ScriptLint
