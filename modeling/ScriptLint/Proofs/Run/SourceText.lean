import ScriptLint.Proofs.Interpreter.Marshal
import ScriptLint.Proofs.Run.Account
import ScriptLint.Proofs.Run.Escapes
import ScriptLint.Proofs.Text.Lines

/-!
# The text that a run binds for a file

The octets of a file decide what a run binds for it. If they are valid, it is the text that they
encode with its line ends unified; otherwise nothing is bound, and the run ends there.
-/

namespace ScriptLint

open ScriptLint.Action Step

/-! ### Plans that are accepted at first -/

namespace Step

variable {σ : Type} {i : Interpreter σ} {s : σ}

lemma length_le_acceptedCount_append {xs : List Step}
    (h : ∀ e ∈ exchange i xs s, isAccepted e = true) (ys : List Step) :
    xs.length ≤ acceptedCount i (xs ++ ys) s := by
  induction xs generalizing s with
  | nil => exact Nat.zero_le _
  | cons x xs ih =>
    obtain ⟨hx, hxs⟩ := List.forall_mem_cons.mp h
    have hx : x.purpose.accepts (i.eval x.source s).1 = true := hx
    rw [List.cons_append, acceptedCount_cons, if_pos hx, List.length_cons]
    exact Nat.succ_le_succ (ih hxs)

end Step

namespace Run

/-! ### Reading a file -/

section Reading

variable {w : Workspace} {name : Text} {content : List Byte}

lemma readSource_eq_ok_iff (hc : w.read (Path.ofText name) = .ok content) {u : Text} :
    readSource w name = .ok u ↔ ∃ t, Utf8.Encodes t content ∧ u = t.unifyLineEnds := by
  rw [readSource]
  rcases hd : Utf8.decode content with e | t
  · rw [Workspace.readText_of_undecodable hc hd]
    constructor
    · intro h
      cases h
    · rintro ⟨t, ht, -⟩
      cases hd.symm.trans (Utf8.decode_eq_ok_iff.mpr ht)
  · rw [Workspace.readText_of_decoded hc hd]
    constructor
    · intro h
      exact ⟨t, Utf8.decode_eq_ok_iff.mp hd, (Except.ok.inj h).symm⟩
    · rintro ⟨t', ht', rfl⟩
      cases hd.symm.trans (Utf8.decode_eq_ok_iff.mpr ht')
      rfl

/-- The failure to read octets that are not valid names the longest valid part of them. -/
lemma readSource_of_not_isValid (hc : w.read (Path.ofText name) = .ok content)
    (hv : ¬ Utf8.IsValid content) :
    ∃ reason k,
      readSource w name = .error (.undecodableSource (Path.ofText name).text reason k) ∧
      k < content.length ∧ Utf8.IsValid (content.take k) ∧
      ∀ n ≤ content.length, Utf8.IsValid (content.take n) → n ≤ k := by
  rcases hd : Utf8.decode content with e | t
  · refine ⟨e.reason, e.start, ?_, Utf8.longest_of_decode_eq_error hd⟩
    rw [readSource, Workspace.readText_of_undecodable hc hd]
    rfl
  · exact absurd ⟨t, Utf8.decode_eq_ok_iff.mp hd⟩ hv

lemma readable_append {before : List Text} (hb : allReadable w before = .ok ())
    (after : List Text) : readable w (before ++ after) = readable w before ++ readable w after := by
  induction before with
  | nil => rfl
  | cons name before ih =>
    rw [allReadable] at hb
    rw [List.cons_append, readable, readable]
    rcases hr : readSource w name with f | code <;> rw [hr] at hb
    · cases hb
    · dsimp only
      rw [ih hb, List.cons_append]

lemma readable_append_cons {before : List Text} (hb : allReadable w before = .ok ())
    {f : Failure} (hr : readSource w name = .error f) (after : List Text) :
    readable w (before ++ name :: after) = readable w before := by
  rw [readable_append hb, readable, hr]
  exact List.append_nil _

lemma plan_append (linter driver : Script) (options : Options) (xs ys : List (Text × Text)) :
    plan linter driver options (xs ++ ys)
      = plan linter driver options xs ++ ys.flatMap filePlan := by
  rw [plan, plan, List.flatMap_append, List.append_assoc, List.cons_append]

end Reading

/-! ### What is sent for a file -/

/-- After the sources of some steps, one is sent that assigns a text to the global for the code. -/
def BindsCode (steps : List Step) (u : Text) (sent : List Text) : Prop :=
  ∃ source d, Engine.Assigns source Global.currentCode d (.string u) ∧
    steps.map Step.source ++ [source] <+: sent

/-- A source assigns one value only. -/
lemma assigns_unique {source name name' d d' : Text} {v v' : Json}
    (h : Engine.Assigns source name d v) (h' : Engine.Assigns source name' d' v') : v = v' := by
  obtain ⟨n, -, -, hparts⟩ := h.parts
  obtain ⟨n', hs, hn, -⟩ := h'.parts
  obtain ⟨-, rfl⟩ := hparts n' d' name' hs hn
  exact Except.ok.inj (h.value.symm.trans h'.value)

lemma bindsCode_iff {steps : List Step} {u v : Text} (hv : v.Separate) (rest : List Text) :
    BindsCode steps u (steps.map Step.source
      ++ Engine.bindingSource Global.currentCode (.string v) :: rest) ↔ u = v := by
  have hname : Text.Separate Global.currentCode := by decide
  have hassigns := Engine.assigns_bindingSource hname (.string hv)
  constructor
  · rintro ⟨source, d, hd, hsent⟩
    obtain ⟨rfl, -⟩ := List.cons_prefix_cons.mp ((List.prefix_append_right_inj _).mp hsent)
    exact Json.string.inj (assigns_unique hd hassigns)
  · rintro rfl
    exact ⟨_, _, hassigns,
      (List.prefix_append_right_inj _).mpr (List.cons_prefix_cons.mpr ⟨rfl, List.nil_prefix⟩)⟩

section Sent

variable {σ : Type} (i : Interpreter σ) {w : Workspace} {path : Option Path}
  {linter driver : Script} (h : scripts w path = .ok (linter, driver)) (options : Options)
  {before : List Text} (hb : allReadable w before = .ok ()) {name : Text} (after : List Text)
  (s : σ)

include h hb

/-- What a run sends if it comes to a file with a text, and the name of the file is bound. -/
lemma exists_sent_of_readSource {code : Text} (hr : readSource w name = .ok code)
    (ha : ∀ e ∈ exchange i (plan linter driver options (readable w before)
      ++ [bindStep Global.currentFile (.string name)]) s, isAccepted e = true) :
    ∃ rest, (lint (.ofInterpreter i.recorded) w path options (before ++ name :: after) (s, [])).2.2
      = (plan linter driver options (readable w before)
          ++ [bindStep Global.currentFile (.string name)]).map Step.source
        ++ Engine.bindingSource Global.currentCode (.string code) :: rest := by
  obtain ⟨later, hplan⟩ : ∃ later,
      plan linter driver options (readable w (before ++ name :: after))
        = (plan linter driver options (readable w before)
            ++ [bindStep Global.currentFile (.string name)])
          ++ bindStep Global.currentCode (.string code) :: later := by
    refine ⟨(filePlan (name, code)).drop 2 ++ (readable w after).flatMap filePlan, ?_⟩
    rw [readable_append hb, plan_append, readable, hr, List.flatMap_cons, List.append_assoc]
    rfl
  have hle := length_le_acceptedCount_append ha
    (bindStep Global.currentCode (.string code) :: later)
  rw [log_eq_take i h, hplan, List.take_append, List.take_of_length_le (Nat.le_succ_of_le hle),
    Nat.succ_sub hle, List.take_succ_cons, List.map_append, List.map_cons, List.append_assoc,
    List.cons_append]
  exact ⟨_, rfl⟩

/-- Nothing is sent for a file that cannot be read. -/
lemma exists_sent_of_error {f : Failure} (hr : readSource w name = .error f) :
    ∃ k, (lint (.ofInterpreter i.recorded) w path options (before ++ name :: after) (s, [])).2.2
      = ((plan linter driver options (readable w before)).take k).map Step.source
        ++ [Interpreter.closeRecord] := by
  rw [log_eq_take i h, readable_append_cons hb hr]
  exact ⟨_, rfl⟩

/-- If a run comes to a file and the name of the file is bound, then so is the text that is read,
and no other. -/
lemma bindsCode_lint_iff
    (ha : ∀ e ∈ exchange i (plan linter driver options (readable w before)
      ++ [bindStep Global.currentFile (.string name)]) s, isAccepted e = true) (u : Text) :
    BindsCode (plan linter driver options (readable w before)
        ++ [bindStep Global.currentFile (.string name)]) u
      (lint (.ofInterpreter i.recorded) w path options (before ++ name :: after) (s, [])).2.2
      ↔ readSource w name = .ok u := by
  rcases hr : readSource w name with f | code
  · obtain ⟨k, hsent⟩ := exists_sent_of_error i h options hb after s hr
    refine ⟨?_, nofun⟩
    rintro ⟨source, d, -, hp⟩
    -- what is sent is one source too short
    have hlen := hp.length_le
    rw [hsent] at hlen
    simp only [List.length_append, List.length_map, List.length_take, List.length_singleton] at hlen
    omega
  · obtain ⟨rest, hsent⟩ := exists_sent_of_readSource i h options hb after s hr ha
    rw [hsent, bindsCode_iff (.of_not_isSurrogate (isSurrogate_of_readSource hr)),
      Except.ok.injEq, eq_comm]

/-- A run that comes to a file that cannot be read ends with the failure to read it. -/
lemma result_of_error {f : Failure} (hr : readSource w name = .error f)
    (ha : ∀ e ∈ exchange i (plan linter driver options (readable w before)) s,
      isAccepted e = true) :
    (lint (.ofInterpreter i.recorded) w path options (before ++ name :: after) (s, [])).1.result
      = .error f := by
  rw [← readable_append_cons hb hr after, ← exchange_recorded _ []] at ha
  have hresult := result_of_accepted h ha
  rw [allReadable_append_cons hb hr] at hresult
  rcases hrun : (lint (.ofInterpreter i.recorded) w path options (before ++ name :: after)
    (s, [])).1.result with f' | r <;> rw [hrun] at hresult <;> cases hresult
  rfl

end Sent

end Run

open Run

/-- A run that comes to a file binds a text for it if and only if the octets of the file are valid
UTF-8. The text is what they encode with every carriage return with a line feed, and every one that
remains, written as a line feed: it holds no carriage return, it is encoded as the octets unless
they hold one, and texts that differ in their line ends only are bound as one text. For octets that
are not valid nothing is sent, and the run ends with a failure that names the path and the length of
the longest part from the start that is valid. -/
theorem lint_binds_text {σ : Type} (i : Interpreter σ) {w : Workspace} {path : Option Path}
    {linter driver : Script} (h : scripts w path = .ok (linter, driver)) (options : Options)
    {before : List Text} (hb : ∀ name ∈ before, ∃ code, readSource w name = .ok code)
    {name : Text} {content : List Byte} (hc : w.read (Path.ofText name) = .ok content)
    (after : List Text) (s : σ) :
    let steps := plan linter driver options (readable w before)
    let named := steps ++ [bindStep Global.currentFile (.string name)]
    let run := lint (.ofInterpreter i.recorded) w path options (before ++ name :: after) (s, [])
    let p := (Path.ofText name).text
    let bound (t : Text) := t.unifyPairs.replace Text.carriageReturn Text.lineFeed
    ((∀ e ∈ exchange i named s, isAccepted e = true) →
      ∀ u, BindsCode named u run.2.2 ↔ ∃ t, Utf8.Encodes t content ∧ u = bound t) ∧
    (∀ t, Utf8.Encodes t content → Text.carriageReturn ∉ bound t ∧
      (0x0D ∉ content → Utf8.encode (bound t) = .ok content) ∧
      ∀ t', Text.Respelled t t' ↔ bound t = bound t') ∧
    (¬ Utf8.IsValid content →
      (∃ k, run.2.2 = (steps.take k).map Step.source ++ [Interpreter.closeRecord]) ∧
      ((∀ e ∈ exchange i steps s, isAccepted e = true) → ∃ reason k,
        run.1.result = .error (.undecodableSource p reason k) ∧
        (Failure.undecodableSource p reason k).message = "Cannot read " ++ p ++
          ": not valid UTF-8 (" ++ reason.message ++ " at byte " ++ Text.ofNat k ++ ")" ∧
        k < content.length ∧ Utf8.IsValid (content.take k) ∧
        ∀ n ≤ content.length, k < n → ¬ Utf8.IsValid (content.take n))) := by
  have hb := allReadable_of_forall hb
  intro steps named run p bound
  have hbound (t : Text) : bound t = t.unifyLineEnds := t.unifyLineEnds_eq_replace.symm
  refine ⟨fun ha u => ?_, fun t ht => ⟨?_, fun hr => ?_, fun t' => ?_⟩, fun hv => ?_⟩
  · simp only [hbound]
    exact (bindsCode_lint_iff i h options hb after s ha u).trans (readSource_eq_ok_iff hc)
  · rw [hbound]
    exact t.carriageReturn_notMem_unifyLineEnds
  · rw [hbound, Text.unifyLineEnds_of_notMem (ht.carriageReturn_notMem hr)]
    exact ht.encode_eq
  · rw [hbound, hbound]
    exact Text.respelled_iff
  · obtain ⟨reason, k, hr, hk, hvalid, hlongest⟩ := readSource_of_not_isValid hc hv
    refine ⟨exists_sent_of_error i h options hb after s hr, fun ha => ?_⟩
    refine ⟨reason, k, result_of_error i h options hb after s hr ha, rfl, hk, hvalid, ?_⟩
    exact fun n hn hlt hn' => absurd (hlongest n hn hn') (Nat.not_le_of_lt hlt)

/-- A source with line ends of two kinds, one that is not UTF-8, and a linter script. -/
def twoSources : Workspace where
  tree := ⟨[(["a"], .file [0x61, 0x0D, 0x0A, 0xC3, 0xA9, 0x0D]),
    (["b"], .file [0x61, 0xE2, 0x82, 0x61]), (["l"], .file [0x6C])]⟩
  current := []
  home := ⟨.slash, []⟩
  homes := []

/-- The first source is bound with its line ends unified, and the run ends at the second octet of
the other. -/
theorem lint_binds_text_twoSources :
    ∃ driver,
      scripts twoSources (some ⟨.current, ["l"]⟩) = .ok (⟨"l", "l"⟩, driver) ∧
      (∀ name ∈ [("a" : Text)], ∃ code, readSource twoSources name = .ok code) ∧
      twoSources.read (Path.ofText "b") = .ok [0x61, 0xE2, 0x82, 0x61] ∧
      let run := lint (.ofInterpreter Interpreter.scripted.recorded) twoSources
        (some ⟨.current, ["l"]⟩) (OrderedMap.empty : Options) ["a", "b"] (Scripted.start [], [])
      BindsCode (plan ⟨"l", "l"⟩ driver .empty []
          ++ [bindStep Global.currentFile (.string "a")])
        [0x61, 0x0A, 0xE9, 0x0A] run.2.2 ∧
      ∃ reason, run.1.result = .error (.undecodableSource "b" reason 1) := by
  obtain ⟨driver, hs, haccepted⟩ : ∃ driver,
      scripts twoSources (some ⟨.current, ["l"]⟩) = .ok (⟨"l", "l"⟩, driver) ∧
      ((exchange Interpreter.scripted (plan ⟨"l", "l"⟩ driver .empty (readable twoSources ["a"]))
        (Scripted.start [])).all isAccepted = true) := ⟨_, rfl, by decide +kernel⟩
  have ha : ∀ name ∈ [("a" : Text)], ∃ code, readSource twoSources name = .ok code :=
    List.forall_mem_singleton.mpr ⟨_, rfl⟩
  have hc : twoSources.read (Path.ofText "b") = .ok [0x61, 0xE2, 0x82, 0x61] := rfl
  refine ⟨driver, hs, ha, hc, ?_, ?_⟩
  · have hd : Utf8.decode [0x61, 0x0D, 0x0A, 0xC3, 0xA9, 0x0D]
        = .ok [0x61, 0x0D, 0x0A, 0xE9, 0x0D] := by decide +kernel
    have hca : twoSources.read (Path.ofText "a") = .ok [0x61, 0x0D, 0x0A, 0xC3, 0xA9, 0x0D] := rfl
    obtain ⟨hbinds, -, -⟩ := lint_binds_text Interpreter.scripted hs .empty
      (List.forall_mem_nil _) hca ["b"] (Scripted.start [])
    have hbound := (hbinds (List.all_eq_true.mp rfl) [0x61, 0x0A, 0xE9, 0x0A]).mpr
      ⟨_, Utf8.decode_eq_ok_iff.mp hd, by decide +kernel⟩
    rw [readable, List.nil_append] at hbound
    exact hbound
  · have hdecode {n : Nat} {e : Utf8.DecodeError}
        (h : Utf8.decode (([0x61, 0xE2, 0x82, 0x61] : List Byte).take n) = .error e) :
        ¬ Utf8.IsValid (([0x61, 0xE2, 0x82, 0x61] : List Byte).take n) := by
      rintro ⟨t, ht⟩
      cases h.symm.trans (Utf8.decode_eq_ok_iff.mpr ht)
    obtain ⟨-, -, hinvalid⟩ := lint_binds_text Interpreter.scripted hs .empty ha hc []
      (Scripted.start [])
    obtain ⟨-, hfails⟩ := hinvalid (hdecode (n := 4) rfl)
    have hpath : (Path.ofText "b").text = "b" := by decide +kernel
    obtain ⟨reason, k, hresult, hmessage, hk, hvalid, hlongest⟩ :=
      hfails (List.all_eq_true.mp haccepted)
    rw [List.singleton_append, hpath] at hresult
    have hcases : k = 0 ∨ k = 1 ∨ k = 2 ∨ k = 3 := by
      have hk : k < 4 := hk
      omega
    refine ⟨reason, ?_⟩
    rcases hcases with rfl | rfl | rfl | rfl
    · exact absurd ⟨"a", Utf8.decode_eq_ok_iff.mp rfl⟩ (hlongest 1 (by decide) (by decide))
    · exact hresult
    · exact absurd hvalid (hdecode (n := 2) rfl)
    · exact absurd hvalid (hdecode (n := 3) rfl)

end ScriptLint
