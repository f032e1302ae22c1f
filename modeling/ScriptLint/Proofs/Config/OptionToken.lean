import ScriptLint.Config.OptionToken
import ScriptLint.Proofs.Text.Case
import ScriptLint.Proofs.Text.Pieces
import ScriptLint.Proofs.Text.Trim

/-!
# The grammar of option tokens

What a token gives is told by the part before its first equals sign and the part after it. Neither
blanks around these parts nor the case of `true` make a difference, and a name and a value are read
from the token that they are written as.
-/

namespace ScriptLint.OptionToken

/-! ### Names and values -/

/-- The name that a token gives, without the blanks around it. -/
def name (token : Text) : Text := (Text.cut '=' token).1.trim

/-- The value that a token gives: on, unless it says otherwise. -/
def value (token : Text) : Bool := ((Text.cut '=' token).2.map isTrue).getD true

lemma parse_eq (token : Text) :
    parse token = if name token = [] then .error (.unnamedOption token)
      else .ok (name token, value token) := by
  rw [parse, name, value]
  rcases Text.cut '=' token with ⟨name, _ | value⟩ <;> rfl

/-! ### The two parts of a token -/

def equals : CodePoint := '='

/-- What is before the first equals sign of a token, and what is after it if there is one. -/
inductive Cuts : Text → Text → Option Text → Prop
  | bare {front : Text} (h : equals ∉ front) : Cuts front front none
  | valued {front : Text} (h : equals ∉ front) (rest : Text) :
      Cuts (front ++ equals :: rest) front (some rest)

variable {token front : Text} {rest? : Option Text}

lemma exists_cuts (token : Text) : ∃ front rest?, Cuts token front rest? := by
  by_cases h : equals ∈ token
  · obtain ⟨front, rest, rfl, hf⟩ := List.eq_append_cons_of_mem h
    exact ⟨front, some rest, .valued hf rest⟩
  · exact ⟨token, none, .bare h⟩

lemma Cuts.cut_eq (h : Cuts token front rest?) : Text.cut '=' token = (front, rest?) := by
  cases h with
  | bare h => exact Text.cut_of_notMem h
  | valued h rest => exact Text.cut_append_cons h rest

lemma Cuts.equals_notMem (h : Cuts token front rest?) : equals ∉ front := by
  cases h <;> assumption

/-- A token has no other parts. -/
lemma Cuts.unique {front' : Text} {rest?' : Option Text} (h : Cuts token front rest?)
    (h' : Cuts token front' rest?') : front' = front ∧ rest?' = rest? := by
  have heq := h'.cut_eq.symm.trans h.cut_eq
  exact Prod.mk.inj heq

/-! ### Values -/

/-- The letters of `true`, each with its capital. -/
def trueLetters : List (CodePoint × CodePoint) := [('t', 'T'), ('r', 'R'), ('u', 'U'), ('e', 'E')]

/-- Whether a text is `true`, with letters of either case. -/
def SpellsTrue (t : Text) : Prop :=
  List.Forall₂ (fun c letter => c = letter.1 ∨ c = letter.2) t trueLetters

/-- Whether a name with such a part after it switches an option on. -/
def SwitchesOn : Option Text → Prop
  | none      => True
  | some rest => ∃ u, rest.Trims u ∧ SpellsTrue u

lemma lower_eq_true_iff (t : Text) : t.lower = "true" ↔ SpellsTrue t := by
  have h : ∀ pair ∈ trueLetters, CodePoint.IsCasePair pair := by
    intro pair hp
    simp only [trueLetters, List.mem_cons, List.not_mem_nil, or_false] at hp
    rcases hp with rfl | rfl | rfl | rfl <;> constructor <;> decide
  exact Text.lower_eq_iff h

lemma isTrue_iff (rest : Text) : isTrue rest = true ↔ ∃ u, rest.Trims u ∧ SpellsTrue u := by
  rw [isTrue, decide_eq_true_eq, lower_eq_true_iff]
  constructor
  · intro h
    exact ⟨rest.trim, Text.trims_trim rest, h⟩
  · rintro ⟨u, hu, h⟩
    rw [Text.trim_eq_iff.mpr hu]
    exact h

lemma Cuts.value_iff (h : Cuts token front rest?) : value token = true ↔ SwitchesOn rest? := by
  rw [value, h.cut_eq]
  cases rest? with
  | none => exact ⟨fun _ => trivial, fun _ => rfl⟩
  | some rest => exact isTrue_iff rest

lemma Cuts.name_eq (h : Cuts token front rest?) : name token = front.trim := by
  rw [name, h.cut_eq]

/-! ### Parsing -/

lemma parse_eq_error_iff {e : ConfigError} :
    parse token = .error e ↔ name token = [] ∧ e = .unnamedOption token := by
  rw [parse_eq]
  split
  · next h => simp [h, eq_comm]
  · next h => simp [h]

lemma parse_eq_ok_iff {n : Text} {on : Bool} :
    parse token = .ok (n, on) ↔ name token = n ∧ n ≠ [] ∧ value token = on := by
  rw [parse_eq]
  split
  · next h =>
    rw [h]
    constructor
    · nofun
    · rintro ⟨rfl, hn, -⟩
      exact absurd rfl hn
  · next h =>
    rw [Except.ok.injEq, Prod.mk.injEq]
    constructor
    · rintro ⟨rfl, rfl⟩
      exact ⟨rfl, h, rfl⟩
    · rintro ⟨rfl, -, rfl⟩
      exact ⟨rfl, rfl⟩

/-- Tokens with the same name and the same value give the same. -/
lemma toOption_parse_congr {token' : Text} (hn : name token' = name token)
    (hv : value token' = value token) : (parse token').toOption = (parse token).toOption := by
  rw [parse_eq, parse_eq, hn, hv]
  split <;> rfl

/-! ### Tokens that are written -/

/-- The token that a name and a value are written as. -/
def written (n : Text) (on : Bool) : Text := n ++ equals :: (if on then "true" else "false" : Text)

lemma cuts_written {n : Text} (h : equals ∉ n) (on : Bool) :
    Cuts (written n on) n (some (if on then "true" else "false" : Text)) := .valued h _

lemma value_written {n : Text} (h : equals ∉ n) (on : Bool) : value (written n on) = on := by
  have htrue : isTrue "true" = true := by decide +kernel
  have hfalse : isTrue "false" = false := by decide +kernel
  rw [value, (cuts_written h on).cut_eq]
  cases on with
  | true => exact htrue
  | false => exact hfalse

/-- A name that a token gives holds no equals sign. -/
lemma equals_notMem_name (token : Text) : equals ∉ name token := by
  obtain ⟨front, rest?, hc⟩ := exists_cuts token
  rw [hc.name_eq]
  obtain ⟨before, after, heq, -⟩ := (Text.trims_trim front).around
  intro h
  apply hc.equals_notMem
  rw [heq]
  simp [h]

lemma name_written_name (token : Text) (on : Bool) :
    name (written (name token) on) = name token := by
  rw [(cuts_written (equals_notMem_name token) on).name_eq, name, Text.trim_trim]

/-! ### Blanks around the parts -/

/-- Whether a text is nothing but blanks. -/
def AreBlanks (t : Text) : Prop := ∀ c ∈ t, c.isBlank = true

instance (t : Text) : Decidable (AreBlanks t) :=
  decidable_of_iff (t.all CodePoint.isBlank = true) List.all_eq_true

/-- The token with blanks around its name, and around the part after its equals sign. -/
inductive Padded : Text → Text → Prop
  | bare {front a b : Text} (h : equals ∉ front) (ha : AreBlanks a) (hb : AreBlanks b) :
      Padded front (a ++ front ++ b)
  | valued {front rest a b c d : Text} (h : equals ∉ front) (ha : AreBlanks a) (hb : AreBlanks b)
      (hc : AreBlanks c) (hd : AreBlanks d) :
      Padded (front ++ equals :: rest) (a ++ front ++ b ++ equals :: (c ++ rest ++ d))

lemma AreBlanks.equals_notMem {t : Text} (h : AreBlanks t) : equals ∉ t :=
  fun he => absurd (h equals he) (by decide)

lemma equals_notMem_padded {a b : Text} (h : equals ∉ front) (ha : AreBlanks a)
    (hb : AreBlanks b) : equals ∉ a ++ front ++ b := by
  simp [h, ha.equals_notMem, hb.equals_notMem]

lemma Padded.toOption_parse {padded : Text} (h : Padded token padded) :
    (parse padded).toOption = (parse token).toOption := by
  cases h with
  | bare h ha hb =>
    have hpadded := Cuts.bare (equals_notMem_padded h ha hb)
    apply toOption_parse_congr
    · rw [hpadded.name_eq, (Cuts.bare h).name_eq, Text.trim_append_append ha hb]
    · rw [value, value, hpadded.cut_eq, (Cuts.bare h).cut_eq]
  | @valued front rest a b c d h ha hb hc hd =>
    have hpadded := Cuts.valued (equals_notMem_padded h ha hb) (c ++ rest ++ d)
    have htoken := Cuts.valued h rest
    apply toOption_parse_congr
    · rw [hpadded.name_eq, htoken.name_eq, Text.trim_append_append ha hb]
    · rw [value, value, hpadded.cut_eq, htoken.cut_eq, Option.map_some, Option.map_some, isTrue,
        isTrue, Text.trim_append_append hc hd]

/-! ### The grammar -/

lemma name_eq_nil_iff (h : Cuts token front rest?) : name token = [] ↔ AreBlanks front := by
  rw [h.name_eq]
  constructor
  · intro ht
    obtain ⟨before, after, heq, hb, ha⟩ := (Text.trim_eq_iff.mp ht).around
    rw [heq, List.append_nil]
    exact List.forall_mem_append.mpr ⟨hb, ha⟩
  · intro hb
    have htrim := Text.trim_append_append hb (List.forall_mem_nil _) []
    rwa [List.append_nil, List.append_nil] at htrim

/-- A token is refused just if there is nothing but blanks before its first equals sign. Otherwise
it gives the part before that, without the blanks around it, and is on unless it has a part after it
that is not `true` between blanks, in any case. What it gives can be written and parsed again, and
blanks around the two parts make no difference. -/
theorem parse_grammar (token : Text) :
    (∀ e, parse token = .error e ↔
      (∃ front rest?, Cuts token front rest? ∧ AreBlanks front) ∧ e = .unnamedOption token) ∧
    (∀ n on, parse token = .ok (n, on) ↔
      ∃ front rest?, Cuts token front rest? ∧ front.Trims n ∧ n ≠ [] ∧
        (on = true ↔ SwitchesOn rest?)) ∧
    (∀ n on, parse token = .ok (n, on) → equals ∉ n ∧ parse (written n on) = .ok (n, on)) ∧
    (∀ padded, Padded token padded → (parse padded).toOption = (parse token).toOption) := by
  obtain ⟨front, rest?, hc⟩ := exists_cuts token
  refine ⟨fun e => ?_, fun n on => ?_, fun n on h => ?_, fun padded h => h.toOption_parse⟩
  · rw [parse_eq_error_iff, name_eq_nil_iff hc]
    apply and_congr_left
    intro _
    constructor
    · intro hb
      exact ⟨front, rest?, hc, hb⟩
    · rintro ⟨front', rest?', hc', hb⟩
      obtain ⟨rfl, rfl⟩ := hc.unique hc'
      exact hb
  · rw [parse_eq_ok_iff, hc.name_eq, Text.trim_eq_iff]
    constructor
    · rintro ⟨ht, hn, rfl⟩
      exact ⟨front, rest?, hc, ht, hn, hc.value_iff⟩
    · rintro ⟨front', rest?', hc', ht, hn, hon⟩
      obtain ⟨rfl, rfl⟩ := hc.unique hc'
      exact ⟨ht, hn, Bool.eq_iff_iff.mpr (hc.value_iff.trans hon.symm)⟩
  · obtain ⟨rfl, hn, rfl⟩ := parse_eq_ok_iff.mp h
    have hequals := equals_notMem_name token
    exact ⟨hequals, parse_eq_ok_iff.mpr
      ⟨name_written_name token _, hn, value_written hequals _⟩⟩

/-- Blanks of several kinds around a name and a value in both cases. -/
theorem parse_grammar_padded :
    parse "curly=TrUE" = .ok ("curly", true) ∧
    parse (written "curly" true) = .ok ("curly", true) ∧
    Padded "curly=TrUE" " curly\u2003=\tTrUE\u3000" ∧
    (parse " curly\u2003=\tTrUE\u3000").toOption = some (("curly" : Text), true) := by
  have hparse : parse "curly=TrUE" = .ok ("curly", true) := by decide +kernel
  have hpadded : Padded "curly=TrUE" " curly\u2003=\tTrUE\u3000" :=
    @Padded.valued "curly" "TrUE" " " "\u2003" "\t" "\u3000" (by decide) (by decide) (by decide)
      (by decide) (by decide)
  obtain ⟨-, -, hwritten, hpad⟩ := parse_grammar "curly=TrUE"
  refine ⟨hparse, (hwritten _ _ hparse).2, hpadded, ?_⟩
  rw [hpad _ hpadded, hparse]
  rfl

end ScriptLint.OptionToken
