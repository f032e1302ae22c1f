import ScriptLint.Text.Basic

/-!
# Blank code points

The Unicode white space, together with the four separators U+001C to U+001F. The zero-width
space U+200B, the byte order mark U+FEFF and the Mongolian vowel separator U+180E are no blanks.
-/

namespace ScriptLint

/-- A code point that is trimmed from the ends of a text. -/
def CodePoint.isBlank (c : CodePoint) : Bool :=
  (0x09 ≤ c.val ∧ c.val ≤ 0x0D) ∨ (0x1C ≤ c.val ∧ c.val ≤ 0x20) ∨ c.val = 0x85 ∨ c.val = 0xA0 ∨
  c.val = 0x1680 ∨ (0x2000 ≤ c.val ∧ c.val ≤ 0x200A) ∨ c.val = 0x2028 ∨ c.val = 0x2029 ∨
  c.val = 0x202F ∨ c.val = 0x205F ∨ c.val = 0x3000

namespace Text

/-- The text without its leading blanks. -/
def trimStart (t : Text) : Text := t.dropWhile CodePoint.isBlank

/-- The text without its trailing blanks. -/
def trimEnd (t : Text) : Text := (t.reverse.dropWhile CodePoint.isBlank).reverse

/-- The text without the blanks around it. -/
def trim (t : Text) : Text := trimEnd (trimStart t)

theorem dropWhile_idem (p : CodePoint → Bool) (t : Text) :
    (t.dropWhile p).dropWhile p = t.dropWhile p := by
  induction t with
  | nil => rfl
  | cons c t ih =>
    by_cases h : p c
    · simp [h, ih]
    · simp [h]

theorem trimStart_trimStart (t : Text) : trimStart (trimStart t) = trimStart t :=
  dropWhile_idem _ t

theorem trimEnd_trimEnd (t : Text) : trimEnd (trimEnd t) = trimEnd t := by
  simp [trimEnd, dropWhile_idem]

/-- Trimming the end takes a last part off. -/
theorem trimEnd_append (t : Text) : ∃ tail, trimEnd t ++ tail = t :=
  ⟨(t.reverse.takeWhile CodePoint.isBlank).reverse, by
    rw [trimEnd, ← List.reverse_append, List.takeWhile_append_dropWhile, List.reverse_reverse]⟩

/-- A text that does not start with a blank does not do so after its end is trimmed. -/
theorem trimStart_trimEnd {t : Text} (h : trimStart t = t) : trimStart (trimEnd t) = trimEnd t := by
  obtain ⟨tail, e⟩ := trimEnd_append t
  cases hu : trimEnd t with
  | nil => rfl
  | cons c u =>
    rw [hu] at e
    rw [← e] at h
    by_cases hc : c.isBlank
    · have hlen := congrArg List.length h
      have hle : (List.dropWhile CodePoint.isBlank (u ++ tail)).length ≤ (u ++ tail).length :=
        (List.dropWhile_sublist _).length_le
      simp only [trimStart, List.cons_append, List.dropWhile_cons, hc, if_true,
        List.length_cons] at hlen
      omega
    · simp [trimStart, hc]

/-- Trimming twice is trimming once. -/
theorem trim_trim (t : Text) : trim (trim t) = trim t := by
  rw [trim, trim, trimStart_trimEnd (trimStart_trimStart t), trimEnd_trimEnd]

end Text

end ScriptLint
