import Mathlib.Tactic.Common
import Mathlib.Tactic.SplitIfs
import ScriptLint.Proofs.Text.Lines
import ScriptLint.Run

/-!
# Texts of files

Octets are valid if they are those of a text without surrogates. Valid octets are read as that text
and no others are: reading stops where no longer part of the octets is valid. So the text of a file
holds no surrogates, whatever the octets of the file are, and every other text can be encoded and is
read back.
-/

namespace ScriptLint

namespace Utf8

/-- The octets of a text, which has octets if it holds no surrogates. -/
structure Encodes (t : Text) (bytes : List Byte) : Prop where
  scalar : ∀ c ∈ t, c.isSurrogate = false
  octets : t.flatMap octets = bytes

/-- Octets that are those of a text. -/
def IsValid (bytes : List Byte) : Prop := ∃ t, Encodes t bytes

lemma Encodes.nil : Encodes [] [] := ⟨List.forall_mem_nil _, rfl⟩

lemma Encodes.cons {c : CodePoint} (hc : c.isSurrogate = false) {t : Text} {bytes : List Byte}
    (h : Encodes t bytes) : Encodes (c :: t) (Utf8.octets c ++ bytes) :=
  ⟨List.forall_mem_cons.mpr ⟨hc, h.scalar⟩, by rw [List.flatMap_cons, h.octets]⟩

/-! ### What is encoded is read -/

lemma encodeFrom_eq_ok {position : Nat} {t : Text} (h : ∀ c ∈ t, c.isSurrogate = false) :
    encodeFrom position t = .ok (t.flatMap octets) := by
  induction t generalizing position with
  | nil => rfl
  | cons c t ih =>
    obtain ⟨hc, ht⟩ := List.forall_mem_cons.mp h
    rw [encodeFrom, hc, ih ht]
    rfl

lemma ofNat_eq {n : Nat} {c : CodePoint} (h : n = c.val) : CodePoint.ofNat n = c := by
  subst h
  rw [CodePoint.ofNat, dif_pos c.isLt]

/-- The first octet of a sequence of three, and the second in the range that it leaves. -/
lemma lead?_three {a : Byte} {n second : Nat} (ha : a.val = 0xE0 + n / 4096) (hn : n < 0x10000)
    (hlow : 0x800 ≤ n) (hs : n < 0xD800 ∨ 0xDFFF < n) (hsecond : second = 0x80 + n / 64 % 64) :
    ∃ low high, lead? a = some ⟨n / 4096, low, high, 1⟩ ∧ low ≤ second ∧ second ≤ high := by
  rw [lead?, ha]
  split_ifs
  · omega
  · have hb : n / 4096 = 0 := by omega
    exact ⟨0xA0, 0xBF, by rw [hb], by omega, by omega⟩
  · have hb : n / 4096 = 0xD := by omega
    exact ⟨0x80, 0x9F, by rw [hb], by omega, by omega⟩
  · exact ⟨0x80, 0xBF, by rw [Nat.add_sub_cancel_left], by omega, by omega⟩
  all_goals omega

/-- The first octet of a sequence of four, and the second in the range that it leaves. -/
lemma lead?_four {a : Byte} {n second : Nat} (ha : a.val = 0xF0 + n / 262144) (hn : n < 0x110000)
    (hlow : 0x10000 ≤ n) (hsecond : second = 0x80 + n / 4096 % 64) :
    ∃ low high, lead? a = some ⟨n / 262144, low, high, 2⟩ ∧ low ≤ second ∧ second ≤ high := by
  rw [lead?, ha]
  split_ifs
  · omega
  · omega
  · omega
  · omega
  · have hb : n / 262144 = 0 := by omega
    exact ⟨0x90, 0xBF, by rw [hb], by omega, by omega⟩
  · exact ⟨0x80, 0xBF, by rw [Nat.add_sub_cancel_left], by omega, by omega⟩
  · have hb : n / 262144 = 4 := by omega
    exact ⟨0x80, 0x8F, by rw [hb], by omega, by omega⟩
  · omega

lemma val_tail (n : Nat) : (Fin.ofNat 256 (0x80 + n % 64)).val = 0x80 + n % 64 :=
  Nat.mod_eq_of_lt (by omega)

lemma isTail_tail (n : Nat) : isTail (Fin.ofNat 256 (0x80 + n % 64)) = true := by
  rw [isTail, val_tail, decide_eq_true_eq]
  omega

lemma push_tail (bits n : Nat) :
    push bits (Fin.ofNat 256 (0x80 + n % 64)) = 64 * bits + n % 64 := by
  have ht := val_tail n
  unfold push
  omega

/-- The octets of a code point are read as that code point. -/
lemma decodeFrom_octets_append {c : CodePoint} (h : c.isSurrogate = false) (offset : Nat)
    (bs : List Byte) :
    decodeFrom offset (octets c ++ bs)
      = (c :: ·) <$> decodeFrom (offset + (octets c).length) bs := by
  have hc := c.isLt
  have hs : c.val < 0xD800 ∨ 0xDFFF < c.val := by
    rw [CodePoint.isSurrogate, decide_eq_false_iff_not] at h
    omega
  have hv {n : Nat} (h : n < 256) : (Fin.ofNat 256 n).val = n := Nat.mod_eq_of_lt h
  have hb (n : Nat) := val_tail n
  unfold octets
  dsimp only
  split_ifs with h1 h2 h3
  · rw [List.singleton_append, decodeFrom, if_pos (by rw [hv (by omega)]; exact h1),
      ofNat_eq (hv (by omega))]
    rfl
  · have ha : (Fin.ofNat 256 (0xC0 + c.val / 64)).val = 0xC0 + c.val / 64 := hv (by omega)
    have hl : lead? (Fin.ofNat 256 (0xC0 + c.val / 64)) = some ⟨c.val / 64, 0x80, 0xBF, 0⟩ := by
      rw [lead?, if_pos (by omega), ha, Nat.add_sub_cancel_left]
    have hn : 64 * (c.val / 64) + c.val % 64 = c.val := by omega
    rw [List.cons_append, List.cons_append, List.nil_append, decodeFrom, if_neg (by omega), hl]
    dsimp only
    rw [if_neg (by rw [hb]; omega), if_pos rfl, push_tail, ofNat_eq hn]
    rfl
  · have ha : (Fin.ofNat 256 (0xE0 + c.val / 4096)).val = 0xE0 + c.val / 4096 := hv (by omega)
    obtain ⟨low, high, hl, hlow, hhigh⟩ := lead?_three ha (by omega) (by omega) hs (hb (c.val / 64))
    have hn : 64 * (64 * (c.val / 4096) + c.val / 64 % 64) + c.val % 64 = c.val := by omega
    rw [List.cons_append, List.cons_append, List.cons_append, List.nil_append, decodeFrom,
      if_neg (by omega), hl]
    dsimp only
    rw [if_neg (by omega), if_neg Nat.one_ne_zero, if_neg (not_not.mpr (isTail_tail _)), if_pos rfl,
      push_tail, push_tail, ofNat_eq hn]
    rfl
  · have ha : (Fin.ofNat 256 (0xF0 + c.val / 262144)).val = 0xF0 + c.val / 262144 := hv (by omega)
    obtain ⟨low, high, hl, hlow, hhigh⟩ := lead?_four ha hc (by omega) (hb (c.val / 4096))
    have hn : 64 * (64 * (64 * (c.val / 262144) + c.val / 4096 % 64) + c.val / 64 % 64)
        + c.val % 64 = c.val := by omega
    rw [List.cons_append, List.cons_append, List.cons_append, List.cons_append, List.nil_append,
      decodeFrom, if_neg (by omega), hl]
    dsimp only
    rw [if_neg (by omega), if_neg (by decide), if_neg (not_not.mpr (isTail_tail _)),
      if_neg (by decide), if_neg (not_not.mpr (isTail_tail _)), push_tail, push_tail, push_tail,
      ofNat_eq hn]
    rfl

/-- The octets of a text are read as that text, whatever follows them. -/
lemma decodeFrom_append {t : Text} {bytes : List Byte} (h : Encodes t bytes) (offset : Nat)
    (rest : List Byte) :
    decodeFrom offset (bytes ++ rest)
      = (t ++ ·) <$> decodeFrom (offset + bytes.length) rest := by
  obtain ⟨hs, rfl⟩ := h
  induction t generalizing offset with
  | nil =>
    rw [List.flatMap_nil, List.nil_append, List.length_nil, Nat.add_zero]
    exact (id_map _).symm
  | cons c t ih =>
    obtain ⟨hc, ht⟩ := List.forall_mem_cons.mp hs
    rw [List.flatMap_cons, List.append_assoc, decodeFrom_octets_append hc, ih _ ht,
      List.length_append, Nat.add_assoc]
    cases decodeFrom (offset + ((octets c).length + (t.flatMap octets).length)) rest <;> rfl

lemma Encodes.encode_eq {t : Text} {bytes : List Byte} (h : Encodes t bytes) :
    encode t = .ok bytes := by
  rw [encode, encodeFrom_eq_ok h.scalar, h.octets]

/-! ### What is read was encoded -/

lemma val_ofNat {n : Nat} (h : n < 0x110000) : (CodePoint.ofNat n).val = n := by
  rw [CodePoint.ofNat, dif_pos h]

lemma isSurrogate_ofNat {n : Nat} (h : n < 0x110000) (hs : n < 0xD800 ∨ 0xDFFF < n) :
    (CodePoint.ofNat n).isSurrogate = false := by
  rw [CodePoint.isSurrogate, val_ofNat h, decide_eq_false_iff_not]
  omega

lemma ofNat_val {n : Nat} {b : Byte} (h : b.val = n) : Fin.ofNat 256 n = b := by
  subst h
  exact Fin.ofNat_val_eq_self b

/-- The first two octets of a sequence, by the bits that they give. The least value of each length
is the first that needs it, and after `0xED` the range of the second octet leaves the surrogates
out. -/
lemma push_of_lead? {a b : Byte} {lead : Lead} (ha : lead? a = some lead)
    (hl : lead.low ≤ b.val) (hh : b.val ≤ lead.high) :
    b.val = 0x80 + push lead.bits b % 64 ∧
    (lead.more = 0 → a.val = 0xC0 + push lead.bits b / 64 ∧
      2 ≤ lead.bits ∧ push lead.bits b < 0x800) ∧
    (lead.more = 1 → a.val = 0xE0 + push lead.bits b / 64 ∧ 0x20 ≤ push lead.bits b ∧
      push lead.bits b < 0x400 ∧ (push lead.bits b < 0x360 ∨ 0x380 ≤ push lead.bits b)) ∧
    (lead.more ≠ 0 → lead.more ≠ 1 → a.val = 0xF0 + push lead.bits b / 64 ∧
      0x10 ≤ push lead.bits b ∧ push lead.bits b < 0x110) := by
  have hp : push lead.bits b = 64 * lead.bits + (b.val - 0x80) := rfl
  obtain ⟨bits, low, high, more⟩ := lead
  dsimp only at hl hh hp ⊢
  rw [lead?] at ha
  split_ifs at ha
  all_goals
    obtain ⟨rfl, rfl, rfl, rfl⟩ := Lead.mk.inj (Option.some.inj ha)
    omega

lemma push_of_isTail (n : Nat) {b : Byte} (hb : isTail b = true) :
    push n b / 64 = n ∧ b.val = 0x80 + push n b % 64 := by
  have hp : push n b = 64 * n + (b.val - 0x80) := rfl
  rw [isTail, decide_eq_true_eq] at hb
  omega

lemma octets_one {a : Byte} (h : a.val < 0x80) : octets (CodePoint.ofNat a.val) = [a] := by
  rw [octets, val_ofNat (by omega)]
  dsimp only
  rw [if_pos h, ofNat_val rfl]

lemma octets_two {n : Nat} {a b : Byte} (hn : 0x80 ≤ n) (hn' : n < 0x800)
    (ha : a.val = 0xC0 + n / 64) (hb : b.val = 0x80 + n % 64) :
    octets (CodePoint.ofNat n) = [a, b] := by
  rw [octets, val_ofNat (by omega)]
  dsimp only
  rw [if_neg (by omega), if_pos hn', ofNat_val ha, ofNat_val hb]

lemma octets_three {n : Nat} {a b c : Byte} (hn : 0x800 ≤ n) (hn' : n < 0x10000)
    (ha : a.val = 0xE0 + n / 64 / 64) (hb : b.val = 0x80 + n / 64 % 64)
    (hc : c.val = 0x80 + n % 64) : octets (CodePoint.ofNat n) = [a, b, c] := by
  rw [octets, val_ofNat (by omega)]
  dsimp only
  rw [if_neg (by omega), if_neg (by omega), if_pos hn', ofNat_val (b := a) (by omega),
    ofNat_val hb, ofNat_val hc]

lemma octets_four {n : Nat} {a b c d : Byte} (hn : 0x10000 ≤ n) (hn' : n < 0x110000)
    (ha : a.val = 0xF0 + n / 64 / 64 / 64) (hb : b.val = 0x80 + n / 64 / 64 % 64)
    (hc : c.val = 0x80 + n / 64 % 64) (hd : d.val = 0x80 + n % 64) :
    octets (CodePoint.ofNat n) = [a, b, c, d] := by
  rw [octets, val_ofNat hn']
  dsimp only
  rw [if_neg (by omega), if_neg (by omega), if_neg (by omega), ofNat_val (b := a) (by omega),
    ofNat_val (b := b) (by omega), ofNat_val hc, ofNat_val hd]

/-- Octets begin with those of a code point, unless decoding stops at them. -/
lemma eq_octets_append_or_stop (offset : Nat) (bytes : List Byte) :
    bytes = [] ∨ (∃ c rest, c.isSurrogate = false ∧ bytes = octets c ++ rest) ∨
      ∃ e, decodeFrom offset bytes = .error e ∧ e.start = offset := by
  fun_cases decodeFrom offset bytes with
  | case1 => exact .inl rfl
  | case2 a rest ha =>
    refine .inr (.inl ⟨CodePoint.ofNat a.val, rest, isSurrogate_ofNat (by omega) (by omega), ?_⟩)
    rw [octets_one ha]
    rfl
  | case6 a ha lead hlead b rest hb hm =>
    obtain ⟨tail, two, -⟩ := push_of_lead? hlead (b := b) (by omega) (by omega)
    obtain ⟨first, hlow, hhigh⟩ := two hm
    have hp : push lead.bits b = 64 * lead.bits + (b.val - 0x80) := rfl
    refine .inr (.inl ⟨_, rest, isSurrogate_ofNat (n := push lead.bits b) ?_ ?_, ?_⟩)
    · omega
    · omega
    · rw [octets_two (by omega) hhigh first tail]
      rfl
  | case9 a ha lead hlead b hb hm c rest hc hm' =>
    obtain ⟨second, -, three, -⟩ := push_of_lead? hlead (b := b) (by omega) (by omega)
    obtain ⟨first, hlow, hhigh, hs⟩ := three hm'
    obtain ⟨hq, third⟩ := push_of_isTail (push lead.bits b) (not_not.mp hc)
    refine .inr (.inl ⟨_, rest, isSurrogate_ofNat (n := push (push lead.bits b) c) ?_ ?_, ?_⟩)
    · omega
    · omega
    · rw [octets_three (by omega) (by omega) (hq.symm ▸ first) (hq.symm ▸ second) third]
      rfl
  | case12 a ha lead hlead b hb hm c hc hm' d rest hd =>
    obtain ⟨second, -, -, four⟩ := push_of_lead? hlead (b := b) (by omega) (by omega)
    obtain ⟨first, hlow, hhigh⟩ := four hm hm'
    obtain ⟨hq, third⟩ := push_of_isTail (push lead.bits b) (not_not.mp hc)
    obtain ⟨hr, fourth⟩ := push_of_isTail (push (push lead.bits b) c) (not_not.mp hd)
    refine .inr (.inl ⟨_, rest,
      isSurrogate_ofNat (n := push (push (push lead.bits b) c) d) ?_ ?_, ?_⟩)
    · omega
    · omega
    · rw [octets_four (by omega) (by omega) (by rw [hr, hq]; exact first)
        (by rw [hr, hq]; exact second) (hr.symm ▸ third) fourth]
      rfl
  | case3 | case4 | case5 | case7 | case8 | case10 | case11 => exact .inr (.inr ⟨_, rfl, rfl⟩)

lemma length_octets_pos (c : CodePoint) : 0 < (octets c).length := by
  unfold octets
  dsimp only
  split_ifs <;> exact Nat.succ_pos _

/-- Octets are valid, or they are valid as far as decoding comes. -/
lemma encodes_or_stop (offset : Nat) (bytes : List Byte) :
    (∃ t, Encodes t bytes) ∨ ∃ t front rest e, Encodes t front ∧ bytes = front ++ rest ∧
      rest ≠ [] ∧ decodeFrom (offset + front.length) rest = .error e ∧
      e.start = offset + front.length := by
  induction hn : bytes.length using Nat.strongRecOn generalizing offset bytes with
  | ind n ih =>
  obtain rfl | ⟨c, rest, hc, rfl⟩ | ⟨e, he, hs⟩ := eq_octets_append_or_stop offset bytes
  · exact .inl ⟨[], .nil⟩
  · have hpos := length_octets_pos c
    rw [List.length_append] at hn
    obtain ⟨t, ht⟩ | ⟨t, front, rest', e, ht, rfl, hne, he, hs⟩ :=
      ih rest.length (by omega) (offset + (octets c).length) rest rfl
    · exact .inl ⟨_, ht.cons hc⟩
    · refine .inr ⟨c :: t, octets c ++ front, rest', e, ht.cons hc, ?_, hne, ?_, ?_⟩
      · rw [List.append_assoc]
      · rw [List.length_append, ← Nat.add_assoc]
        exact he
      · rw [List.length_append, ← Nat.add_assoc]
        exact hs
  · refine .inr ⟨[], [], bytes, e, .nil, rfl, ?_, he, hs⟩
    rintro rfl
    cases he

/-- Octets are decoded as a text if and only if they are its octets. -/
lemma decode_eq_ok_iff {bytes : List Byte} {t : Text} : decode bytes = .ok t ↔ Encodes t bytes := by
  have hread {u : Text} (h : Encodes u bytes) : decode bytes = .ok u := by
    have hd := decodeFrom_append h 0 []
    rw [List.append_nil] at hd
    rw [decode, hd, decodeFrom]
    exact congrArg Except.ok (List.append_nil u)
  constructor
  · intro h
    obtain ⟨u, hu⟩ | ⟨u, front, rest, e, hu, rfl, -, he, -⟩ := encodes_or_stop 0 bytes
    · cases h.symm.trans (hread hu)
      exact hu
    · rw [decode, decodeFrom_append hu, he] at h
      cases h
  · exact hread

lemma Encodes.carriageReturn_notMem {t : Text} {bytes : List Byte} (h : Encodes t bytes)
    (hr : 0x0D ∉ bytes) : Text.carriageReturn ∉ t := by
  rw [← h.octets, List.mem_flatMap] at hr
  exact fun hc => hr ⟨_, hc, List.mem_singleton.mpr rfl⟩

lemma le_start_of_decodeFrom {offset : Nat} {bytes : List Byte} {e : DecodeError}
    (h : decodeFrom offset bytes = .error e) : offset ≤ e.start := by
  obtain ⟨t, ht⟩ | ⟨t, front, rest, e', ht, rfl, -, he, hs⟩ := encodes_or_stop offset bytes
  · have hd := decodeFrom_append ht offset []
    rw [List.append_nil, h] at hd
    cases hd
  · rw [decodeFrom_append ht, he] at h
    cases h
    exact hs ▸ Nat.le_add_right offset front.length

/-- Decoding stops where no longer part of the octets is valid. -/
lemma longest_of_decode_eq_error {bytes : List Byte} {e : DecodeError}
    (h : decode bytes = .error e) : e.start < bytes.length ∧ IsValid (bytes.take e.start) ∧
      ∀ n ≤ bytes.length, IsValid (bytes.take n) → n ≤ e.start := by
  have hlongest (n : Nat) (hn : n ≤ bytes.length) (hv : IsValid (bytes.take n)) :
      n ≤ e.start := by
    obtain ⟨t, ht⟩ := hv
    have hd := decodeFrom_append ht 0 (bytes.drop n)
    rw [List.take_append_drop, ← decode, h, List.length_take_of_le hn, Nat.zero_add] at hd
    rcases hr : decodeFrom n (bytes.drop n) with e' | u <;> rw [hr] at hd <;> cases hd
    exact le_start_of_decodeFrom hr
  obtain ⟨t, ht⟩ | ⟨t, front, rest, e', ht, rfl, hne, he, hs⟩ := encodes_or_stop 0 bytes
  · cases h.symm.trans (decode_eq_ok_iff.mpr ht)
  · rw [decode, decodeFrom_append ht, he] at h
    cases h
    rw [Nat.zero_add] at hs
    refine ⟨?_, ?_, hlongest⟩
    · rw [hs, List.length_append]
      exact Nat.lt_add_of_pos_right (List.length_pos_iff.mpr hne)
    · rw [hs, List.take_left]
      exact ⟨t, ht⟩

end Utf8

/-! ### Files -/

/-- The text of a file holds no surrogates. -/
lemma Workspace.isSurrogate_of_readText {w : Workspace} {p : Path} {t : Text}
    (h : w.readText p = .ok t) : ∀ c ∈ t, c.isSurrogate = false := by
  rw [Workspace.readText] at h
  cases hr : w.read p with
  | error e =>
    rw [hr] at h
    cases h
  | ok content =>
    rw [hr] at h
    cases hd : Utf8.decode content with
    | error e => simp [bind, Except.bind, hd] at h
    | ok u =>
      obtain rfl : u.unifyLineEnds = t := by simpa [bind, Except.bind, hd] using h
      intro c hc
      rcases Text.eq_or_mem_of_mem_unifyLineEnds hc with rfl | hc
      · rfl
      · exact (Utf8.decode_eq_ok_iff.mp hd).scalar c hc

/-- The text that a run binds for a file holds no surrogates. -/
lemma Run.isSurrogate_of_readSource {w : Workspace} {name code : Text}
    (h : readSource w name = .ok code) : ∀ c ∈ code, c.isSurrogate = false := by
  rw [readSource] at h
  cases hr : w.readText (Path.ofText name) with
  | error e =>
    rw [hr] at h
    cases h
  | ok t =>
    rw [hr] at h
    obtain rfl := Except.ok.inj h
    exact Workspace.isSurrogate_of_readText hr

end ScriptLint
