import PageNotes.Proofs.Text.Endings

/-!
Texts that pass through bytes. The bytes of a text are read back as this text, so decoding leaves a
text without percent signs alone, and it can be done on both sides of a slash. What was
percent-encoded is decoded to the text that it was made from.

* `utf8Step_utf8Bytes`: the bytes of a character are read as this character;
* `utf8DecodeLossy_utf8Encode`: the bytes of a text are read as this text;
* `percentDecode_slash`: percent-decoding around a slash;
* `percentDecode_percentEncode`: decoding undoes encoding;
* `mem_percentEncode`, `head?_percentEncode`: the characters of an encoded text.
-/

namespace PageNotes

/-! ### Bytes by their numbers -/

lemma toNat_byte {n : ℕ} (h : n < 0x100) : n.toUInt8.toNat = n := by
  rw [Nat.toUInt8_eq, UInt8.toNat_ofNat', Nat.mod_eq_of_lt h]

lemma isTail_iff {b : UInt8} : isTail b = true ↔ 0x80 ≤ b.toNat ∧ b.toNat < 0xC0 := by
  rw [isTail, Bool.and_eq_true, decide_eq_true_eq, decide_eq_true_eq, UInt8.le_iff_toNat_le,
    UInt8.lt_iff_toNat_lt]
  exact Iff.rfl

/-- A second byte is neither part of an overlong form, nor of a surrogate, nor of a number beyond
the last code point. -/
lemma isSecond_of_toNat {a b : UInt8} (hb : isTail b = true)
    (hthree : a.toNat = 0xE0 → 0xA0 ≤ b.toNat) (hsurrogate : a.toNat = 0xED → b.toNat < 0xA0)
    (hfour : a.toNat = 0xF0 → 0x90 ≤ b.toNat) (hlast : a.toNat = 0xF4 → b.toNat < 0x90) :
    isSecond a b = true := by
  simp only [isSecond, hb, Bool.true_and, Bool.and_eq_true, Bool.not_eq_true',
    Bool.and_eq_false_iff, decide_eq_false_iff_not, ← UInt8.toNat_inj, UInt8.lt_iff_toNat_lt,
    UInt8.le_iff_toNat_le, UInt8.toNat_ofNat]
  omega

/-! ### Steps of reading, by the first byte -/

section Step

variable {a b c d : UInt8} (rest : Bytes)

lemma utf8Step_one (ha : a.toNat < 0x80) : utf8Step a rest = .char (Char.ofNat a.toNat) 1 := by
  rw [utf8Step.eq_def, if_pos (UInt8.lt_iff_toNat_lt.mpr ha)]

lemma utf8Step_two (hge : 0xC2 ≤ a.toNat) (hlt : a.toNat < 0xE0) (hb : isTail b = true) :
    utf8Step a (b :: rest) = .char (Char.ofNat (tailValue (a.toNat - 0xC0) [b])) 2 := by
  rw [utf8Step.eq_def, if_neg, if_neg, if_pos]
  · exact if_pos hb
  all_goals
    simp only [UInt8.lt_iff_toNat_lt, UInt8.toNat_ofNat]
    omega

lemma utf8Step_three (hge : 0xE0 ≤ a.toNat) (hlt : a.toNat < 0xF0) (hb : isSecond a b = true)
    (hc : isTail c = true) :
    utf8Step a (b :: c :: rest)
      = .char (Char.ofNat (tailValue (a.toNat - 0xE0) [b, c])) 3 := by
  rw [utf8Step.eq_def, if_neg, if_neg, if_neg, if_pos]
  · simp only [hb, hc, Bool.not_true, Bool.false_eq_true, if_false]
  all_goals
    simp only [UInt8.lt_iff_toNat_lt, UInt8.toNat_ofNat]
    omega

lemma utf8Step_four (hge : 0xF0 ≤ a.toNat) (hlt : a.toNat < 0xF5) (hb : isSecond a b = true)
    (hc : isTail c = true) (hd : isTail d = true) :
    utf8Step a (b :: c :: d :: rest)
      = .char (Char.ofNat (tailValue (a.toNat - 0xF0) [b, c, d])) 4 := by
  rw [utf8Step.eq_def, if_neg, if_neg, if_neg, if_neg, if_pos]
  · simp only [hb, hc, hd, Bool.not_true, Bool.false_eq_true, if_false]
  all_goals
    simp only [UInt8.lt_iff_toNat_lt, UInt8.toNat_ofNat]
    omega

end Step

/-! ### The bytes of a text -/

/-- The payload of a byte behind the first. -/
lemma tailByte (n : ℕ) : isTail (0x80 + n % 0x40).toUInt8 = true ∧
    (0x80 + n % 0x40).toUInt8.toNat = 0x80 + n % 0x40 := by
  have hbyte := toNat_byte (show 0x80 + n % 0x40 < 0x100 by omega)
  exact ⟨isTail_iff.mpr (by omega), hbyte⟩

/-- The bytes of a character are read as this character, whatever follows. -/
lemma utf8Step_utf8Bytes (c : Char) : ∃ a tails, utf8Bytes c = a :: tails ∧
    ∀ rest, utf8Step a (tails ++ rest) = .char c (tails.length + 1) := by
  have hvalid : c.toNat < 0xD800 ∨ 0xDFFF < c.toNat ∧ c.toNat < 0x110000 := c.valid
  obtain ⟨hlast, hlastNat⟩ := tailByte c.toNat
  obtain ⟨hmiddle, hmiddleNat⟩ := tailByte (c.toNat / 0x40)
  obtain ⟨hhigh, hhighNat⟩ := tailByte (c.toNat / 0x1000)
  rw [utf8Bytes]
  split_ifs with hone htwo hthree
  · refine ⟨_, _, rfl, fun rest => ?_⟩
    have ha := toNat_byte (show c.toNat < 0x100 by omega)
    rw [List.nil_append, utf8Step_one rest (by omega), ha, Char.ofNat_toNat]
    rfl
  · refine ⟨_, _, rfl, fun rest => ?_⟩
    have ha := toNat_byte (show 0xC0 + c.toNat / 0x40 < 0x100 by omega)
    have hvalue : tailValue (0xC0 + c.toNat / 0x40 - 0xC0) [(0x80 + c.toNat % 0x40).toUInt8]
        = c.toNat := by
      rw [tailValue, List.foldl_cons, List.foldl_nil, hlastNat]
      omega
    rw [List.singleton_append, utf8Step_two rest (by omega) (by omega) hlast, ha, hvalue,
      Char.ofNat_toNat]
    rfl
  · refine ⟨_, _, rfl, fun rest => ?_⟩
    have ha := toNat_byte (show 0xE0 + c.toNat / 0x1000 < 0x100 by omega)
    have hvalue : tailValue (0xE0 + c.toNat / 0x1000 - 0xE0)
        [(0x80 + c.toNat / 0x40 % 0x40).toUInt8, (0x80 + c.toNat % 0x40).toUInt8] = c.toNat := by
      rw [tailValue, List.foldl_cons, List.foldl_cons, List.foldl_nil, hlastNat, hmiddleNat]
      omega
    have hsecond := isSecond_of_toNat (a := (0xE0 + c.toNat / 0x1000).toUInt8) hmiddle
      (by omega) (by omega) (by omega) (by omega)
    rw [List.cons_append, List.singleton_append,
      utf8Step_three rest (by omega) (by omega) hsecond hlast, ha, hvalue, Char.ofNat_toNat]
    rfl
  · refine ⟨_, _, rfl, fun rest => ?_⟩
    have ha := toNat_byte (show 0xF0 + c.toNat / 0x40000 < 0x100 by omega)
    have hvalue : tailValue (0xF0 + c.toNat / 0x40000 - 0xF0)
        [(0x80 + c.toNat / 0x1000 % 0x40).toUInt8, (0x80 + c.toNat / 0x40 % 0x40).toUInt8,
          (0x80 + c.toNat % 0x40).toUInt8] = c.toNat := by
      rw [tailValue, List.foldl_cons, List.foldl_cons, List.foldl_cons, List.foldl_nil, hlastNat,
        hmiddleNat, hhighNat]
      omega
    have hsecond := isSecond_of_toNat (a := (0xF0 + c.toNat / 0x40000).toUInt8) hhigh
      (by omega) (by omega) (by omega) (by omega)
    rw [List.cons_append, List.cons_append, List.singleton_append,
      utf8Step_four rest (by omega) (by omega) hsecond hmiddle hlast, ha, hvalue,
      Char.ofNat_toNat]
    rfl

/-- Bytes that belong to the step before are passed over. -/
lemma utf8DecodeLossyFrom_skip (passed rest : Bytes) :
    utf8DecodeLossyFrom passed.length (passed ++ rest) = utf8DecodeLossyFrom 0 rest := by
  induction passed with
  | nil => rfl
  | cons a passed ih => exact ih

lemma utf8DecodeLossyFrom_utf8Bytes (c : Char) (rest : Bytes) :
    utf8DecodeLossyFrom 0 (utf8Bytes c ++ rest) = c :: utf8DecodeLossyFrom 0 rest := by
  obtain ⟨a, tails, hbytes, hstep⟩ := utf8Step_utf8Bytes c
  rw [hbytes, List.cons_append, utf8DecodeLossyFrom_cons, hstep]
  exact congrArg (c :: ·) (utf8DecodeLossyFrom_skip tails rest)

/-- The bytes of a text are read as this text. -/
lemma utf8DecodeLossy_utf8Encode (t : Text) : utf8DecodeLossy (utf8Encode t) = t := by
  induction t with
  | nil => rfl
  | cons c t ih =>
      rw [utf8Encode, List.flatMap_cons, utf8DecodeLossy, utf8DecodeLossyFrom_utf8Bytes]
      exact congrArg (c :: ·) ih

/-! ### Percent-encoding -/

lemma percentBytes_of_notMem {t : Text} (h : '%' ∉ t) : percentBytes 0 t = utf8Encode t := by
  induction t with
  | nil => rfl
  | cons c t ih =>
      rw [List.mem_cons, not_or] at h
      rw [percentBytes_cons, encodedByte?_eq_none (Ne.symm h.1), utf8Encode, List.flatMap_cons]
      exact congrArg (utf8Bytes c ++ ·) (ih h.2)

/-- Whether or not there is a percent sign, a text is decoded as the bytes it stands for. -/
lemma percentDecode_eq (t : Text) : percentDecode t = utf8DecodeLossy (percentBytes 0 t) := by
  rw [percentDecode]
  split_ifs with h
  · rfl
  · have hnot : '%' ∉ t := by simpa [Text.has] using h
    rw [percentBytes_of_notMem hnot, utf8DecodeLossy_utf8Encode]

/-- What stands on the two sides of a slash is decoded apart. -/
lemma percentDecode_slash (a b : Text) :
    percentDecode (a ++ '/' :: b) = percentDecode a ++ '/' :: percentDecode b := by
  have hbytes : percentBytes 0 ('/' :: b) = asciiByte '/' :: percentBytes 0 b := by
    rw [percentBytes_cons, encodedByte?_eq_none (by decide), utf8Bytes_ascii (by decide)]
    rfl
  have hstep : utf8Step (asciiByte '/') (percentBytes 0 b) = .char '/' 1 :=
    utf8Step_one _ (by decide)
  rw [percentDecode_eq, percentDecode_eq, percentDecode_eq, utf8DecodeLossy,
    percentBytes_append (Nat.zero_le _) (by simp; decide), hbytes,
    utf8DecodeLossyFrom_append (Nat.zero_le _) (by decide), utf8DecodeLossyFrom_cons, hstep]
  rfl

/-! ### Encoded texts -/

/-- A hexadecimal digit has its value and stands for itself when it is encoded. -/
lemma hexDigit_spec :
    ∀ n < 16, hexValue? (hexDigit n) = some n ∧ isUnreserved (hexDigit n) = true := by
  decide

/-- An encoded byte is read as this byte. -/
lemma percentBytes_percentByte (b : UInt8) (t : Text) :
    percentBytes 0 (percentByte b ++ t) = b :: percentBytes 0 t := by
  have hlt := b.toNat_lt
  have hbyte : (16 * (b.toNat / 16) + b.toNat % 16).toUInt8 = b := by
    rw [Nat.div_add_mod, Nat.toUInt8_eq, UInt8.ofNat_toNat]
  have hencoded : encodedByte? '%' (hexDigit (b.toNat / 16) :: hexDigit (b.toNat % 16) :: t)
      = some b := by
    rw [encodedByte?, if_pos rfl, (hexDigit_spec _ (by omega)).1, (hexDigit_spec _ (by omega)).1,
      Option.bind_some, Option.map_some, hbyte]
  calc percentBytes 0 (percentByte b ++ t)
      = percentBytes 0
          ('%' :: hexDigit (b.toNat / 16) :: hexDigit (b.toNat % 16) :: t) := rfl
    _ = b :: percentBytes 2 (hexDigit (b.toNat / 16) :: hexDigit (b.toNat % 16) :: t) := by
      rw [percentBytes_cons, hencoded]
    _ = b :: percentBytes 0 t := rfl

lemma percentBytes_flatMap_percentByte (bytes : Bytes) (t : Text) :
    percentBytes 0 (bytes.flatMap percentByte ++ t) = bytes ++ percentBytes 0 t := by
  induction bytes with
  | nil => rfl
  | cons b bytes ih =>
      rw [List.flatMap_cons, List.append_assoc, percentBytes_percentByte, ih, List.cons_append]

/-- An encoded text stands for the bytes of the text. -/
lemma percentBytes_percentEncode (t : Text) : percentBytes 0 (percentEncode t) = utf8Encode t := by
  induction t with
  | nil => rfl
  | cons c t ih =>
      rw [percentEncode] at ih
      rw [percentEncode, List.flatMap_cons, utf8Encode, List.flatMap_cons, ← utf8Encode, ← ih]
      split_ifs with hc
      · have hne : c ≠ '%' := by
          rintro rfl
          exact absurd hc (by decide)
        rw [List.singleton_append, percentBytes_cons, encodedByte?_eq_none hne]
      · exact percentBytes_flatMap_percentByte _ _

/-- Decoding undoes encoding. -/
theorem percentDecode_percentEncode (t : Text) : percentDecode (percentEncode t) = t := by
  rw [percentDecode_eq, percentBytes_percentEncode, utf8DecodeLossy_utf8Encode]

/-- An encoded text is made of unreserved characters and percent signs. -/
lemma mem_percentEncode {c : Char} {t : Text} (h : c ∈ percentEncode t) :
    isUnreserved c = true ∨ c = '%' := by
  obtain ⟨d, -, hd⟩ := List.mem_flatMap.mp h
  split_ifs at hd with hkept
  · exact Or.inl (List.mem_singleton.mp hd ▸ hkept)
  · obtain ⟨b, -, hb⟩ := List.mem_flatMap.mp hd
    have hlt := b.toNat_lt
    have hdigit : ∀ n < 16, c = hexDigit n → isUnreserved c = true := fun n hn hc =>
      hc ▸ (hexDigit_spec n hn).2
    simp only [percentByte, List.mem_cons, List.not_mem_nil, or_false] at hb
    rcases hb with hb | hb | hb
    · exact Or.inr hb
    · exact Or.inl (hdigit _ (by omega) hb)
    · exact Or.inl (hdigit _ (by omega) hb)

/-- An encoded text starts with the first character if that is unreserved, or with a percent
sign. -/
lemma head?_percentEncode (t : Text) :
    (percentEncode t).head? = t.head?.map fun c => if isUnreserved c then c else '%' := by
  cases t with
  | nil => rfl
  | cons c t =>
      rw [percentEncode, List.flatMap_cons, List.head?_cons, Option.map_some]
      split_ifs
      · rfl
      · obtain ⟨a, tails, hbytes, -⟩ := utf8Step_utf8Bytes c
        rw [hbytes]
        rfl

end PageNotes
