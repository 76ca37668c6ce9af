import Mathlib.Tactic.Common
import PageNotes.Text.LetterCase
import PageNotes.Text.Percent

/-!
Endings of texts that are made of ASCII. Such an ending is found in a text when its lower-case form
has it, and it is left alone when the text is percent-decoded.

* `mem_lowerForm`: what lower-case forms are made of;
* `lowerForm_of_isAscii`, `isAscii_of_lowerForm`: which characters have a lower-case form of ASCII;
* `Text.lower_ascii`: a text of ASCII in lower case;
* `Text.exists_ending_of_lower`: an ending of the lower-case form, in the text itself;
* `utf8DecodeLossyFrom_append`: a byte of ASCII ends what stands before it;
* `percentDecode_append`: an ending without a percent sign or a digit at its start.
-/

namespace PageNotes

/-- A character of ASCII. -/
def IsAscii (c : Char) : Prop := c.toNat < 0x80

instance (c : Char) : Decidable (IsAscii c) := inferInstanceAs (Decidable (c.toNat < 0x80))

/-! ### Lower case -/

lemma CodeRun.exists_of_lookup {runs : List CodeRun} {m n : Nat} (h : lookup runs m = some n) :
    ∃ run ∈ runs, run.image? m = some n := by
  induction runs with
  | nil => cases h
  | cons run runs ih =>
      rw [lookup] at h
      split_ifs at h
      rcases Option.or_eq_some_iff.mp h with hfirst | ⟨-, hrest⟩
      · exact ⟨run, List.mem_cons_self, hfirst⟩
      · obtain ⟨other, hmem, himage⟩ := ih hrest
        exact ⟨other, List.mem_cons_of_mem _ hmem, himage⟩

/-- The runs of lower-case forms lead to ASCII from ASCII alone, but for the sign of the unit
kelvin. -/
lemma lowerRuns_image : ∀ run ∈ lowerRuns,
    (run.image + (run.last - run.first)).isValidChar ∧
      (0xE000 ≤ run.image ∨ run.image + (run.last - run.first) < 0xD800) ∧
      (run.last < 0x80 ∨ 0x80 ≤ run.image ∨ run.image = 'k'.toNat ∧ run.first = run.last) := by
  decide +kernel

lemma lowerForm_ne_nil (c : Char) : lowerForm c ≠ [] := by
  rw [lowerForm]
  split_ifs
  · exact List.cons_ne_nil _ _
  · split <;> exact List.cons_ne_nil _ _

/-- A character of ASCII has the lower-case form of ASCII. -/
lemma lowerForm_of_isAscii {c : Char} (h : IsAscii c) : lowerForm c = [c.toLower] := by
  have hall : ∀ n < 0x80, lowerForm (Char.ofNat n) = [(Char.ofNat n).toLower] := by decide +kernel
  have hc := hall c.toNat h
  rwa [Char.ofNat_toNat] at hc

/-- What a lower-case form is made of: the character itself, the form of the dotted capital I, or
the character that a run leads to. -/
lemma mem_lowerForm {c d : Char} (h : d ∈ lowerForm c) :
    d = c ∨ c = 'İ' ∧ d ∈ ['i', Char.ofNat 0x307] ∨
      ∃ run ∈ lowerRuns, run.first ≤ c.toNat ∧ c.toNat ≤ run.last ∧
        (c.toNat - run.first) % run.step = 0 ∧ d.toNat = run.image + (c.toNat - run.first) := by
  rw [lowerForm] at h
  split_ifs at h with hdotted
  · exact Or.inr (Or.inl ⟨hdotted, h⟩)
  cases hlookup : CodeRun.lookup lowerRuns c.toNat with
  | none =>
      rw [hlookup] at h
      exact Or.inl (List.mem_singleton.mp h)
  | some n =>
      rw [hlookup] at h
      obtain rfl := List.mem_singleton.mp h
      obtain ⟨run, hrun, himage⟩ := CodeRun.exists_of_lookup hlookup
      obtain ⟨hvalid, hsurrogate, -⟩ := lowerRuns_image run hrun
      rw [CodeRun.image?] at himage
      split_ifs at himage with hon
      have himage : run.image + (c.toNat - run.first) = n := Option.some.inj himage
      have hn : n.isValidChar := by
        rw [Nat.isValidChar] at hvalid ⊢
        omega
      have hnumber : (Char.ofNat n).toNat = n := by
        rw [Char.ofNat, dif_pos hn]
        rfl
      exact Or.inr (Or.inr ⟨run, hrun, hon.1, hon.2.1, hon.2.2, hnumber.trans himage.symm⟩)

/-- A lower-case form that ends in ASCII is that of a character of ASCII, but for the letter that
the sign of the unit kelvin has as its form. -/
lemma isAscii_of_lowerForm {c d : Char} (hd : IsAscii d) (hk : d ≠ 'k')
    (h : (lowerForm c).getLast? = some d) : IsAscii c := by
  rcases mem_lowerForm (List.mem_of_getLast? h) with
    rfl | ⟨rfl, -⟩ | ⟨run, hrun, _, _, -, himage⟩
  · exact hd
  · -- the form of the dotted capital I ends with the dot
    have hlast : (lowerForm 'İ').getLast? = some (Char.ofNat 0x307) := by decide
    obtain rfl := Option.some.inj (hlast.symm.trans h)
    exact absurd hd (by decide)
  · obtain ⟨-, -, hascii⟩ := lowerRuns_image run hrun
    have hne : d.toNat ≠ 'k'.toNat := fun heq => hk (Char.toNat_inj.mp heq)
    rw [IsAscii] at hd ⊢
    omega

namespace Text

/-- The lower-case form of a text starts with the form of its first character. If this ends in
ASCII, the character is of ASCII as well. -/
lemma lowerAfter_cons (inWord : Bool) (c : Char) (t : Text) :
    ∃ form next, lowerAfter inWord (c :: t) = form ++ lowerAfter next t ∧ form ≠ [] ∧
      ∀ d, form.getLast? = some d → IsAscii d → d ≠ 'k' → IsAscii c ∧ form = [c.toLower] := by
  refine ⟨_, _, rfl, ?_, ?_⟩
  · split_ifs
    · exact List.cons_ne_nil _ _
    · exact List.cons_ne_nil _ _
    · exact lowerForm_ne_nil c
  · intro d hlast hd hk
    by_cases hsigma : c = 'Σ'
    · -- neither form of the sigma is in ASCII
      rw [if_pos hsigma] at hlast
      split_ifs at hlast
      · obtain rfl : 'ς' = d := Option.some.inj hlast
        exact absurd hd (by decide)
      · obtain rfl : 'σ' = d := Option.some.inj hlast
        exact absurd hd (by decide)
    · rw [if_neg hsigma] at hlast ⊢
      have hc := isAscii_of_lowerForm hd hk hlast
      exact ⟨hc, lowerForm_of_isAscii hc⟩

/-- A text of ASCII in lower case. -/
lemma lower_ascii {t : Text} (h : ∀ c ∈ t, IsAscii c) : t.lower = t.map Char.toLower := by
  have hall (inWord : Bool) : lowerAfter inWord t = t.map Char.toLower := by
    induction t generalizing inWord with
    | nil => rfl
    | cons c t ih =>
        have hc := h c List.mem_cons_self
        have hsigma : c ≠ 'Σ' := by
          rintro rfl
          exact absurd hc (by decide)
        rw [lowerAfter, if_neg hsigma, lowerForm_of_isAscii hc,
          ih fun d hd => h d (List.mem_cons_of_mem _ hd)]
        rfl
  exact hall false

lemma length_le_length_lowerAfter (inWord : Bool) (t : Text) :
    t.length ≤ (lowerAfter inWord t).length := by
  induction t generalizing inWord with
  | nil => exact Nat.zero_le _
  | cons c t ih =>
      obtain ⟨form, next, heq, hne, -⟩ := lowerAfter_cons inWord c t
      have hform := List.length_pos_iff.mpr hne
      have hrest := ih next
      rw [heq, List.length_append, List.length_cons]
      omega

lemma lower_eq_nil_iff {t : Text} : t.lower = [] ↔ t = [] := by
  constructor
  · intro h
    have hlength := length_le_length_lowerAfter false t
    rw [← lower, h, List.length_nil] at hlength
    exact List.eq_nil_of_length_eq_zero (Nat.le_zero.mp hlength)
  · rintro rfl
    rfl

/-- What the lower-case form of a text ends with is the lower-case form of an ending of the text, if
it is of ASCII without the letter `k`. -/
lemma exists_ending_of_lowerAfter {inWord : Bool} {t start ending : Text}
    (hending : ∀ c ∈ ending, IsAscii c ∧ c ≠ 'k') (h : lowerAfter inWord t = start ++ ending) :
    ∃ before after, t = before ++ after ∧ after.map Char.toLower = ending ∧
      ∀ c ∈ after, IsAscii c := by
  induction t generalizing inWord start ending with
  | nil =>
      obtain ⟨-, rfl⟩ := List.append_eq_nil_iff.mp h.symm
      exact ⟨[], [], rfl, rfl, by simp⟩
  | cons c t ih =>
      obtain ⟨form, next, heq, -, hform⟩ := lowerAfter_cons inWord c t
      rw [heq] at h
      rcases List.append_eq_append_iff.mp h with ⟨middle, -, hrest⟩ | ⟨middle, hsplit, rfl⟩
      · obtain ⟨before, after, rfl, hafter⟩ := ih hending hrest
        exact ⟨c :: before, after, rfl, hafter⟩
      obtain ⟨before, after, rfl, hlower, hafter⟩ :=
        @ih next [] _ (fun d hd => hending d (List.mem_append_right _ hd)) rfl
      cases hmiddle : middle.getLast? with
      | none =>
          rw [List.getLast?_eq_none_iff] at hmiddle
          subst hmiddle
          exact ⟨c :: before, after, rfl, hlower, hafter⟩
      | some d =>
          -- the ending reaches into the form of `c`, so it covers the forms of all that follows
          obtain ⟨hd, hk⟩ := hending d (List.mem_append_left _ (List.mem_of_getLast? hmiddle))
          obtain ⟨hc, rfl⟩ := hform d (by rw [hsplit, List.getLast?_append, hmiddle]; rfl) hd hk
          have hlength := length_le_length_lowerAfter next (before ++ after)
          rw [← hlower, List.length_map, List.length_append] at hlength
          have hbefore : before = [] := List.eq_nil_of_length_eq_zero (by omega)
          have hwhole : start = [] ∧ middle = [c.toLower] := by
            rcases List.append_eq_singleton_iff.mp hsplit.symm with hwhole | ⟨-, rfl⟩
            · exact hwhole
            · cases hmiddle
          rw [hwhole.2]
          subst hbefore
          exact ⟨[], c :: after, rfl, by rw [List.map_cons, hlower]; rfl,
            by simpa [hc] using hafter⟩

/-- What the lower-case form of a text ends with, in the text itself. -/
lemma exists_ending_of_lower {t ending : Text} (hending : ∀ c ∈ ending, IsAscii c ∧ c ≠ 'k')
    (h : ending <:+ t.lower) :
    ∃ before after, t = before ++ after ∧ after.map Char.toLower = ending ∧
      ∀ c ∈ after, IsAscii c := by
  obtain ⟨start, hstart⟩ := h
  exact exists_ending_of_lowerAfter hending hstart.symm

end Text

/-! ### Percent-encoding -/

/-- The character that a step of reading bytes gives, and the number of bytes it takes. -/
def Utf8Step.lossy : Utf8Step → Char × Nat
  | .char c length => (c, length)
  | .bad _ length => ('\uFFFD', length)

lemma utf8DecodeLossyFrom_cons (a : UInt8) (rest : Bytes) :
    utf8DecodeLossyFrom 0 (a :: rest) = (utf8Step a rest).lossy.1 ::
      utf8DecodeLossyFrom ((utf8Step a rest).lossy.2 - 1) rest := by
  rw [utf8DecodeLossyFrom]
  cases utf8Step a rest <;> rfl

/-- A step does not look beyond a byte of ASCII, and does not take it. -/
lemma utf8Step_append (a : UInt8) (bytes : Bytes) {b : UInt8} (hb : b < 0x80) (rest : Bytes) :
    (utf8Step a (bytes ++ b :: rest)).lossy = (utf8Step a bytes).lossy ∧
      (utf8Step a bytes).lossy.2 - 1 ≤ bytes.length := by
  have htail : isTail b = false := by
    rw [isTail, Bool.and_eq_false_iff, decide_eq_false_iff_not, UInt8.not_le]
    exact Or.inl hb
  have hsecond : isSecond a b = false := by
    rw [isSecond, htail]
    rfl
  rw [utf8Step.eq_def, utf8Step.eq_def]
  by_cases hone : a < 0x80
  · rw [if_pos hone, if_pos hone]
    exact ⟨rfl, Nat.zero_le _⟩
  by_cases hnone : a < 0xC2
  · rw [if_neg hone, if_neg hone, if_pos hnone, if_pos hnone]
    exact ⟨rfl, Nat.zero_le _⟩
  rw [if_neg hone, if_neg hone, if_neg hnone, if_neg hnone]
  by_cases htwo : a < 0xE0
  · rw [if_pos htwo, if_pos htwo]
    rcases bytes with _ | ⟨c, bytes⟩
    · simp [htail, Utf8Step.lossy]
    · cases hc : isTail c <;> simp [hc, Utf8Step.lossy]
  rw [if_neg htwo, if_neg htwo]
  by_cases hthree : a < 0xF0
  · rw [if_pos hthree, if_pos hthree]
    rcases bytes with _ | ⟨c, _ | ⟨d, bytes⟩⟩
    · cases rest <;> simp [hsecond, Utf8Step.lossy]
    · cases hc : isSecond a c <;> simp [hc, htail, Utf8Step.lossy]
    · cases hc : isSecond a c <;> cases hd : isTail d <;> simp [hc, hd, Utf8Step.lossy]
  rw [if_neg hthree, if_neg hthree]
  by_cases hfour : a < 0xF5
  · rw [if_pos hfour, if_pos hfour]
    rcases bytes with _ | ⟨c, _ | ⟨d, _ | ⟨e, bytes⟩⟩⟩
    · rcases rest with _ | ⟨x, _ | ⟨y, rest⟩⟩ <;> simp [hsecond, Utf8Step.lossy]
    · cases rest <;> cases hc : isSecond a c <;> simp [hc, htail, Utf8Step.lossy]
    · cases hc : isSecond a c <;> cases hd : isTail d <;> simp [hc, hd, htail, Utf8Step.lossy]
    · cases hc : isSecond a c <;> cases hd : isTail d <;> cases he : isTail e <;>
        simp [hc, hd, he, Utf8Step.lossy]
  · rw [if_neg hfour, if_neg hfour]
    exact ⟨rfl, Nat.zero_le _⟩

/-- Bytes are read apart on both sides of the place before a byte of ASCII. -/
lemma utf8DecodeLossyFrom_append {skip : Nat} {bytes : Bytes} (hskip : skip ≤ bytes.length)
    {b : UInt8} (hb : b < 0x80) (rest : Bytes) :
    utf8DecodeLossyFrom skip (bytes ++ b :: rest)
      = utf8DecodeLossyFrom skip bytes ++ utf8DecodeLossyFrom 0 (b :: rest) := by
  induction bytes generalizing skip with
  | nil =>
      obtain rfl := Nat.le_zero.mp hskip
      rfl
  | cons a bytes ih =>
      cases skip with
      | succ skip =>
          rw [List.cons_append, utf8DecodeLossyFrom, utf8DecodeLossyFrom]
          exact ih (Nat.le_of_succ_le_succ hskip)
      | zero =>
          obtain ⟨hsame, hlength⟩ := utf8Step_append a bytes hb rest
          rw [List.cons_append, utf8DecodeLossyFrom_cons, utf8DecodeLossyFrom_cons, hsame,
            ih hlength, List.cons_append]

/-- The byte of a character of ASCII. -/
def asciiByte (c : Char) : UInt8 := c.toNat.toUInt8

lemma asciiByte_toNat {c : Char} (h : IsAscii c) : (asciiByte c).toNat = c.toNat := by
  rw [IsAscii] at h
  rw [asciiByte, Nat.toUInt8_eq, UInt8.toNat_ofNat', Nat.mod_eq_of_lt (by omega)]

lemma asciiByte_lt {c : Char} (h : IsAscii c) : asciiByte c < 0x80 := by
  rw [UInt8.lt_iff_toNat_lt, asciiByte_toNat h]
  exact h

lemma utf8DecodeLossyFrom_ascii {t : Text} (h : ∀ c ∈ t, IsAscii c) :
    utf8DecodeLossyFrom 0 (t.map asciiByte) = t := by
  induction t with
  | nil => rfl
  | cons c t ih =>
      have hc := h c List.mem_cons_self
      have hstep : utf8Step (asciiByte c) (t.map asciiByte) = .char c 1 := by
        rw [utf8Step.eq_def, if_pos (asciiByte_lt hc), asciiByte_toNat hc, Char.ofNat_toNat]
      rw [List.map_cons, utf8DecodeLossyFrom_cons, hstep]
      exact congrArg (c :: ·) (ih fun d hd => h d (List.mem_cons_of_mem _ hd))

lemma utf8Bytes_ascii {c : Char} (h : IsAscii c) : utf8Bytes c = [asciiByte c] := by
  rw [utf8Bytes]
  exact if_pos h

/-- The byte that a percent sign and two hexadecimal digits encode. -/
def encodedByte? (c : Char) : Text → Option UInt8
  | high :: low :: _ =>
    if c = '%' then
      (hexValue? high).bind fun high => (hexValue? low).map fun low => (16 * high + low).toUInt8
    else none
  | _ => none

lemma encodedByte?_eq_none {c : Char} (hc : c ≠ '%') (t : Text) : encodedByte? c t = none := by
  rw [encodedByte?.eq_def]
  split
  · exact if_neg hc
  · rfl

lemma percentBytes_cons (c : Char) (t : Text) :
    percentBytes 0 (c :: t) = match encodedByte? c t with
      | some byte => byte :: percentBytes 2 t
      | none => utf8Bytes c ++ percentBytes 0 t := by
  rw [percentBytes]
  by_cases hc : c = '%'
  · rw [if_pos hc]
    rcases t with _ | ⟨high, _ | ⟨low, t⟩⟩
    · rfl
    · simp [encodedByte?]
    · cases hhigh : hexValue? high <;> cases hlow : hexValue? low <;>
        simp [encodedByte?, hc, hhigh, hlow]
  · rw [if_neg hc]
    rcases t with _ | ⟨high, _ | ⟨low, t⟩⟩ <;> simp [encodedByte?, hc]

lemma length_of_encodedByte? {c : Char} {t : Text} {byte : UInt8}
    (h : encodedByte? c t = some byte) : 2 ≤ t.length := by
  rcases t with _ | ⟨high, _ | ⟨low, t⟩⟩
  · cases h
  · cases h
  · exact Nat.le_add_left _ _

/-- An encoded byte does not reach into what does not start with a digit. -/
lemma encodedByte?_append (c : Char) (t : Text) {ending : Text}
    (hhead : ∀ d ∈ ending.head?, hexValue? d = none) :
    encodedByte? c (t ++ ending) = encodedByte? c t := by
  rcases t with _ | ⟨high, _ | ⟨low, t⟩⟩
  · rcases ending with _ | ⟨d, _ | ⟨e, ending⟩⟩
    · rfl
    · rfl
    · simp [encodedByte?, hhead d rfl]
  · rcases ending with _ | ⟨d, ending⟩
    · rfl
    · simp [encodedByte?, hhead d rfl]
  · rfl

lemma percentBytes_append {skip : Nat} {t ending : Text} (hskip : skip ≤ t.length)
    (hhead : ∀ d ∈ ending.head?, hexValue? d = none) :
    percentBytes skip (t ++ ending) = percentBytes skip t ++ percentBytes 0 ending := by
  induction t generalizing skip with
  | nil =>
      obtain rfl := Nat.le_zero.mp hskip
      rfl
  | cons c t ih =>
      cases skip with
      | succ skip =>
          rw [List.cons_append, percentBytes, percentBytes]
          exact ih (Nat.le_of_succ_le_succ hskip)
      | zero =>
          rw [List.cons_append, percentBytes_cons, percentBytes_cons, encodedByte?_append c t hhead]
          cases hbyte : encodedByte? c t with
          | some byte => exact congrArg (byte :: ·) (ih (length_of_encodedByte? hbyte))
          | none =>
              dsimp only
              rw [ih (Nat.zero_le _), List.append_assoc]

lemma percentBytes_ascii {t : Text} (h : ∀ c ∈ t, IsAscii c ∧ c ≠ '%') :
    percentBytes 0 t = t.map asciiByte := by
  induction t with
  | nil => rfl
  | cons c t ih =>
      obtain ⟨hc, hpercent⟩ := h c List.mem_cons_self
      rw [percentBytes_cons, encodedByte?_eq_none hpercent]
      dsimp only
      rw [utf8Bytes_ascii hc, ih fun d hd => h d (List.mem_cons_of_mem _ hd)]
      rfl

/-- An ending of ASCII that holds no percent sign and does not start with a digit is left alone when
a text is percent-decoded. -/
lemma percentDecode_append (t : Text) {ending : Text} (hne : ending ≠ [])
    (h : ∀ c ∈ ending, IsAscii c ∧ c ≠ '%') (hhead : ∀ c ∈ ending.head?, hexValue? c = none) :
    percentDecode (t ++ ending) = percentDecode t ++ ending := by
  have hplain : ending.contains '%' = false := by
    rw [List.contains_eq_mem, decide_eq_false_iff_not]
    exact fun hmem => (h '%' hmem).2 rfl
  have hhas : Text.has '%' (t ++ ending) = Text.has '%' t := by
    rw [Text.has, List.contains_append, hplain, Bool.or_false]
  rw [percentDecode, percentDecode, hhas]
  cases hencoded : Text.has '%' t with
  | false => rfl
  | true =>
      obtain ⟨c, rest, rfl⟩ := List.exists_cons_of_ne_nil hne
      have hc := (h c List.mem_cons_self).1
      rw [if_pos rfl, if_pos rfl, utf8DecodeLossy, utf8DecodeLossy,
        percentBytes_append (Nat.zero_le _) hhead, percentBytes_ascii h, List.map_cons,
        utf8DecodeLossyFrom_append (Nat.zero_le _) (asciiByte_lt hc), ← List.map_cons,
        utf8DecodeLossyFrom_ascii fun d hd => (h d hd).1]

end PageNotes
