import Mathlib.Data.List.TakeWhile
import Mathlib.Tactic.Common
import PageNotes.Html.CharacterReference
import PageNotes.Markdown.Footnote

/-!
Character references and the texts in which they are replaced. A reference never reaches over a
character that no reference has, such as a quote. It stands for fewer characters than it is written
with, so a text is left as it is just when no reference is in it.

* `endsReference`, `characterReference?_end`: what ends every reference;
* `characterReference?_length`: the length of a reference and of what it stands for;
* `decodeReferences_attributeText`: quotes that are written as references are read as quotes, and
  nothing else changes;
* `IsReferenceFree`, `decodeReferences_eq_self_iff`: texts without references.
-/

namespace PageNotes

variable {b : Bool} {c : Char} {t u rest chars : Text} {n : ℕ}

/-! ### The end of a reference -/

/-- A character that no reference has and that ends a reference as the end of the text does. -/
def endsReference (c : Char) : Bool :=
  !isAsciiAlphanumeric c && c ≠ '#' && c ≠ ';' && c ≠ '='

lemma takeWhile_append_end {p : Char → Bool} (hc : p c = false) (u rest : Text) :
    (u ++ c :: rest).takeWhile p = u.takeWhile p := by
  induction u with
  | nil => simp only [List.nil_append, List.takeWhile_cons, hc, Bool.false_eq_true, if_false,
      List.takeWhile_nil]
  | cons d u ih => rw [List.cons_append, List.takeWhile_cons, List.takeWhile_cons, ih]

/-- Digits of a reference have the next character after them, unless they end the text. -/
lemma head?_drop_append (hn : n ≤ u.length) :
    ((u ++ c :: rest).drop n).head? = ((u.drop n).head?).or (some c) := by
  rw [List.drop_append_of_le_length hn, List.head?_append]
  rfl

lemma takeWhile_length_le (p : Char → Bool) (t : Text) : (t.takeWhile p).length ≤ t.length :=
  (List.takeWhile_prefix p).length_le

/-- The digits of a number are letters and digits. -/
lemma hexValue?_eq_none (h : isAsciiAlphanumeric c = false) : (hexValue? c).isSome = false := by
  have hle : ∀ a b : Char, a ≤ b ↔ a.val.toNat ≤ b.val.toNat := fun _ _ => Iff.rfl
  simp only [isAsciiAlphanumeric, isAsciiLetter, isAsciiDigit, Bool.or_eq_false_iff,
    Bool.and_eq_false_iff, decide_eq_false_iff_not, hle] at h
  simp only [hexValue?, Bool.and_eq_true, decide_eq_true_eq, hle]
  split_ifs
  · omega
  · have : 'f'.val.toNat ≤ 'z'.val.toNat := by decide
    omega
  · have : 'F'.val.toNat ≤ 'Z'.val.toNat := by decide
    omega
  · rfl

/-- A reference by number from its digits on; `offset` characters were read before. -/
def digitsReference? (digit : Char → Bool) (number : Text → ℕ) (offset : ℕ) (t : Text) :
    Option (Text × ℕ) :=
  let digits := t.takeWhile digit
  if digits.isEmpty then none
  else some ([numberedCharacter (number digits)],
    withSemicolon (digits.length + offset) (t.drop digits.length))

lemma numericReference?_hex (h : c = 'x' ∨ c = 'X') (t : Text) :
    numericReference? (c :: t)
      = digitsReference? (fun c => (hexValue? c).isSome) hexNumber 1 t := by
  rcases h with rfl | rfl <;> rfl

lemma numericReference?_decimal (h : ∀ c ∈ t.head?, ¬(c = 'x' ∨ c = 'X')) :
    numericReference? t = digitsReference? isAsciiDigit decimalNumber 0 t := by
  rw [numericReference?.eq_def]
  split
  · exact absurd (Or.inl rfl) (h 'x' rfl)
  · exact absurd (Or.inr rfl) (h 'X' rfl)
  · rfl

section EndsReference

variable (hc : endsReference c = true)
include hc

/-- What a character that ends a reference is not. -/
lemma ne_of_endsReference : isAsciiAlphanumeric c = false ∧ c ≠ '#' ∧ c ≠ ';' ∧ c ≠ '=' := by
  simpa [endsReference, and_assoc] using hc

lemma semicolon_end (hn : n ≤ u.length) :
    ((u ++ c :: rest).drop n).head? = some ';' ↔ (u.drop n).head? = some ';' := by
  rw [head?_drop_append hn]
  cases (u.drop n).head? with
  | none => simp [(ne_of_endsReference hc).2.2.1]
  | some d => rfl

lemma digitsReference?_end {digit : Char → Bool} (hdigit : digit c = false) (number : Text → ℕ)
    (offset : ℕ) (u rest : Text) :
    digitsReference? digit number offset (u ++ c :: rest)
      = digitsReference? digit number offset u := by
  rw [digitsReference?, digitsReference?, takeWhile_append_end hdigit]
  simp only [withSemicolon, semicolon_end hc (takeWhile_length_le digit u)]

lemma numericReference?_end (u rest : Text) :
    numericReference? (u ++ c :: rest) = numericReference? u := by
  obtain ⟨hletter, -⟩ := ne_of_endsReference hc
  have hmark : ¬(c = 'x' ∨ c = 'X') := by
    rintro (rfl | rfl) <;> cases hletter
  have hdecimal : isAsciiDigit c = false := by
    rw [isAsciiAlphanumeric, Bool.or_eq_false_iff] at hletter
    exact hletter.2
  cases u with
  | nil =>
      rw [List.nil_append, numericReference?_decimal (by simpa using hmark),
        numericReference?_decimal (by simp)]
      exact digitsReference?_end hc hdecimal decimalNumber 0 [] rest
  | cons d u =>
      by_cases hd : d = 'x' ∨ d = 'X'
      · rw [List.cons_append, numericReference?_hex hd, numericReference?_hex hd,
          digitsReference?_end hc (hexValue?_eq_none hletter)]
      · rw [numericReference?_decimal (by simpa using hd),
          numericReference?_decimal (by simpa using hd), digitsReference?_end hc hdecimal]

lemma unclosedReference?_end (rest : Text) (hn : n ≤ u.length) :
    unclosedReference? b (u ++ c :: rest) n = unclosedReference? b u n := by
  obtain ⟨hletter, -, -, hequals⟩ := ne_of_endsReference hc
  induction n with
  | zero => rfl
  | succ n ih =>
      have hnext : ((u ++ c :: rest).drop (n + 1)).head?.any
            (fun c => c = '=' || isAsciiAlphanumeric c)
          = ((u.drop (n + 1)).head?).any (fun c => c = '=' || isAsciiAlphanumeric c) := by
        rw [head?_drop_append hn]
        cases (u.drop (n + 1)).head? with
        | none => simp [hletter, hequals]
        | some d => rfl
      simp only [unclosedReference?, List.take_append_of_le_length hn, hnext,
        ih (Nat.le_of_succ_le hn)]

lemma namedReference?_end (u rest : Text) :
    namedReference? b (u ++ c :: rest) = namedReference? b u := by
  obtain ⟨hletter, -, hsemicolon, -⟩ := ne_of_endsReference hc
  have hname : ((u ++ c :: rest).take (longestName + 1)).takeWhile isAsciiAlphanumeric
      = (u.take (longestName + 1)).takeWhile isAsciiAlphanumeric := by
    rw [List.take_append]
    cases longestName + 1 - u.length with
    | zero => rw [List.take_zero, List.append_nil]
    | succ k => rw [List.take_succ_cons, takeWhile_append_end hletter]
  have hlength : ((u.take (longestName + 1)).takeWhile isAsciiAlphanumeric).length ≤ u.length :=
    (takeWhile_length_le _ _).trans (List.length_take_le' _ _)
  simp only [namedReference?, hname, unclosedReference?_end hc rest hlength,
    semicolon_end hc hlength]

/-- What ends a reference and what stands behind it make no difference to it. -/
lemma characterReference?_end (u rest : Text) :
    characterReference? b (u ++ c :: rest) = characterReference? b u := by
  have hnumber := (ne_of_endsReference hc).2.1
  have hnamed : ∀ {t : Text}, t.head? ≠ some '#' →
      characterReference? b t = namedReference? b t := by
    intro t ht
    rw [characterReference?.eq_def]
    split
    · exact absurd rfl ht
    · rfl
  cases u with
  | nil =>
      rw [List.nil_append, hnamed (by simpa using hnumber), hnamed (by simp)]
      exact namedReference?_end hc [] rest
  | cons d u =>
      by_cases hd : d = '#'
      · subst hd
        rw [List.cons_append, characterReference?, characterReference?, numericReference?_end hc]
      · rw [hnamed (by simpa using hd), hnamed (by simpa using hd), namedReference?_end hc]

end EndsReference

/-! ### The length of a reference -/

/-- No name stands for more than two characters. -/
lemma namedCharacters?_length {name : Text} (h : namedCharacters? name = some chars) :
    0 < name.length ∧ chars.length ≤ 2 := by
  have htable : ∀ c, (referencesFor c).all (fun entry => entry.2.length ≤ 2) = true := by
    intro c
    unfold referencesFor
    split <;> decide +kernel
  cases name with
  | nil => cases h
  | cons c name =>
      obtain ⟨codes, hlookup, rfl⟩ := Option.map_eq_some_iff.mp h
      obtain ⟨before, after, hentries, -⟩ := List.lookup_eq_some_iff.mp hlookup
      have hentry := List.all_eq_true.mp (htable c) (String.ofList (c :: name), codes) (by
        rw [hentries]
        exact List.mem_append_right _ List.mem_cons_self)
      refine ⟨Nat.succ_pos _, ?_⟩
      rw [List.length_map]
      exact of_decide_eq_true hentry

/-- A name that needs no semicolon has two letters or more. -/
lemma unclosedCharacters?_length {name : Text} (h : unclosedCharacters? name = some chars) :
    chars.length ≤ name.length := by
  have htable : referencesWithoutSemicolon.all (fun name => 2 ≤ name.length) = true := by
    decide +kernel
  rw [unclosedCharacters?] at h
  split_ifs at h with hname
  have hlong := List.all_eq_true.mp htable _ (List.contains_iff_mem.mp hname)
  have hlength := (namedCharacters?_length h).2
  rw [decide_eq_true_eq, String.length_ofList] at hlong
  omega

lemma lt_length_of_head?_drop (h : (t.drop n).head? = some c) : n < t.length := by
  rw [List.head?_drop] at h
  exact (List.getElem?_eq_some_iff.mp h).1

lemma digitsReference?_length {digit : Char → Bool} {number : Text → ℕ} {offset : ℕ}
    (h : digitsReference? digit number offset t = some (chars, n)) :
    n ≤ t.length + offset ∧ chars.length ≤ n := by
  have hdigits := takeWhile_length_le digit t
  rw [digitsReference?] at h
  split_ifs at h with hempty
  rw [List.isEmpty_iff, ← List.length_eq_zero_iff] at hempty
  cases h
  rw [withSemicolon, List.length_singleton]
  split_ifs with hsemicolon
  · have hmore := lt_length_of_head?_drop hsemicolon
    omega
  · omega

lemma numericReference?_length (h : numericReference? t = some (chars, n)) :
    n ≤ t.length ∧ chars.length ≤ n := by
  by_cases hmark : ∃ c ∈ t.head?, c = 'x' ∨ c = 'X'
  · obtain ⟨c, hhead, hc⟩ := hmark
    obtain ⟨rest, rfl⟩ := List.head?_eq_some_iff.mp hhead
    rw [numericReference?_hex hc] at h
    exact digitsReference?_length h
  · rw [numericReference?_decimal (by simpa using hmark)] at h
    exact digitsReference?_length h

lemma unclosedReference?_length {k : ℕ} (hk : k ≤ t.length)
    (h : unclosedReference? b t k = some (chars, n)) : n ≤ t.length ∧ chars.length ≤ n := by
  induction k with
  | zero => cases h
  | succ k ih =>
      rw [unclosedReference?] at h
      cases hname : unclosedCharacters? (t.take (k + 1)) with
      | none =>
          rw [hname] at h
          exact ih (Nat.le_of_succ_le hk) h
      | some found =>
          have hlength := unclosedCharacters?_length hname
          rw [List.length_take_of_le hk] at hlength
          rw [hname] at h
          dsimp only at h
          split_ifs at h
          cases h
          exact ⟨hk, hlength⟩

lemma namedReference?_length (h : namedReference? b t = some (chars, n)) :
    n ≤ t.length ∧ chars.length ≤ n := by
  have hlength : ((t.take (longestName + 1)).takeWhile isAsciiAlphanumeric).length ≤ t.length :=
    (takeWhile_length_le _ _).trans (List.length_take_le' _ _)
  rw [namedReference?] at h
  generalize (t.take (longestName + 1)).takeWhile isAsciiAlphanumeric = name at h hlength
  cases hclosed : if (t.drop name.length).head? = some ';' then namedCharacters? name else none with
  | none =>
      rw [hclosed] at h
      exact unclosedReference?_length hlength h
  | some found =>
      rw [hclosed] at h
      cases h
      split_ifs at hclosed with hsemicolon
      have hname := namedCharacters?_length hclosed
      exact ⟨lt_length_of_head?_drop hsemicolon, by omega⟩

/-- A reference stands for no more characters than it has behind the `&`. -/
lemma characterReference?_length (h : characterReference? b t = some (chars, n)) :
    n ≤ t.length ∧ chars.length ≤ n := by
  rw [characterReference?.eq_def] at h
  split at h
  · obtain ⟨⟨found, k⟩, hnumeric, heq⟩ := Option.map_eq_some_iff.mp h
    have hlength := numericReference?_length hnumeric
    cases heq
    rw [List.length_cons]
    omega
  · exact namedReference?_length h

/-! ### Texts -/

lemma decodeReferencesFrom_eq (b : Bool) (n : ℕ) (t : Text) :
    decodeReferencesFrom b n t = decodeReferences b (t.drop n) := by
  induction t generalizing n with
  | nil => rw [List.drop_nil]; rfl
  | cons c t ih =>
      cases n with
      | zero => rfl
      | succ n => rw [decodeReferencesFrom, ih, List.drop_succ_cons]

lemma decodeReferences_cons (hc : c ≠ '&') (t : Text) :
    decodeReferences b (c :: t) = c :: decodeReferences b t := by
  rw [decodeReferences, decodeReferencesFrom, if_neg hc, decodeReferences]

lemma decodeReferences_none (h : characterReference? b t = none) :
    decodeReferences b ('&' :: t) = '&' :: decodeReferences b t := by
  rw [decodeReferences, decodeReferencesFrom, if_pos rfl, h, decodeReferences]

lemma decodeReferences_some (h : characterReference? b t = some (chars, n)) :
    decodeReferences b ('&' :: t) = chars ++ decodeReferences b (t.drop n) := by
  rw [decodeReferences, decodeReferencesFrom, if_pos rfl, h, ← decodeReferencesFrom_eq]

/-! ### Quotes -/

lemma attributeText_append (t u : Text) :
    attributeText (t ++ u) = attributeText t ++ attributeText u := List.flatMap_append

lemma attributeText_cons (hc : c ≠ '"') (t : Text) :
    attributeText (c :: t) = c :: attributeText t := by
  rw [attributeText, Text.replaceChar, List.flatMap_cons, if_neg hc]
  rfl

lemma attributeText_eq_self (h : '"' ∉ t) : attributeText t = t := by
  induction t with
  | nil => rfl
  | cons c t ih =>
      rw [List.mem_cons, not_or] at h
      rw [attributeText_cons (Ne.symm h.1), ih h.2]

lemma attributeText_quote (t : Text) :
    attributeText ('"' :: t) = '&' :: 'q' :: 'u' :: 'o' :: 't' :: ';' :: attributeText t := by
  have hquote : "&quot;".toList = ['&', 'q', 'u', 'o', 't', ';'] := by decide +kernel
  rw [attributeText, Text.replaceChar, List.flatMap_cons, if_pos rfl, hquote]
  rfl

lemma characterReference?_quote (t : Text) :
    characterReference? true ('q' :: 'u' :: 'o' :: 't' :: ';' :: t) = some (['"'], 5) := by
  rfl

/-- A quote ends a reference as well as the reference does that it is written as. -/
lemma characterReference?_attributeText (t : Text) :
    characterReference? b (attributeText t) = characterReference? b t := by
  by_cases hquote : '"' ∈ t
  · obtain ⟨u, rest, rfl, hu⟩ := List.eq_append_cons_of_mem hquote
    rw [attributeText_append, attributeText_eq_self hu, attributeText_quote,
      characterReference?_end (by decide), characterReference?_end (by decide)]
  · rw [attributeText_eq_self hquote]

/-- A reference does not reach over a quote. -/
lemma quote_notMem_take (h : characterReference? b t = some (chars, n)) : '"' ∉ t.take n := by
  by_cases hquote : '"' ∈ t
  · obtain ⟨u, rest, rfl, hu⟩ := List.eq_append_cons_of_mem hquote
    rw [characterReference?_end (by decide)] at h
    rw [List.take_append_of_le_length (characterReference?_length h).1]
    exact fun hmem => hu (List.mem_of_mem_take hmem)
  · exact fun hmem => hquote (List.mem_of_mem_take hmem)

/-- A value that stands in quotes is read as the value itself would be. -/
theorem decodeReferences_attributeText (t : Text) :
    decodeReferences true (attributeText t) = decodeReferences true t := by
  -- after a reference the reading goes on behind it, so the induction is on the length
  induction hlength : t.length using Nat.strong_induction_on generalizing t with
  | _ k ih =>
      cases t with
      | nil => rfl
      | cons c t =>
          subst hlength
          have hrest := ih t.length (Nat.lt_succ_self _) t rfl
          by_cases hquote : c = '"'
          · subst hquote
            rw [attributeText_quote, decodeReferences_some (characterReference?_quote _),
              decodeReferences_cons (by decide)]
            exact congrArg ('"' :: ·) hrest
          by_cases hmark : c = '&'
          · subst hmark
            rw [attributeText_cons hquote]
            cases href : characterReference? true t with
            | none =>
                rw [decodeReferences_none href, decodeReferences_none
                  ((characterReference?_attributeText t).trans href), hrest]
            | some found =>
                obtain ⟨chars, n⟩ := found
                have hn := (characterReference?_length href).1
                -- no quote is in the reference, so it ends at the same place in both
                have hsplit : attributeText t = t.take n ++ attributeText (t.drop n) := by
                  conv_lhs => rw [← List.take_append_drop n t, attributeText_append,
                    attributeText_eq_self (quote_notMem_take href)]
                have hdrop : (attributeText t).drop n = attributeText (t.drop n) := by
                  rw [hsplit, List.drop_left' (List.length_take_of_le hn)]
                rw [decodeReferences_some href, decodeReferences_some
                  ((characterReference?_attributeText t).trans href), hdrop,
                  ih _ (by rw [List.length_drop, List.length_cons]; omega) _ rfl]
          · rw [attributeText_cons hquote, decodeReferences_cons hmark, decodeReferences_cons hmark,
              hrest]

/-! ### Texts without references -/

/-- No reference is in a text. -/
def IsReferenceFree (b : Bool) (t : Text) : Prop :=
  ∀ rest, '&' :: rest <:+ t → characterReference? b rest = none

lemma isReferenceFree_cons :
    IsReferenceFree b (c :: t) ↔
      (c = '&' → characterReference? b t = none) ∧ IsReferenceFree b t := by
  constructor
  · intro h
    refine ⟨?_, fun rest hrest => h rest (hrest.trans (List.suffix_cons c t))⟩
    rintro rfl
    exact h t List.suffix_rfl
  · rintro ⟨hhere, hlater⟩ rest hrest
    rcases List.suffix_cons_iff.mp hrest with heq | hrest
    · cases heq
      exact hhere rfl
    · exact hlater rest hrest

lemma isReferenceFree_of_notMem (h : '&' ∉ t) : IsReferenceFree b t :=
  fun _ hrest => absurd (hrest.subset List.mem_cons_self) h

lemma decodeReferences_of_isReferenceFree (h : IsReferenceFree b t) : decodeReferences b t = t := by
  induction t with
  | nil => rfl
  | cons c t ih =>
      obtain ⟨hhere, hlater⟩ := isReferenceFree_cons.mp h
      by_cases hmark : c = '&'
      · subst hmark
        rw [decodeReferences_none (hhere rfl), ih hlater]
      · rw [decodeReferences_cons hmark, ih hlater]

/-- Replacing references makes no text longer, and a text with one shorter. -/
lemma decodeReferences_length (b : Bool) (t : Text) :
    (decodeReferences b t).length ≤ t.length ∧
      (¬IsReferenceFree b t → (decodeReferences b t).length < t.length) := by
  induction hlength : t.length using Nat.strong_induction_on generalizing t with
  | _ k ih =>
      cases t with
      | nil =>
          subst hlength
          exact ⟨Nat.le_refl _, fun h => absurd (isReferenceFree_of_notMem (by simp)) h⟩
      | cons c t =>
          subst hlength
          obtain ⟨hle, hlt⟩ := ih t.length (Nat.lt_succ_self _) t rfl
          rw [isReferenceFree_cons]
          by_cases hmark : c = '&'
          · subst hmark
            cases href : characterReference? b t with
            | none =>
                rw [decodeReferences_none href, List.length_cons, List.length_cons]
                exact ⟨Nat.succ_le_succ hle, fun h => Nat.succ_lt_succ
                  (hlt fun hfree => h ⟨fun _ => rfl, hfree⟩)⟩
            | some found =>
                obtain ⟨chars, n⟩ := found
                obtain ⟨hn, hchars⟩ := characterReference?_length href
                have hrest := (ih (t.drop n).length
                  (by rw [List.length_drop, List.length_cons]; omega) _ rfl).1
                rw [List.length_drop] at hrest
                rw [decodeReferences_some href, List.length_append, List.length_cons]
                constructor
                · omega
                · intro _
                  omega
          · rw [decodeReferences_cons hmark, List.length_cons, List.length_cons]
            exact ⟨Nat.succ_le_succ hle, fun h => Nat.succ_lt_succ
              (hlt fun hfree => h ⟨fun heq => absurd heq hmark, hfree⟩)⟩

/-- A text is left as it is just when no reference is in it. -/
theorem decodeReferences_eq_self_iff : decodeReferences b t = t ↔ IsReferenceFree b t := by
  refine ⟨fun heq => ?_, decodeReferences_of_isReferenceFree⟩
  by_contra hreference
  have hlt := (decodeReferences_length b t).2 hreference
  rw [heq] at hlt
  exact lt_irrefl _ hlt

instance (b : Bool) (t : Text) : Decidable (IsReferenceFree b t) :=
  decidable_of_iff _ decodeReferences_eq_self_iff

end PageNotes
