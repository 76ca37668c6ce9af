import PageNotes.Proofs.Text.Endings
import PageNotes.Proofs.Text.Trim

/-!
Characters without case. Blanks, the number sign, the slash and the question mark stay as they are
in lower case, come from no other character, and are no part of a word, so what is cut off at them
may be cut off before or after a text is put in lower case.

* `IsCaseless`: such classes of characters; `isCaseless_isBlank`, `isCaseless_numberSign`,
  `isCaseless_slash` and `isCaseless_questionMark`;
* `Text.lower_append`, `Text.head?_lower`: a text in lower case, part by part;
* `Text.lower_trimStart`, `Text.lower_trim`, `Text.lower_takeEnd`: what is cut off at the ends.
-/

namespace PageNotes

/-- A class of characters without case: each is its own lower-case form and ends a word, and the
lower-case form of another character has none of them. -/
structure IsCaseless (p : Char → Bool) : Prop where
  kept : ∀ c, p c = true → lowerForm c = [c] ∧ isCased c = false ∧ isCaseIgnorable c = false
  other : ∀ c, p c = false → ∀ d ∈ lowerForm c, p d = false
  sigma : p 'ς' = false

/-! ### The classes -/

/-- The runs of lower-case forms lead to no blank, number sign, slash or question mark. -/
lemma lowerRuns_apart : ∀ run ∈ lowerRuns, ∀ range ∈ ('#'.toNat, '#'.toNat) ::
    ('/'.toNat, '/'.toNat) :: ('?'.toNat, '?'.toNat) :: blankRanges,
      range.2 < run.image ∨ run.image + (run.last - run.first) < range.1 := by
  decide +kernel

lemma isCaseless_isBlank : IsCaseless isBlank where
  kept c h := of_isBlank (P := fun c => lowerForm c = [c] ∧ isCased c = false ∧
    isCaseIgnorable c = false) (by decide +kernel) h
  other c hc d hd := by
    rcases mem_lowerForm hd with rfl | ⟨-, hi⟩ | ⟨run, hrun, _, _, -, himage⟩
    · exact hc
    · rcases List.mem_pair.mp hi with rfl | rfl <;> decide
    · refine eq_false_of_ne_true fun hblank => ?_
      obtain ⟨range, hrange, hwithin⟩ := CodeRanges.exists_of_contains hblank
      have hapart := lowerRuns_apart run hrun range (by simp [hrange])
      omega
  sigma := by decide

/-- A single character is a class without case if it is its own lower-case form, ends a word and is
reached by no run of lower-case forms. -/
lemma isCaseless_eq {mark : Char}
    (hkept : lowerForm mark = [mark] ∧ isCased mark = false ∧ isCaseIgnorable mark = false)
    (hother : mark ∉ ['i', Char.ofNat 0x307, 'ς'])
    (hruns : ∀ run ∈ lowerRuns,
      mark.toNat < run.image ∨ run.image + (run.last - run.first) < mark.toNat) :
    IsCaseless (· = mark) where
  kept c h := by
    rw [of_decide_eq_true h]
    exact hkept
  other c hc d hd := by
    rw [decide_eq_false_iff_not] at hc ⊢
    rintro rfl
    rcases mem_lowerForm hd with rfl | ⟨-, hi⟩ | ⟨run, hrun, _, _, -, himage⟩
    · exact hc rfl
    · exact hother (List.mem_append_left ['ς'] hi)
    · have hapart := hruns run hrun
      omega
  sigma := by
    rw [decide_eq_false_iff_not]
    rintro rfl
    exact hother (by simp)

lemma isCaseless_numberSign : IsCaseless (· = '#') :=
  isCaseless_eq (by decide) (by decide) fun run hrun =>
    lowerRuns_apart run hrun ('#'.toNat, '#'.toNat) (by simp)

lemma isCaseless_slash : IsCaseless (· = '/') :=
  isCaseless_eq (by decide) (by decide) fun run hrun =>
    lowerRuns_apart run hrun ('/'.toNat, '/'.toNat) (by simp)

lemma isCaseless_questionMark : IsCaseless (· = '?') :=
  isCaseless_eq (by decide) (by decide) fun run hrun =>
    lowerRuns_apart run hrun ('?'.toNat, '?'.toNat) (by simp)

/-! ### Texts in lower case -/

namespace Text

variable {p : Char → Bool}

/-- What does not start with a letter with case, or a character that the rule for the final sigma
looks through, is not seen by this rule. -/
lemma startsWithCased_append (a : Text) {b : Text}
    (hb : ∀ c ∈ b.head?, isCased c = false ∧ isCaseIgnorable c = false) :
    startsWithCased (a ++ b) = startsWithCased a := by
  induction a with
  | nil =>
      cases b with
      | nil => rfl
      | cons c b =>
          obtain ⟨hcased, hignorable⟩ := hb c rfl
          rw [List.nil_append, startsWithCased, startsWithCased, hignorable,
            if_neg Bool.false_ne_true, hcased]
  | cons c a ih => rw [List.cons_append, startsWithCased, startsWithCased, ih]

section Caseless

variable (hp : IsCaseless p) {c : Char}
include hp

/-- A character without case stays, and a word starts behind it. -/
lemma lowerAfter_cons_kept (hc : p c = true) (inWord : Bool) (t : Text) :
    lowerAfter inWord (c :: t) = c :: t.lower := by
  obtain ⟨hform, hcased, hignorable⟩ := hp.kept c hc
  have hsigma : c ≠ 'Σ' := by
    rintro rfl
    exact absurd hform (by decide)
  rw [lowerAfter, if_neg hsigma, hform, hcased, hignorable, if_neg Bool.false_ne_true]
  rfl

lemma lower_cons_kept (hc : p c = true) (t : Text) : lower (c :: t) = c :: t.lower :=
  lowerAfter_cons_kept hp hc false t

/-- Another character becomes others. -/
lemma lowerAfter_cons_other (hc : p c = false) (inWord : Bool) (t : Text) :
    ∃ form next, lowerAfter inWord (c :: t) = form ++ lowerAfter next t ∧ form ≠ [] ∧
      ∀ d ∈ form, p d = false := by
  refine ⟨_, _, rfl, ?_, ?_⟩
  · split_ifs
    · exact List.cons_ne_nil _ _
    · exact List.cons_ne_nil _ _
    · exact lowerForm_ne_nil c
  · split_ifs with hsigma
    · simpa using hp.sigma
    · subst hsigma
      have hform : lowerForm 'Σ' = ['σ'] := by decide
      exact hform ▸ hp.other 'Σ' hc
    · exact hp.other c hc

lemma mem_lowerAfter (hc : p c = true) (inWord : Bool) (t : Text) :
    c ∈ lowerAfter inWord t ↔ c ∈ t := by
  induction t generalizing inWord with
  | nil => rfl
  | cons d t ih =>
      cases hd : p d with
      | true => rw [lowerAfter_cons_kept hp hd, List.mem_cons, List.mem_cons, lower, ih]
      | false =>
          obtain ⟨form, next, heq, -, hform⟩ := lowerAfter_cons_other hp hd inWord t
          have hother : c ∉ form := fun hmem => by simp [hform c hmem] at hc
          have hne : c ≠ d := by
            rintro rfl
            simp [hd] at hc
          rw [heq, List.mem_append, List.mem_cons, ih]
          simp [hother, hne]

/-- A text in lower case, before and from a character without case. -/
lemma lowerAfter_append {a b : Text} (hb : ∀ c ∈ b.head?, p c = true) (inWord : Bool) :
    lowerAfter inWord (a ++ b) = lowerAfter inWord a ++ b.lower := by
  induction a generalizing inWord with
  | nil =>
      cases b with
      | nil => rfl
      | cons c b =>
          rw [List.nil_append, lowerAfter_cons_kept hp (hb c rfl), lower_cons_kept hp (hb c rfl)]
          rfl
  | cons c a ih =>
      have hahead : startsWithCased (a ++ b) = startsWithCased a :=
        startsWithCased_append a fun d hd => (hp.kept d (hb d hd)).2
      rw [List.cons_append, lowerAfter, lowerAfter, hahead, ih, List.append_assoc]

lemma lower_append {a b : Text} (hb : ∀ c ∈ b.head?, p c = true) :
    (a ++ b).lower = a.lower ++ b.lower :=
  lowerAfter_append hp hb false

/-- A text of characters without case is in lower case. -/
lemma lower_eq_self {t : Text} (h : ∀ c ∈ t, p c = true) : t.lower = t := by
  induction t with
  | nil => rfl
  | cons c t ih =>
      rw [lower_cons_kept hp (h c List.mem_cons_self),
        ih fun d hd => h d (List.mem_cons_of_mem _ hd)]

lemma head?_lower (hc : p c = true) (t : Text) : t.lower.head? = some c ↔ t.head? = some c := by
  cases t with
  | nil => rfl
  | cons d t =>
      cases hd : p d with
      | true => rw [lower_cons_kept hp hd, List.head?_cons, List.head?_cons]
      | false =>
          obtain ⟨form, next, heq, hne, hform⟩ := lowerAfter_cons_other hp hd false t
          obtain ⟨e, form, rfl⟩ := List.exists_cons_of_ne_nil hne
          have he := hform e List.mem_cons_self
          rw [lower, heq, List.cons_append, List.head?_cons, List.head?_cons, Option.some.injEq,
            Option.some.injEq]
          constructor <;> rintro rfl <;> simp_all

/-- What is cut off at the start may be cut off before or after. -/
lemma lower_trimStart (t : Text) : (trimStart p t).lower = trimStart p t.lower := by
  induction t with
  | nil => rfl
  | cons c t ih =>
      cases hc : p c with
      | true =>
          rw [lower_cons_kept hp hc, trimStart, trimStart, List.dropWhile_cons_of_pos hc,
            List.dropWhile_cons_of_pos hc]
          exact ih
      | false =>
          obtain ⟨form, next, heq, hne, hform⟩ := lowerAfter_cons_other hp hc false t
          obtain ⟨d, form, rfl⟩ := List.exists_cons_of_ne_nil hne
          have hhead : ∀ e ∈ (lower (c :: t)).head?, p e = false := by
            rw [lower, heq]
            simpa using hform d List.mem_cons_self
          rw [trimStart_eq_self hhead, trimStart_eq_self (by simpa using hc)]

/-- The lower-case form of a text ends with that of its last character. -/
lemma getLast?_lowerAfter (hc : p c = false) (inWord : Bool) (a : Text) :
    ∃ start d, lowerAfter inWord (a ++ [c]) = start ++ [d] ∧ p d = false := by
  induction a generalizing inWord with
  | nil =>
      obtain ⟨form, next, heq, hne, hform⟩ := lowerAfter_cons_other hp hc inWord []
      obtain ⟨start, d, rfl⟩ := (List.eq_nil_or_concat' form).resolve_left hne
      exact ⟨start, d, by rw [List.nil_append, heq, lowerAfter, List.append_nil],
        hform d (by simp)⟩
  | cons e a ih =>
      rw [List.cons_append, lowerAfter]
      obtain ⟨start, d, heq, hd⟩ := ih _
      exact ⟨_ ++ start, d, by rw [heq, List.append_assoc], hd⟩

/-- What is cut off at the end may be cut off before or after. -/
lemma lower_trimEnd (t : Text) : (trimEnd p t).lower = trimEnd p t.lower := by
  have hend : ∀ c ∈ takeEnd p t, p c = true := fun c => of_mem_takeEnd
  have hlast : ∀ d ∈ (trimEnd p t).lower.getLast?, p d = false := by
    intro d hd
    rcases List.eq_nil_or_concat' (trimEnd p t) with hnil | ⟨a, c, hconcat⟩
    · rw [hnil] at hd
      cases hd
    · have hc : p c = false := trimEnd_getLast p t c (by rw [hconcat, List.getLast?_concat]; rfl)
      obtain ⟨start, e, heq, he⟩ := getLast?_lowerAfter hp hc false a
      rw [hconcat, lower, heq, List.getLast?_concat] at hd
      exact Option.some.inj hd ▸ he
  have hsplit : t.lower = (trimEnd p t).lower ++ takeEnd p t := by
    conv_lhs => rw [← trimEnd_append_takeEnd p t]
    rw [lower_append hp fun c hc => hend c (List.mem_of_mem_head? hc), lower_eq_self hp hend]
  rw [hsplit, trimEnd_append_right _ hend, trimEnd_eq_self hlast]

lemma lower_trim (t : Text) : (trim p t).lower = trim p t.lower := by
  rw [trim, trim, lower_trimEnd hp, lower_trimStart hp]

end Caseless

/-- What stands behind the last separator may be taken before or after. -/
lemma lower_takeEnd {sep : Char} (hsep : IsCaseless (· = sep)) (t : Text) :
    (takeEnd (· ≠ sep) t).lower = takeEnd (· ≠ sep) t.lower := by
  have hkept : decide (sep = sep) = true := decide_eq_true rfl
  have hend : ∀ d ∈ (takeEnd (· ≠ sep) t).lower, decide (d ≠ sep) = true := by
    intro d hd
    rw [decide_eq_true_eq]
    rintro rfl
    have hmem := of_mem_takeEnd ((mem_lowerAfter hsep hkept false _).mp hd)
    simp at hmem
  have hsplit := trimEnd_append_takeEnd (· ≠ sep) t
  rcases List.eq_nil_or_concat' (trimEnd (· ≠ sep) t) with hnil | ⟨a, c, hconcat⟩
  · rw [hnil, List.nil_append] at hsplit
    rw [hsplit] at hend
    rw [hsplit, takeEnd_eq_self hend]
  · have hc : c = sep := by
      have hlast := trimEnd_getLast (· ≠ sep) t c (by rw [hconcat, List.getLast?_concat]; rfl)
      simpa using hlast
    have hwhole : t.lower = lower a ++ sep :: (takeEnd (· ≠ sep) t).lower := by
      conv_lhs => rw [← hsplit, hconcat, hc, List.append_assoc, List.singleton_append]
      rw [lower_append hsep (by simp), lower_cons_kept hsep hkept]
    rw [hwhole, takeEnd_append_cons (by simp), takeEnd_eq_self hend]

end Text

end PageNotes
