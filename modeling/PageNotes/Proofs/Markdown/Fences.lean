import Mathlib.Algebra.Ring.Parity
import Mathlib.Data.List.Chain
import Mathlib.Data.List.DropRight
import PageNotes.Markdown.Cleanup
import PageNotes.Markdown.CodeBlock
import PageNotes.Proofs.Path.Names

/-!
Blocks of code in the last step of rendering. The step reads the lines of a document one after
another; every fence takes it into code or out of it, whoever wrote the fence. So the lines of a
block stay as they are when it comes to the block outside code, and are tidied like any other lines
when it comes to the block inside.

* `keepLines_append_fence`: lines before and behind a fence are tidied apart;
* `Tidy`, `keepLines_eq_self_iff`: the lines that stay as they are outside code;
* `linesOf_cleanUp`: the lines of the document that is left;
* `blockLines`, `Delimited`: the lines of a block, and a block that is read back from its fences;
* `countP_blockLines`: the fences of a block;
* `cleanUp_delimited_iff`: when it is.
-/

namespace PageNotes

/-! ### Lines and fences -/

/-- Lines before and behind a fence are tidied apart; an odd number of fences changes sides. -/
lemma keepLines_append_fence {f : Text} (hf : isFence f = true) (inCode afterBlank : Bool)
    (before after : List Text) :
    keepLines inCode afterBlank (before ++ f :: after)
      = keepLines inCode afterBlank before
        ++ f :: keepLines (!(inCode ^^ decide (Odd (before.countP isFence)))) false after := by
  induction before generalizing inCode afterBlank with
  | nil => simp [keepLines, hf]
  | cons l before ih =>
      rw [List.cons_append, keepLines, keepLines]
      by_cases hl : isFence l = true
      · have hparity : ((!inCode) ^^ decide (Odd (before.countP isFence)))
            = (inCode ^^ decide (Odd (before.countP isFence + 1))) := by
          by_cases hodd : Odd (before.countP isFence) <;> simp [Nat.odd_add_one, hodd]
        rw [if_pos hl, if_pos hl, ih, List.countP_cons_of_pos hl, hparity, List.cons_append]
      · rw [if_neg hl, if_neg hl, List.countP_cons_of_neg hl]
        split_ifs <;> rw [ih] <;> rfl

/-- Within code all lines stay. -/
lemma keepLines_code {lines : List Text} (h : ∀ l ∈ lines, isFence l = false) (afterBlank : Bool) :
    keepLines true afterBlank lines = lines := by
  induction lines generalizing afterBlank with
  | nil => rfl
  | cons l lines ih =>
      rw [List.forall_mem_cons] at h
      rw [keepLines, h.1, if_neg Bool.false_ne_true, Bool.not_true, Bool.false_and,
        if_neg Bool.false_ne_true, ih h.2]

lemma length_keepLines_le (inCode afterBlank : Bool) (lines : List Text) :
    (keepLines inCode afterBlank lines).length ≤ lines.length := by
  induction lines generalizing inCode afterBlank with
  | nil => exact le_rfl
  | cons l lines ih =>
      rw [keepLines, List.length_cons]
      split_ifs
      · exact Nat.succ_le_succ (ih _ _)
      · exact Nat.le_succ_of_le (ih _ _)
      · exact Nat.succ_le_succ (ih _ _)
      · exact Nat.succ_le_succ (ih _ _)

/-- A line that stays is empty or one of the lines. -/
lemma mem_of_mem_keepLines {inCode afterBlank : Bool} {lines : List Text} {l : Text}
    (h : l ∈ keepLines inCode afterBlank lines) : l = [] ∨ l ∈ lines := by
  induction lines generalizing inCode afterBlank with
  | nil => cases h
  | cons first lines ih =>
      rw [keepLines] at h
      split_ifs at h
      · rcases List.mem_cons.mp h with rfl | h
        · exact Or.inr List.mem_cons_self
        · exact (ih h).imp_right (List.mem_cons_of_mem _)
      · exact (ih h).imp_right (List.mem_cons_of_mem _)
      · rcases List.mem_cons.mp h with rfl | h
        · exact Or.inl rfl
        · exact (ih h).imp_right (List.mem_cons_of_mem _)
      · rcases List.mem_cons.mp h with rfl | h
        · exact Or.inr List.mem_cons_self
        · exact (ih h).imp_right (List.mem_cons_of_mem _)

lemma newline_notMem_keepLines {afterBlank : Bool} (t : Text) :
    ∀ l ∈ keepLines false afterBlank (linesOf t), '\n' ∉ l := by
  intro l hl
  rcases mem_of_mem_keepLines hl with rfl | hl
  · exact List.not_mem_nil
  · exact Text.split_notMem '\n' t l hl

/-- Lines that stay as they are outside code: blank ones are empty, and none follows another. -/
structure Tidy (lines : List Text) : Prop where
  empty : ∀ l ∈ lines, l.allBlank = true → l = []
  apart : lines.IsChain fun a b => a ≠ [] ∨ b ≠ []

lemma tidy_cons_iff {l : Text} {lines : List Text} :
    Tidy (l :: lines) ↔
      (l.allBlank = true → l = []) ∧ (l = [] → lines.head? ≠ some []) ∧ Tidy lines := by
  constructor
  · rintro ⟨hempty, hapart⟩
    rw [List.forall_mem_cons] at hempty
    rw [List.isChain_cons] at hapart
    refine ⟨hempty.1, fun hl hhead => ?_, hempty.2, hapart.2⟩
    rcases hapart.1 [] hhead with h | h
    · exact h hl
    · exact h rfl
  · rintro ⟨hl, hhead, hempty, hapart⟩
    refine ⟨List.forall_mem_cons.mpr ⟨hl, hempty⟩, List.isChain_cons.mpr ⟨fun next hnext => ?_,
      hapart⟩⟩
    by_cases h : l = []
    · refine Or.inr ?_
      rintro rfl
      exact hhead h hnext
    · exact Or.inl h

/-- Outside code, lines without a fence stay as they are when they are tidy; behind a blank line
they must not start with another one. -/
lemma keepLines_eq_self_iff {lines : List Text} (h : ∀ l ∈ lines, isFence l = false)
    (afterBlank : Bool) :
    keepLines false afterBlank lines = lines ↔
      Tidy lines ∧ (afterBlank = true → lines.head? ≠ some []) := by
  induction lines generalizing afterBlank with
  | nil => exact iff_of_true rfl ⟨⟨by simp, .nil⟩, by simp⟩
  | cons l lines ih =>
      rw [List.forall_mem_cons] at h
      rw [keepLines, h.1, if_neg Bool.false_ne_true, Bool.not_false, Bool.true_and, tidy_cons_iff,
        List.head?_cons]
      by_cases hblank : l.allBlank = true
      · rw [if_pos hblank]
        cases afterBlank with
        | true =>
            -- a blank line behind a blank line goes, so that too few lines are left
            rw [if_pos rfl]
            refine iff_of_false (fun heq => ?_) ?_
            · have hlength := length_keepLines_le false true lines
              rw [heq, List.length_cons] at hlength
              omega
            · rintro ⟨⟨hl, -, -⟩, hfirst⟩
              exact hfirst rfl (congrArg some (hl hblank))
        | false =>
            rw [if_neg Bool.false_ne_true, List.cons_eq_cons, ih h.2]
            constructor
            · rintro ⟨rfl, htidy, hhead⟩
              exact ⟨⟨fun _ => rfl, fun _ => hhead rfl, htidy⟩, fun hno => absurd hno (by decide)⟩
            · rintro ⟨⟨hl, hhead, htidy⟩, -⟩
              exact ⟨(hl hblank).symm, htidy, fun _ => hhead (hl hblank)⟩
      · rw [if_neg hblank, List.cons_eq_cons, ih h.2]
        have hne : l ≠ [] := by
          rintro rfl
          exact hblank rfl
        constructor
        · rintro ⟨-, htidy, -⟩
          exact ⟨⟨fun hyes => absurd hyes hblank, fun hyes => absurd hyes hne, htidy⟩,
            fun _ hyes => hne (Option.some.inj hyes)⟩
        · rintro ⟨⟨-, -, htidy⟩, -⟩
          exact ⟨rfl, htidy, fun hno => absurd hno (by decide)⟩

/-- Lines behind an odd number of fences stay as they are when they are tidy, all others do so
anyway. -/
lemma keepLines_parity_iff {lines : List Text} (h : ∀ l ∈ lines, isFence l = false) (fences : Nat) :
    keepLines (!decide (Odd fences)) false lines = lines ↔ (Odd fences → Tidy lines) := by
  by_cases hodd : Odd fences
  · rw [decide_eq_true hodd, Bool.not_true, keepLines_eq_self_iff h]
    simp [hodd]
  · rw [decide_eq_false hodd, Bool.not_false, keepLines_code h]
    simp [hodd]

/-- Where there was no fence there is none afterwards. -/
lemma takeWhile_keepLines {lines : List Text} (h : ∀ l ∈ lines, isFence l = false)
    (inCode afterBlank : Bool) {f : Text} (hf : isFence f = true) (after : List Text) :
    (keepLines inCode afterBlank lines ++ f :: after).takeWhile (!isFence ·)
      = keepLines inCode afterBlank lines := by
  have hkept : ∀ l ∈ keepLines inCode afterBlank lines, (!isFence l) = true := by
    intro l hl
    rcases mem_of_mem_keepLines hl with rfl | hl
    · decide
    · rw [h l hl]
      rfl
  rw [List.takeWhile_append_of_pos hkept, List.takeWhile_cons_of_neg (by simp [hf]),
    List.append_nil]

/-! ### The lines that are left -/

section Lines

variable {lines : List Text}

lemma ofLines_concat (hne : lines ≠ []) (l : Text) :
    ofLines (lines ++ [l]) = ofLines lines ++ '\n' :: l := by
  induction lines with
  | nil => exact absurd rfl hne
  | cons first lines ih =>
      cases lines with
      | nil => simp [ofLines, Text.join]
      | cons second lines =>
          have hrest := ih (List.cons_ne_nil _ _)
          simp only [ofLines, List.cons_append, Text.join] at hrest ⊢
          rw [hrest]
          simp

/-- Line ends at the start of a text are empty lines. -/
lemma trimStart_ofLines (h : ∀ l ∈ lines, '\n' ∉ l) :
    Text.trimStart (· = '\n') (ofLines lines) = ofLines (lines.dropWhile List.isEmpty) := by
  induction lines with
  | nil => rfl
  | cons l lines ih =>
      rw [List.forall_mem_cons] at h
      cases l with
      | nil =>
          cases lines with
          | nil => rfl
          | cons second lines => exact ih h.2
      | cons c l =>
          have hc : c ≠ '\n' := fun heq => h.1 (heq ▸ List.mem_cons_self)
          have hstart : ∃ rest, ofLines ((c :: l) :: lines) = c :: rest := by
            cases lines with
            | nil => exact ⟨l, rfl⟩
            | cons second lines => exact ⟨l ++ ['\n'] ++ ofLines (second :: lines), rfl⟩
          obtain ⟨rest, hrest⟩ := hstart
          rw [List.dropWhile_cons_of_neg (by simp), hrest, Text.trimStart,
            List.dropWhile_cons_of_neg (by simpa using hc)]

/-- Line ends at the end of a text are empty lines. -/
lemma trimEnd_ofLines (h : ∀ l ∈ lines, '\n' ∉ l) :
    Text.trimEnd (· = '\n') (ofLines lines) = ofLines (lines.rdropWhile List.isEmpty) := by
  induction lines using List.reverseRecOn with
  | nil => rfl
  | append_singleton lines l ih =>
      rw [List.forall_mem_append, List.forall_mem_singleton] at h
      by_cases hl : l = []
      · subst hl
        rw [List.rdropWhile_concat_pos _ _ _ rfl, ← ih h.1]
        by_cases hne : lines = []
        · subst hne
          rfl
        · rw [ofLines_concat hne]
          exact List.rdropWhile_concat_pos _ _ _ (by simp)
      · rw [List.rdropWhile_concat_neg _ _ _ (by simpa using hl)]
        obtain ⟨l, c, rfl⟩ := (List.eq_nil_or_concat' l).resolve_left hl
        have hc : c ≠ '\n' := fun heq => h.2 (by simp [heq])
        have hend : ∃ rest, ofLines (lines ++ [l ++ [c]]) = rest ++ [c] := by
          by_cases hne : lines = []
          · exact ⟨l, by rw [hne]; rfl⟩
          · exact ⟨ofLines lines ++ '\n' :: l, by rw [ofLines_concat hne]; simp⟩
        obtain ⟨rest, hrest⟩ := hend
        rw [hrest]
        exact List.rdropWhile_concat_neg _ _ _ (by simpa using hc)

end Lines

section Around

variable {α : Type} {p : α → Bool} {x : α}

/-- Nothing is dropped from behind an element that stays. -/
lemma dropWhile_append_cons (hx : p x = false) (before after : List α) :
    (before ++ x :: after).dropWhile p = before.dropWhile p ++ x :: after := by
  induction before with
  | nil => exact List.dropWhile_cons_of_neg (by simp [hx])
  | cons y before ih =>
      rw [List.cons_append]
      by_cases hy : p y = true
      · rw [List.dropWhile_cons_of_pos hy, List.dropWhile_cons_of_pos hy, ih]
      · rw [List.dropWhile_cons_of_neg hy, List.dropWhile_cons_of_neg hy, List.cons_append]

lemma rdropWhile_append_cons (hx : p x = false) (before after : List α) :
    (before ++ x :: after).rdropWhile p = before ++ x :: after.rdropWhile p := by
  have hreverse : (before ++ x :: after).reverse = after.reverse ++ x :: before.reverse := by simp
  rw [List.rdropWhile, hreverse, dropWhile_append_cons hx, List.rdropWhile]
  simp

end Around

/-- The lines of a tidied text: those that stay, but for empty ones at both ends. -/
lemma linesOf_cleanUp {t : Text} {before after : List Text} {l : Text} (hl : l ≠ [])
    (h : keepLines false false (linesOf t) = before ++ l :: after) :
    linesOf (cleanUp t) =
      before.dropWhile List.isEmpty ++ l :: after.rdropWhile List.isEmpty := by
  have hnewline := @newline_notMem_keepLines false t
  have hl' : l.isEmpty = false := by simpa using hl
  have hdrop : (before ++ l :: after).dropWhile List.isEmpty ⊆ before ++ l :: after :=
    (List.dropWhile_sublist _).subset
  rw [h] at hnewline
  rw [cleanUp, h, Text.trim, trimStart_ofLines hnewline,
    trimEnd_ofLines fun m hm => hnewline m (hdrop hm), dropWhile_append_cons hl',
    rdropWhile_append_cons hl', linesOf, ofLines]
  refine Text.split_join (by simp) fun m hm => hnewline m ?_
  simp only [List.mem_append, List.mem_cons] at hm ⊢
  rcases hm with hm | hm | hm
  · exact Or.inl ((List.dropWhile_sublist _).subset hm)
  · exact Or.inr (Or.inl hm)
  · exact Or.inr (Or.inr ((List.rdropWhile_prefix _ _).subset hm))

/-! ### Blocks -/

/-- The lines of a block of code: a fence with the language, the code, and a fence. -/
def blockLines (language code : Text) : List Text :=
  linesOf (fenceMark ++ language) ++ (linesOf code ++ [fenceMark])

/-- The lines that are left of those before a block in the tidied text. -/
def keptBefore (before : List Text) : List Text :=
  (keepLines false false before).dropWhile List.isEmpty

/-- Whether a block of code is read back from its fences: behind some lines of a text the fence and
the language stand on one line, and from there up to the next fence stand the lines of the code. -/
def Delimited (before : List Text) (language code t : Text) : Prop :=
  ∃ rest, linesOf t = before ++ (fenceMark ++ language) :: rest ∧
    rest.takeWhile (!isFence ·) = linesOf code

/-- A line that starts with the mark of a fence is one. -/
lemma isFence_fenceMark_append (t : Text) : isFence (fenceMark ++ t) = true := by
  have hstart : Text.trimStart isBlank (fenceMark ++ t) = fenceMark ++ t :=
    List.dropWhile_cons_of_neg (by decide)
  have hend : fenceMark <+: Text.trimEnd isBlank (fenceMark ++ t) := by
    rw [Text.trimEnd, List.reverse_append, List.dropWhile_append]
    split_ifs
    · exact List.prefix_refl _
    · simp
  rw [isFence, Text.strip, Text.trim, hstart]
  exact List.isPrefixOf_iff_prefix.mpr hend

/-- A text behind some characters of its first line. -/
lemma linesOf_append {s : Text} (hs : '\n' ∉ s) (t : Text) :
    ∃ first rest, linesOf t = first :: rest ∧ linesOf (s ++ t) = (s ++ first) :: rest := by
  induction s with
  | nil =>
      obtain ⟨first, rest, h⟩ := List.exists_cons_of_ne_nil (Text.split_ne_nil '\n' t)
      exact ⟨first, rest, h, h⟩
  | cons c s ih =>
      rw [List.mem_cons, not_or] at hs
      obtain ⟨first, rest, ht, hst⟩ := ih hs.2
      refine ⟨first, rest, ht, ?_⟩
      rw [linesOf] at hst
      rw [List.cons_append, linesOf, Text.split, if_neg (Ne.symm hs.1), hst]
      rfl

/-- A block without a fence among its lines leaves the number of fences before it odd or even, as it
was. -/
theorem countP_blockLines {language code : Text} (hlanguage : '\n' ∉ language)
    (hcode : ∀ l ∈ linesOf code, isFence l = false) :
    (blockLines language code).countP isFence = 2 := by
  have hopening : linesOf (fenceMark ++ language) = [fenceMark ++ language] :=
    Text.split_of_notMem (by simp [fenceMark, hlanguage])
  have hnone : (linesOf code).countP isFence = 0 :=
    List.countP_eq_zero.mpr fun l hl => by simp [hcode l hl]
  rw [blockLines, hopening, List.countP_append, List.countP_append, hnone,
    List.countP_singleton, List.countP_singleton, isFence_fenceMark_append]
  decide

/-- **Fences**: where the lines of a block of code stand in a text, the block is read back from the
tidied text just when its language is on one line, no line of the code is a fence itself, and, if an
odd number of the lines before are fences, the code is tidy. -/
theorem cleanUp_delimited_iff {t language code : Text} {before after : List Text}
    (h : linesOf t = before ++ (blockLines language code ++ after)) :
    Delimited (keptBefore before) language code (cleanUp t) ↔
      '\n' ∉ language ∧ (∀ l ∈ linesOf code, isFence l = false) ∧
        (Odd (before.countP isFence) → Tidy (linesOf code)) := by
  obtain ⟨first, others, hlanguage, hopening⟩ :=
    linesOf_append (s := fenceMark) (by decide) language
  have hsplit : linesOf t = before ++ (fenceMark ++ first) ::
      ((others ++ linesOf code) ++ fenceMark :: after) := by
    rw [h, blockLines, hopening]
    simp
  have hkept := keepLines_append_fence (isFence_fenceMark_append first) false false before
    ((others ++ linesOf code) ++ fenceMark :: after)
  rw [← hsplit, keepLines_append_fence (by decide), Bool.false_xor] at hkept
  generalize keepLines _ false after = behind at hkept
  have hlines := linesOf_cleanUp (by simp [fenceMark]) hkept
  rw [← keptBefore, rdropWhile_append_cons (by decide)] at hlines
  generalize behind.rdropWhile List.isEmpty = behind at hlines
  constructor
  · rintro ⟨rest, hrest, htake⟩
    rw [hlines] at hrest
    obtain ⟨hfirst, rfl⟩ := List.cons.inj (List.append_cancel_left hrest)
    obtain rfl : first = language := List.append_cancel_left hfirst
    have hline : '\n' ∉ first := by
      refine Text.split_notMem '\n' first first ?_
      rw [linesOf] at hlanguage
      rw [hlanguage]
      exact List.mem_cons_self
    obtain rfl : others = [] := by
      rw [linesOf, Text.split_of_notMem hline] at hlanguage
      exact (List.cons.inj hlanguage).2.symm
    have hcode : ∀ l ∈ linesOf code, isFence l = false := by
      intro l hl
      rw [← htake] at hl
      simpa using List.mem_takeWhile_imp hl
    rw [List.nil_append, takeWhile_keepLines hcode _ _ (by decide)] at htake
    exact ⟨hline, hcode, (keepLines_parity_iff hcode _).mp htake⟩
  · rintro ⟨hline, hcode, htidy⟩
    rw [linesOf, Text.split_of_notMem hline] at hlanguage
    obtain ⟨rfl, rfl⟩ := List.cons.inj hlanguage
    refine ⟨_, hlines, ?_⟩
    rw [List.nil_append, takeWhile_keepLines hcode _ _ (by decide)]
    exact (keepLines_parity_iff hcode _).mpr htidy

end PageNotes
