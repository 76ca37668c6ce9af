import PageNotes.Markdown.Render
import PageNotes.Proofs.Text.Parts

/-!
Sturdy texts: parts of a text that rendering carries along whole. The steps of rendering trim texts,
settle runs of white space, indent lines, put marks around them and join them; a text that neither
starts nor ends with something of this kind and has no white space but single spaces inside goes
through all of them.

* `Sturdy`: the sturdy texts;
* `Sturdy.trim`, `Sturdy.spaceRuns`, `Sturdy.mapLines`: operations on texts leave them whole;
* `Sturdy.joinParts`, `Sturdy.cleanUp`: the parts of an element and of the whole document.
-/

namespace PageNotes

/-! ### Underscores -/

lemma unescapeUnderscores_escaped (t : Text) :
    unescapeUnderscores ('\\' :: '_' :: t) = '_' :: unescapeUnderscores t := by
  have hfound : ['\\', '_'].isPrefixOf ('\\' :: '_' :: t) = true := by simp [List.isPrefixOf]
  rw [unescapeUnderscores, Text.replaceFound, if_pos hfound]
  exact congrArg ('_' :: ·) (Text.replaceFound_const false 0 t)

lemma unescapeUnderscores_cons {c : Char} {t : Text} (h : c = '\\' → ∀ d ∈ t.head?, d ≠ '_') :
    unescapeUnderscores (c :: t) = c :: unescapeUnderscores t := by
  have hnot : ['\\', '_'].isPrefixOf (c :: t) = false := by
    cases t with
    | nil => simp [List.isPrefixOf]
    | cons d t =>
        by_cases hc : c = '\\'
        · have hd := h hc d rfl
          simp [List.isPrefixOf, Ne.symm hd]
        · simp [List.isPrefixOf, Ne.symm hc]
  rw [unescapeUnderscores, Text.replaceFound, hnot]
  exact congrArg (c :: ·) (Text.replaceFound_const false 0 t)

/-- Nothing is undone across a place that no escaped underscore lies across. -/
lemma unescapeUnderscores_append (a b : Text)
    (h : (∀ c ∈ a.getLast?, c ≠ '\\') ∨ ∀ c ∈ b.head?, c ≠ '_') :
    unescapeUnderscores (a ++ b) = unescapeUnderscores a ++ unescapeUnderscores b := by
  induction hn : a.length using Nat.strong_induction_on generalizing a with
  | _ n ih =>
      subst hn
      cases a with
      | nil => rfl
      | cons c a =>
          by_cases hescaped : c = '\\' ∧ a.head? = some '_'
          · obtain ⟨rfl, hhead⟩ := hescaped
            obtain ⟨a, rfl⟩ : ∃ rest, a = '_' :: rest := by
              cases a with
              | nil => cases hhead
              | cons d a => exact ⟨a, by rw [Option.some.inj hhead]⟩
            have hlength : a.length < ('\\' :: '_' :: a).length := by
              rw [List.length_cons, List.length_cons]
              omega
            have hrest := ih a.length hlength a (h.imp_left fun hlast e he =>
              hlast e (List.mem_getLast?_cons (List.mem_getLast?_cons he))) rfl
            rw [List.cons_append, List.cons_append, unescapeUnderscores_escaped, hrest,
              unescapeUnderscores_escaped, List.cons_append]
          · have hrest := ih a.length (by simp) a
              (h.imp_left fun hlast e he => hlast e (List.mem_getLast?_cons he)) rfl
            rw [List.cons_append, unescapeUnderscores_cons, hrest, unescapeUnderscores_cons,
              List.cons_append]
            · rintro rfl d hd rfl
              exact hescaped ⟨rfl, hd⟩
            · rintro rfl d hd rfl
              cases a with
              | nil =>
                  rcases h with hlast | hhead
                  · exact hlast '\\' rfl rfl
                  · exact hhead '_' hd rfl
              | cons e a => exact hescaped ⟨rfl, hd⟩

/-! ### Sturdy texts -/

/-- A character that marks of list items and rows are made of, or a blank. -/
def isLeadChar (c : Char) : Bool :=
  isBlank c || isDigit c || c = '-' || c = '*' || c = '+' || c = '.' || c = '|'

/-- A text that rendering carries along whole. -/
structure Sturdy (k : Text) : Prop where
  ne_nil : k ≠ []
  head : ∀ c ∈ k.head?, isLeadChar c = false ∧ c ≠ '_'
  last : ∀ c ∈ k.getLast?, isBlank c = false ∧ c ≠ '\\'
  spaces : spaceRuns k = k
  escapes : unescapeUnderscores k = k

lemma isBlank_of_isMarkupSpace {c : Char} (h : isMarkupSpace c = true) : isBlank c = true := by
  simp only [isMarkupSpace, Bool.or_eq_true, decide_eq_true_eq] at h
  rcases h with ((rfl | rfl) | rfl) | rfl <;> decide

lemma isMarkupSpace_eq_false {c : Char} (h : isBlank c = false) : isMarkupSpace c = false :=
  eq_false_of_ne_true fun hspace => by simpa [h] using isBlank_of_isMarkupSpace hspace

namespace Sturdy

variable {k t : Text} {p : Char → Bool}

lemma head_blank (hk : Sturdy k) : ∀ c ∈ k.head?, isBlank c = false := by
  intro c hc
  have hlead := (hk.head c hc).1
  rw [isLeadChar] at hlead
  simp only [Bool.or_eq_false_iff] at hlead
  exact hlead.1.1.1.1.1.1

lemma newline_notMem (hk : Sturdy k) : '\n' ∉ k := by
  rw [← hk.spaces]
  exact Text.notMem_replaceRuns (by decide) (by decide) k

/-- A text that is settled is sturdy if its ends are. -/
lemma of_ends {first last : Char} (hhead : k.head? = some first) (hlast : k.getLast? = some last)
    (hfirst : isLeadChar first = false ∧ first ≠ '_') (hend : isBlank last = false ∧ last ≠ '\\')
    (hspaces : PageNotes.spaceRuns k = k) (hescapes : PageNotes.unescapeUnderscores k = k) :
    Sturdy k := by
  refine ⟨?_, ?_, ?_, hspaces, hescapes⟩
  · rintro rfl
    cases hhead
  · intro c hc
    rw [hhead] at hc
    cases hc
    exact hfirst
  · intro c hc
    rw [hlast] at hc
    cases hc
    exact hend

/-! ### Trimming -/

section Trim

variable (hk : Sturdy k) (hp : ∀ c, p c = true → isBlank c = true)

include hk hp

lemma trimStart (h : k <:+: t) : k <:+: Text.trimStart p t := by
  refine infix_dropWhile hk.ne_nil (fun c hc => ?_) h
  exact eq_false_of_ne_true fun hpc => by simpa [hk.head_blank c hc] using hp c hpc

lemma trimEnd (h : k <:+: t) : k <:+: Text.trimEnd p t := by
  refine Text.infix_trimEnd hk.ne_nil (fun c hc => ?_) h
  exact eq_false_of_ne_true fun hpc => by simpa [(hk.last c hc).1] using hp c hpc

lemma trim (h : k <:+: t) : k <:+: Text.trim p t := hk.trimEnd hp (hk.trimStart hp h)

end Trim

lemma strip (hk : Sturdy k) (h : k <:+: t) : k <:+: Text.strip t := hk.trim (fun _ => id) h

lemma stripEnd (hk : Sturdy k) (h : k <:+: t) : k <:+: Text.stripEnd t := hk.trimEnd (fun _ => id) h

lemma trimSpace (hk : Sturdy k) (h : k <:+: t) : k <:+: PageNotes.trimSpace t :=
  hk.trim (fun _ => isBlank_of_isMarkupSpace) h

lemma trimNewlines (hk : Sturdy k) (h : k <:+: t) : k <:+: Text.trim (· = '\n') t := by
  refine hk.trim (fun c hc => ?_) h
  rw [of_decide_eq_true hc]
  decide

lemma ne_nil_of_infix (hk : Sturdy k) (h : k <:+: t) : t ≠ [] := by
  rintro rfl
  exact hk.ne_nil (List.infix_nil.mp h)

lemma isEmpty_of_infix (hk : Sturdy k) (h : k <:+: t) : t.isEmpty = false :=
  List.isEmpty_eq_false_iff.mpr (hk.ne_nil_of_infix h)

/-- A text with a sturdy part is not blank. -/
lemma allBlank_of_infix (hk : Sturdy k) (h : k <:+: t) : Text.allBlank t = false := by
  obtain ⟨c, rest, rfl⟩ := List.exists_cons_of_ne_nil hk.ne_nil
  refine eq_false_of_ne_true fun hall => ?_
  have hblank := List.all_eq_true.mp hall c (h.subset List.mem_cons_self)
  rw [hk.head_blank c rfl] at hblank
  cases hblank

/-- The start of a text up to some place that is made of lead characters holds nothing of it. -/
lemma of_append (hk : Sturdy k) {s : Text} (hs : ∀ c ∈ s, isLeadChar c = true)
    (h : k <:+: s ++ t) : k <:+: t :=
  infix_of_append_right hk.ne_nil (fun c hc => (hk.head c hc).1) hs h

/-! ### Replacing -/

lemma spaceRuns (hk : Sturdy k) (h : k <:+: t) : k <:+: PageNotes.spaceRuns t := by
  obtain ⟨a, b, rfl⟩ := h
  have hlast : ∀ c ∈ (a ++ k).getLast?, isMarkupSpace c = false := by
    intro c hc
    rw [List.getLast?_append_of_ne_nil _ hk.ne_nil] at hc
    exact isMarkupSpace_eq_false (hk.last c hc).1
  rw [PageNotes.spaceRuns, Text.replaceRuns_append _ _ (Or.inl hlast),
    Text.replaceRuns_append _ _
      (Or.inr fun c hc => isMarkupSpace_eq_false (hk.head_blank c hc))]
  have hspaces := hk.spaces
  rw [PageNotes.spaceRuns] at hspaces
  rw [hspaces]
  exact List.infix_append _ _ _

lemma unescapeUnderscores (hk : Sturdy k) (h : k <:+: t) :
    k <:+: PageNotes.unescapeUnderscores t := by
  obtain ⟨a, b, rfl⟩ := h
  have hlast : ∀ c ∈ (a ++ k).getLast?, c ≠ '\\' := by
    intro c hc
    rw [List.getLast?_append_of_ne_nil _ hk.ne_nil] at hc
    exact (hk.last c hc).2
  rw [unescapeUnderscores_append _ _ (Or.inl hlast),
    unescapeUnderscores_append _ _ (Or.inr fun c hc => (hk.head c hc).2), hk.escapes]
  exact List.infix_append _ _ _

/-- Lines put one behind another. -/
lemma oneLine (hk : Sturdy k) (h : k <:+: t) : k <:+: Text.replaceChar '\n' [' '] t := by
  have hsame : Text.replaceChar '\n' [' '] k = k := by
    have hnot := hk.newline_notMem
    clear h hk
    induction k with
    | nil => rfl
    | cons c k ih =>
        rw [List.mem_cons, not_or] at hnot
        rw [Text.replaceChar, List.flatMap_cons, if_neg (Ne.symm hnot.1), List.singleton_append]
        exact congrArg (c :: ·) (ih hnot.2)
  obtain ⟨a, b, rfl⟩ := h
  rw [Text.replaceChar, List.flatMap_append, List.flatMap_append]
  rw [Text.replaceChar] at hsame
  rw [hsame]
  exact List.infix_append _ _ _

/-! ### Lines -/

/-- A sturdy part lies in one line. -/
lemma exists_line (hk : Sturdy k) (h : k <:+: t) : ∃ l ∈ linesOf t, k <:+: l := by
  rw [← Text.join_split '\n' t] at h
  exact Text.exists_infix_of_join hk.ne_nil hk.newline_notMem h

lemma ofLines {l : Text} {lines : List Text} (hl : l ∈ lines) (h : k <:+: l) :
    k <:+: PageNotes.ofLines lines :=
  h.trans (Text.infix_join hl)

lemma mapLines (hk : Sturdy k) {f : Text → Text} (hf : ∀ l, k <:+: l → k <:+: f l)
    (h : k <:+: t) : k <:+: PageNotes.mapLines f t := by
  obtain ⟨l, hl, hline⟩ := hk.exists_line h
  exact ofLines (List.mem_map_of_mem hl) (hf l hline)

lemma indentLines (hk : Sturdy k) (width : Nat) (h : k <:+: t) :
    k <:+: PageNotes.indentLines width t := by
  refine hk.mapLines (fun l hl => ?_) h
  rw [if_neg (by simpa using hk.ne_nil_of_infix hl)]
  exact List.infix_append_of_infix_right hl

/-- The indentation of the first line of a text that does not start with a line end. -/
lemma indentLines_eq (width : Nat) {c : Char} (hc : c ≠ '\n') (t : Text) :
    ∃ rest, PageNotes.indentLines width (c :: t) = List.replicate width ' ' ++ rest := by
  rw [PageNotes.indentLines, PageNotes.mapLines]
  cases hsplit : Text.split '\n' t with
  | nil => exact absurd hsplit (Text.split_ne_nil '\n' t)
  | cons piece pieces =>
      have hlines : linesOf (c :: t) = (c :: piece) :: pieces := by
        rw [linesOf, Text.split, if_neg hc, hsplit]
      rw [hlines, List.map_cons, if_neg (by simp)]
      cases pieces with
      | nil => exact ⟨c :: piece, rfl⟩
      | cons second pieces => exact ⟨_, by simp [PageNotes.ofLines, Text.join]; rfl⟩

/-- Some of the indentation of the first line may go. -/
lemma drop_indentLines (hk : Sturdy k) {n width : Nat} (hn : n ≤ width) (hne : t ≠ [])
    (hstart : t.head? ≠ some '\n') (h : k <:+: t) :
    k <:+: (PageNotes.indentLines width t).drop n := by
  have hindented := hk.indentLines width h
  obtain ⟨c, t, rfl⟩ := List.exists_cons_of_ne_nil hne
  obtain ⟨rest, hrest⟩ := indentLines_eq width (fun hc => hstart (congrArg some hc)) t
  have hspaces : ∀ m, ∀ c ∈ List.replicate m ' ', isLeadChar c = true := by
    intro m c hc
    rw [(List.mem_replicate.mp hc).2]
    decide
  rw [hrest] at hindented ⊢
  rw [List.drop_append_of_le_length (by simpa using hn)]
  exact List.infix_append_of_infix_right (hk.of_append (hspaces width) hindented)

/-! ### Joining -/

lemma joinPartsAfter (hk : Sturdy k) {part : Text} {parts : List Text} (hmem : part ∈ parts)
    (h : k <:+: part) (trailing : Nat) : k <:+: PageNotes.joinPartsAfter trailing parts := by
  have hnewline : ∀ c, decide (c = '\n') = true → isBlank c = true := by
    intro c hc
    rw [of_decide_eq_true hc]
    decide
  induction parts generalizing trailing with
  | nil => cases hmem
  | cons first parts ih =>
      rw [PageNotes.joinPartsAfter]
      rcases List.mem_cons.mp hmem with rfl | hmem
      · have hbody := hk.trimStart hnewline h
        rw [Text.trimStart] at hbody
        simp only [Text.drop_takeWhile_length, hk.isEmpty_of_infix hbody, Bool.false_eq_true,
          if_false, Text.take_sub_takeEnd]
        exact List.infix_append_of_infix_left
          (List.infix_append_of_infix_right (hk.trimEnd hnewline hbody))
      · dsimp only
        split_ifs
        · exact List.infix_append_of_infix_right (ih hmem _)
        · exact List.infix_append_of_infix_right (ih hmem _)

/-- The parts of an element put together. -/
lemma joinParts (hk : Sturdy k) {part : Text} {parts : List Text} (hmem : part ∈ parts)
    (h : k <:+: part) : k <:+: PageNotes.joinParts parts := by
  refine hk.joinPartsAfter (List.mem_filter.mpr ⟨hmem, ?_⟩) h 0
  rw [hk.isEmpty_of_infix h]
  rfl

lemma mem_keepLines {l : Text} {lines : List Text} (hl : l ∈ lines) (hblank : l.allBlank = false)
    (inCode afterBlank : Bool) : l ∈ keepLines inCode afterBlank lines := by
  induction lines generalizing inCode afterBlank with
  | nil => cases hl
  | cons first lines ih =>
      rw [keepLines]
      rcases List.mem_cons.mp hl with rfl | hl
      · rw [hblank, Bool.and_false, if_neg Bool.false_ne_true]
        split_ifs <;> exact List.mem_cons_self
      · split_ifs
        · exact List.mem_cons_of_mem _ (ih hl _ _)
        · exact ih hl _ _
        · exact List.mem_cons_of_mem _ (ih hl _ _)
        · exact List.mem_cons_of_mem _ (ih hl _ _)

/-- The whole document tidied up. -/
lemma cleanUp (hk : Sturdy k) (h : k <:+: t) : k <:+: PageNotes.cleanUp t := by
  obtain ⟨l, hl, hline⟩ := hk.exists_line h
  exact hk.trimNewlines
    (ofLines (mem_keepLines hl (hk.allBlank_of_infix hline) false false) hline)

/-! ### Marks -/

lemma markedWith (hk : Sturdy k) (opening closing : Text) (h : k <:+: t) :
    k <:+: PageNotes.markedWith opening closing t := by
  have hcore : k <:+: (chomp t).core := hk.strip h
  rw [PageNotes.markedWith, if_neg (by simpa using hk.ne_nil_of_infix hcore)]
  exact List.infix_append_of_infix_left (List.infix_append_of_infix_left
    (List.infix_append_of_infix_right hcore))

end Sturdy

end PageNotes
