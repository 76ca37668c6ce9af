import Mathlib.Data.List.SplitBy
import PageNotes.Proofs.Markdown.Fences
import PageNotes.Proofs.Text.Trim

/-!
Runs of blank lines in the last step of rendering. A line stands inside code if an odd number of the
lines before it are fences. The step settles the maximal runs of blank lines outside code, one by
one, and leaves all other lines alone, so it finds nothing to do in its own result.

* `markedLines`, `isGap`: the lines of a text with where they stand, and the blank ones outside
  code;
* `lineRuns`, `keptLines`: the maximal runs of such lines and of the others, and all others;
* `keepLines_runs`: the lines that stay, run by run;
* `markFrom_keepLines`, `keepLines_keepLines`: what holds of the lines that stay;
* `cleanUp_eq`: the text that is left has these lines, but for empty ones at both ends;
* `cleanUp_settled`: the whole account.
-/

namespace PageNotes

/-! ### Where lines stand -/

/-- The lines of a text, each with whether it stands inside code: whether an odd number of the lines
before it are fences. -/
def markedLines (t : Text) : List (Text × Bool) :=
  (linesOf t).mapIdx fun i line => (line, decide (Odd (((linesOf t).take i).countP isFence)))

/-- Whether a line is blank and stands outside code. -/
def isGap (line : Text × Bool) : Bool := line.1.allBlank && !line.2

/-- The maximal runs of blank lines outside code and of other lines, in order. -/
def lineRuns (t : Text) : List (List (Text × Bool)) :=
  (markedLines t).splitBy fun a b => isGap a == isGap b

/-- The lines that become of a run: one empty line for blank lines outside code, other lines as they
are. -/
def settledRun (run : List (Text × Bool)) : List Text :=
  if run.all isGap then [[]] else run.map Prod.fst

/-- All lines that are not blank or stand inside code, in order. -/
def keptLines (t : Text) : List (Text × Bool) := (markedLines t).filter (!isGap ·)

/-- Lines with where they stand, from inside code or from outside it. -/
def markFrom (inCode : Bool) : List Text → List (Text × Bool)
  | [] => []
  | line :: rest => (line, inCode) :: markFrom (inCode ^^ isFence line) rest

lemma markFrom_eq (inCode : Bool) (lines : List Text) :
    markFrom inCode lines = lines.mapIdx fun i line =>
      (line, inCode ^^ decide (Odd ((lines.take i).countP isFence))) := by
  induction lines generalizing inCode with
  | nil => rfl
  | cons line lines ih =>
      rw [markFrom, ih, List.mapIdx_cons]
      refine congrArg₂ List.cons (by simp) (congrArg (List.mapIdx · lines) ?_)
      funext i other
      rw [List.take_succ_cons, Bool.xor_assoc]
      by_cases hline : isFence line = true
      · rw [List.countP_cons_of_pos hline, hline]
        by_cases hodd : Odd ((lines.take i).countP isFence) <;> simp [Nat.odd_add_one, hodd]
      · rw [List.countP_cons_of_neg hline, eq_false_of_ne_true hline, Bool.false_xor]

lemma markedLines_eq (t : Text) : markedLines t = markFrom false (linesOf t) := by
  simp [markFrom_eq, markedLines]

/-- A fence is not blank. -/
lemma isFence_of_allBlank {line : Text} (h : line.allBlank = true) : isFence line = false := by
  have hstrip : Text.strip line = [] := by
    rw [Text.strip, Text.trim, Text.trimStart,
      List.dropWhile_eq_nil_iff.mpr (List.all_eq_true.mp h)]
    rfl
  rw [isFence, hstrip]
  rfl

lemma isGap_eq_true {inCode : Bool} {line : Text} (h : isGap (line, inCode) = true) :
    isFence line = false ∧ inCode = false := by
  rw [isGap, Bool.and_eq_true, Bool.not_eq_true'] at h
  exact ⟨isFence_of_allBlank h.1, h.2⟩

/-- What becomes of the first line. -/
lemma keepLines_cons (inCode afterBlank : Bool) (line : Text) (rest : List Text) :
    keepLines inCode afterBlank (line :: rest) =
      if isGap (line, inCode) then
        (if afterBlank then [] else [[]]) ++ keepLines (inCode ^^ isFence line) true rest
      else line :: keepLines (inCode ^^ isFence line) false rest := by
  rw [keepLines, isGap, Bool.and_comm]
  by_cases hfence : isFence line = true
  · have hfilled : line.allBlank = false :=
      eq_false_of_ne_true fun hblank => by simp [isFence_of_allBlank hblank] at hfence
    rw [if_pos hfence, hfilled, Bool.false_and, if_neg Bool.false_ne_true, hfence, Bool.xor_true]
  · rw [if_neg hfence, eq_false_of_ne_true hfence, Bool.xor_false]
    cases afterBlank <;> rfl

/-! ### Runs -/

/-- The runs of a list, from those of the list without its first element. -/
lemma splitBy_cons_cons {α : Type} (r : α → α → Bool) (a b : α) (l : List α) :
    ∃ run runs, (b :: l).splitBy r = (b :: run) :: runs ∧
      (a :: b :: l).splitBy r
        = if r a b then (a :: b :: run) :: runs else [a] :: (b :: run) :: runs := by
  obtain ⟨first, runs, hruns⟩ := List.exists_cons_of_ne_nil
    ((@List.splitBy_ne_nil α r (b :: l)).mpr (List.cons_ne_nil b l))
  obtain ⟨hflat, hnil, hchain, hapart⟩ := List.splitBy_eq_iff.mp hruns
  obtain ⟨c, run, rfl⟩ := List.exists_cons_of_ne_nil fun heq => hnil (heq ▸ List.mem_cons_self)
  obtain ⟨rfl, hrest⟩ := List.cons.inj hflat
  refine ⟨run, runs, hruns, ?_⟩
  split_ifs with hab
  · -- the element joins the first run
    refine List.splitBy_eq_iff.mpr ⟨congrArg (a :: ·) hflat, ?_, ?_, ?_⟩
    · simpa using hnil
    · rw [List.forall_mem_cons] at hchain ⊢
      exact ⟨List.isChain_cons_cons.mpr ⟨hab, hchain.1⟩, hchain.2⟩
    · rw [List.isChain_cons] at hapart ⊢
      refine ⟨fun next hnext => ?_, hapart.2⟩
      obtain ⟨hfilled, hfilled', hother⟩ := hapart.1 next hnext
      exact ⟨List.cons_ne_nil _ _, hfilled', by rwa [List.getLast_cons hfilled]⟩
  · have happend := @List.splitBy_append_cons α r [a] b l (by simpa using hab)
    rw [List.singleton_append, hruns] at happend
    exact happend

/-- A run that starts with a blank line outside code is of such lines. -/
lemma settledRun_gap {line : Text × Bool} {run : List (Text × Bool)}
    (hrun : (line :: run).IsChain fun a b => (isGap a == isGap b) = true)
    (h : isGap line = true) : settledRun (line :: run) = [[]] := by
  have hall : (line :: run).all isGap = true := by
    induction run generalizing line with
    | nil => rw [List.all_cons, h, List.all_nil, Bool.and_true]
    | cons next run ih =>
        rw [List.isChain_cons_cons, beq_iff_eq, h] at hrun
        rw [List.all_cons, h, Bool.true_and, ih hrun.2 hrun.1.symm]
  rw [settledRun, if_pos hall]

/-- A run that starts with another line stays. -/
lemma settledRun_other {line : Text × Bool} (h : isGap line = false) (run : List (Text × Bool)) :
    settledRun (line :: run) = line.1 :: run.map Prod.fst := by
  rw [settledRun, List.all_cons, h, Bool.false_and, if_neg Bool.false_ne_true, List.map_cons]

/-- The lines that stay, run by run; behind a blank line nothing is left of the first run if it is
of blank lines outside code. -/
lemma keepLines_runs (inCode : Bool) (line : Text) (lines : List Text) :
    ∃ run runs, (markFrom inCode (line :: lines)).splitBy (fun a b => isGap a == isGap b)
        = ((line, inCode) :: run) :: runs ∧
      keepLines inCode false (line :: lines)
        = settledRun ((line, inCode) :: run) ++ runs.flatMap settledRun ∧
      keepLines inCode true (line :: lines)
        = (if isGap (line, inCode) then [] else settledRun ((line, inCode) :: run))
          ++ runs.flatMap settledRun := by
  induction lines generalizing inCode line with
  | nil =>
      refine ⟨[], [], rfl, ?_, ?_⟩ <;> rw [keepLines_cons] <;>
        cases hgap : isGap (line, inCode) <;> simp [keepLines, settledRun, hgap]
  | cons next lines ih =>
      obtain ⟨run, runs, hruns, hfirst, hbehind⟩ := ih (inCode ^^ isFence line) next
      obtain ⟨run', runs', hruns', hwhole⟩ := splitBy_cons_cons (fun a b => isGap a == isGap b)
        (line, inCode) (next, inCode ^^ isFence line)
        (markFrom (inCode ^^ isFence line ^^ isFence next) lines)
      rw [markFrom, hruns'] at hruns
      obtain ⟨rfl, rfl⟩ : run' = run ∧ runs' = runs := by simpa using hruns
      rw [keepLines_cons inCode false line, keepLines_cons inCode true line, hfirst, hbehind,
        markFrom, markFrom, hwhole]
      cases hline : isGap (line, inCode) with
      | true =>
          cases hnext : isGap (next, inCode ^^ isFence line) with
          | true =>
              -- both are in one run of blank lines
              have hrun := List.isChain_of_mem_splitBy (hruns' ▸ List.mem_cons_self)
              refine ⟨_ :: run', runs', rfl, ?_, rfl⟩
              rw [settledRun_gap (List.isChain_cons_cons.mpr ⟨by rw [hline, hnext]; rfl, hrun⟩)
                hline]
              rfl
          | false =>
              refine ⟨[], _, rfl, ?_, ?_⟩
              · rw [settledRun_gap (List.isChain_singleton _) hline]
                rfl
              · rfl
      | false =>
          cases hnext : isGap (next, inCode ^^ isFence line) with
          | true =>
              refine ⟨[], _, rfl, ?_, ?_⟩ <;> rw [settledRun_other hline] <;> rfl
          | false =>
              -- both are in one run of lines that stay
              refine ⟨_ :: run', runs', rfl, ?_, ?_⟩ <;>
                rw [settledRun_other hnext, settledRun_other hline] <;> rfl

/-! ### The lines that stay -/

section Kept

variable (inCode afterBlank : Bool) (lines : List Text)

/-- Of the lines that stay, those that are blank and outside code are empty. -/
lemma gap_keepLines : ∀ line ∈ markFrom inCode (keepLines inCode afterBlank lines),
    isGap line = true → line.1 = [] := by
  induction lines generalizing inCode afterBlank with
  | nil => simp [keepLines, markFrom]
  | cons line lines ih =>
      rw [keepLines_cons]
      split_ifs with hgap hafter
      · rw [List.nil_append, (isGap_eq_true hgap).1, Bool.xor_false]
        exact ih _ _
      · obtain ⟨hfence, rfl⟩ := isGap_eq_true hgap
        rw [hfence, List.singleton_append, markFrom, List.forall_mem_cons]
        exact ⟨fun _ => rfl, ih false true⟩
      · rw [markFrom, List.forall_mem_cons]
        exact ⟨fun hline => absurd hline hgap, ih _ _⟩

/-- All other lines stay, in order and where they stood. -/
lemma markFrom_keepLines :
    (markFrom inCode (keepLines inCode afterBlank lines)).filter (!isGap ·)
      = (markFrom inCode lines).filter (!isGap ·) := by
  induction lines generalizing inCode afterBlank with
  | nil => rfl
  | cons line lines ih =>
      rw [keepLines_cons, markFrom]
      split_ifs with hgap hafter
      · rw [List.filter_cons_of_neg (by simp [hgap]), (isGap_eq_true hgap).1, Bool.xor_false]
        exact ih _ _
      · obtain ⟨hfence, rfl⟩ := isGap_eq_true hgap
        rw [List.filter_cons_of_neg (by simp [hgap]), hfence, List.singleton_append, markFrom,
          List.filter_cons_of_neg (by decide)]
        exact ih _ _
      · rw [markFrom, List.filter_cons_of_pos (by simp [hgap]),
          List.filter_cons_of_pos (by simp [hgap]), ih]

/-- The lines that stay do so a second time. -/
lemma keepLines_keepLines :
    keepLines inCode afterBlank (keepLines inCode afterBlank lines)
      = keepLines inCode afterBlank lines := by
  induction lines generalizing inCode afterBlank with
  | nil => rfl
  | cons line lines ih =>
      rw [keepLines_cons inCode afterBlank line lines]
      split_ifs with hgap hafter
      · subst hafter
        rw [List.nil_append, (isGap_eq_true hgap).1, Bool.xor_false, ih]
      · obtain ⟨hfence, rfl⟩ := isGap_eq_true hgap
        rw [hfence, List.singleton_append, keepLines_cons, if_pos (by decide), if_neg hafter]
        exact congrArg ([[]] ++ ·) (ih _ _)
      · rw [keepLines_cons, if_neg hgap, ih]

/-- Lines are read one after another. -/
lemma exists_keepLines_append (more : List Text) :
    ∃ inCode' afterBlank', keepLines inCode afterBlank (lines ++ more)
      = keepLines inCode afterBlank lines ++ keepLines inCode' afterBlank' more := by
  induction lines generalizing inCode afterBlank with
  | nil => exact ⟨inCode, afterBlank, rfl⟩
  | cons line lines ih =>
      rw [List.cons_append, keepLines_cons, keepLines_cons]
      split_ifs
      · exact ih _ _
      · obtain ⟨inCode', afterBlank', hrest⟩ := ih (inCode ^^ isFence line) true
        exact ⟨inCode', afterBlank', by rw [hrest, List.append_assoc]⟩
      · obtain ⟨inCode', afterBlank', hrest⟩ := ih (inCode ^^ isFence line) false
        exact ⟨inCode', afterBlank', by rw [hrest, List.cons_append]⟩

/-- Where all lines stay as they are, those at the start do so by themselves. -/
lemma keepLines_of_append (more : List Text)
    (h : keepLines inCode afterBlank (lines ++ more) = lines ++ more) :
    keepLines inCode afterBlank lines = lines := by
  obtain ⟨inCode', afterBlank', hrest⟩ := exists_keepLines_append inCode afterBlank lines more
  rw [h] at hrest
  have hlength := congrArg List.length hrest
  have hlines := length_keepLines_le inCode afterBlank lines
  have hmore := length_keepLines_le inCode' afterBlank' more
  rw [List.length_append, List.length_append] at hlength
  exact (List.append_inj_left hrest (by omega)).symm

/-- A line that is not blank outside code is not empty there. -/
lemma isEmpty_of_isGap {line : Text} (h : ¬isGap (line, false) = true) :
    ¬line.isEmpty = true := fun hempty => h (by rw [List.isEmpty_iff.mp hempty]; decide)

/-- Behind a blank line the lines that stay do not start with an empty one. -/
lemma head?_keepLines : ∀ line ∈ (keepLines false true lines).head?, ¬line.isEmpty = true := by
  induction lines with
  | nil => simp [keepLines]
  | cons line lines ih =>
      rw [keepLines_cons]
      by_cases hgap : isGap (line, false) = true
      · rw [if_pos hgap, if_pos rfl, (isGap_eq_true hgap).1]
        exact ih
      · rw [if_neg hgap]
        rintro _ ⟨rfl⟩
        exact isEmpty_of_isGap hgap

/-- Without empty lines at the start, the lines that stay are those behind a blank line. -/
lemma dropWhile_keepLines :
    (keepLines false false lines).dropWhile List.isEmpty = keepLines false true lines := by
  cases lines with
  | nil => rfl
  | cons line lines =>
      rw [keepLines_cons, keepLines_cons]
      by_cases hgap : isGap (line, false) = true
      · rw [if_pos hgap, if_pos hgap, if_pos rfl, if_neg Bool.false_ne_true, (isGap_eq_true hgap).1,
          List.singleton_append, List.dropWhile_cons_of_pos rfl, Bool.xor_false, List.nil_append]
        have hstart := head?_keepLines lines
        generalize keepLines false true lines = kept at hstart
        cases kept with
        | nil => rfl
        | cons first rest => exact List.dropWhile_cons_of_neg (hstart first rfl)
      · rw [if_neg hgap, if_neg hgap, List.dropWhile_cons_of_neg (isEmpty_of_isGap hgap)]

end Kept

/-! ### The text that is left -/

/-- The lines of the text that is left. -/
def cleanLines (t : Text) : List Text :=
  (keepLines false true (linesOf t)).rdropWhile List.isEmpty

lemma markFrom_concat (inCode : Bool) (lines : List Text) (line : Text) :
    ∃ inside, markFrom inCode (lines ++ [line]) = markFrom inCode lines ++ [(line, inside)] := by
  induction lines generalizing inCode with
  | nil => exact ⟨inCode, rfl⟩
  | cons first lines ih =>
      obtain ⟨inside, hinside⟩ := ih (inCode ^^ isFence first)
      exact ⟨inside, by rw [List.cons_append, markFrom, hinside, markFrom, List.cons_append]⟩

/-- Empty lines at the end do not change where lines stand. -/
lemma markFrom_rdropWhile (inCode : Bool) (lines : List Text) :
    markFrom inCode (lines.rdropWhile List.isEmpty)
      = (markFrom inCode lines).rdropWhile (·.1.isEmpty) := by
  induction lines using List.reverseRecOn with
  | nil => rfl
  | append_singleton lines line ih =>
      obtain ⟨inside, hinside⟩ := markFrom_concat inCode lines line
      rw [List.rdropWhile_concat]
      split_ifs with hempty
      · rw [hinside, ih]
        exact (List.rdropWhile_concat_pos _ _ (line, inside) hempty).symm
      · rw [hinside]
        exact (List.rdropWhile_concat_neg _ _ (line, inside) hempty).symm

/-- What is dropped at the end may be dropped before or after others are left out, all of which
would be dropped there. -/
lemma filter_rdropWhile {α : Type} {p q : α → Bool} {l : List α}
    (h : ∀ a ∈ l, q a = false → p a = true) :
    (l.rdropWhile p).filter q = (l.filter q).rdropWhile p := by
  induction l using List.reverseRecOn with
  | nil => rfl
  | append_singleton l a ih =>
      rw [List.forall_mem_append, List.forall_mem_singleton] at h
      rw [List.rdropWhile_concat, List.filter_append]
      cases hq : q a with
      | false =>
          rw [if_pos (h.2 hq), ih h.1, List.filter_cons_of_neg (by simp [hq]), List.filter_nil,
            List.append_nil]
      | true =>
          rw [List.filter_cons_of_pos hq, List.filter_nil, List.rdropWhile_concat]
          split_ifs
          · exact ih h.1
          · rw [List.filter_append, List.filter_cons_of_pos hq, List.filter_nil]

section Clean

variable (t : Text)

lemma cleanUp_eq : cleanUp t = ofLines (cleanLines t) := by
  rw [cleanUp, Text.trim, trimStart_ofLines (newline_notMem_keepLines t), dropWhile_keepLines,
    trimEnd_ofLines (newline_notMem_keepLines t), cleanLines]

/-- The lines of the text that is left are read back from it, but for the one of an empty text. -/
lemma linesOf_cleanUp_eq :
    linesOf (cleanUp t) = if cleanLines t = [] then [[]] else cleanLines t := by
  rw [cleanUp_eq]
  split_ifs with hnone
  · rw [hnone]
    rfl
  · exact Text.split_join hnone fun line hline =>
      newline_notMem_keepLines t line ((List.rdropWhile_prefix _ _).subset hline)

/-- There is nothing left to do. -/
lemma cleanLines_cleanUp : cleanLines (cleanUp t) = cleanLines t := by
  have hself : keepLines false true (cleanLines t) = cleanLines t := by
    obtain ⟨dropped, hdropped⟩ :=
      List.rdropWhile_prefix List.isEmpty (keepLines false true (linesOf t))
    refine keepLines_of_append false true _ dropped ?_
    rw [cleanLines, hdropped, keepLines_keepLines]
  rw [cleanLines, linesOf_cleanUp_eq]
  split_ifs with hnone
  · rw [hnone]
    rfl
  · rw [hself, cleanLines, List.rdropWhile_idempotent]

/-- The lines that are not blank or stand inside code stay, but for empty ones at the end. -/
lemma keptLines_cleanUp : keptLines (cleanUp t) = (keptLines t).rdropWhile (·.1.isEmpty) := by
  have hlines : (markFrom false (linesOf (cleanUp t))).filter (!isGap ·)
      = (markFrom false (cleanLines t)).filter (!isGap ·) := by
    rw [linesOf_cleanUp_eq]
    split_ifs with hnone
    · rw [hnone]
      rfl
    · rfl
  have hgaps : ∀ line ∈ markFrom false (keepLines false true (linesOf t)),
      (!isGap line) = false → line.1.isEmpty = true := by
    intro line hline hgap
    rw [Bool.not_eq_false'] at hgap
    rw [gap_keepLines false true (linesOf t) line hline hgap]
    rfl
  rw [keptLines, markedLines_eq, hlines, cleanLines, markFrom_rdropWhile, filter_rdropWhile hgaps,
    markFrom_keepLines, keptLines, markedLines_eq]

/-- **Blank runs**: the text that is left has, but for line ends at both ends, one empty line for
each maximal run of blank lines outside code, and the other runs as they are. Read again, it has the
lines that are not blank or stand inside code unchanged, in order and where they stood, but for
empty ones at the end, in code that is not closed. It neither starts nor ends with a line end, and
nothing more is done to it. -/
theorem cleanUp_settled :
    cleanUp t = Text.trim (· = '\n') (ofLines ((lineRuns t).flatMap settledRun)) ∧
      keptLines (cleanUp t) = (keptLines t).rdropWhile (·.1.isEmpty) ∧
      (cleanUp t).head? ≠ some '\n' ∧ (cleanUp t).getLast? ≠ some '\n' ∧
      cleanUp (cleanUp t) = cleanUp t := by
  refine ⟨?_, keptLines_cleanUp t, ?_, ?_, ?_⟩
  · obtain ⟨line, lines, hlines⟩ := List.exists_cons_of_ne_nil (Text.split_ne_nil '\n' t)
    obtain ⟨run, runs, hruns, hkept, -⟩ := keepLines_runs false line lines
    rw [lineRuns, markedLines_eq, cleanUp, linesOf, hlines, hruns, hkept, List.flatMap_cons]
  · exact fun hhead => absurd (Text.trim_head _ _ '\n' hhead) (by decide)
  · exact fun hlast => absurd (Text.trimEnd_getLast _ _ '\n' hlast) (by decide)
  · rw [cleanUp_eq (cleanUp t), cleanLines_cleanUp, ← cleanUp_eq]

end Clean

/-- An open block of code between blank lines. -/
example : cleanUp "\n \na\n \n\n```\n\n \n\n".toList = "a\n\n```\n\n ".toList := by
  decide +kernel

end PageNotes
