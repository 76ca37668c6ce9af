import Mathlib.Tactic.Common
import PageNotes.Report.Tracker

/-!
Lines about progress. A line about progress is known by its first and last words, so no other line
of the log is taken for one, whatever the paths are that are told in it.

* `LogEntry.isProgress`, `Session.progress`: the lines about progress in a log;
* `Tracker.progressLines`: the lines that are due after some pages;
* `Session.progress_write`: a log has one more line about progress if one is written that counts;
* `Tracker.record_progress`: one more page adds the line that is due, and no other.
-/

namespace PageNotes

/-- A text is shown as itself. -/
lemma toString_text (s : String) : toString s = s := rfl

/-! ### Lines -/

/-- Whether an entry is a line about progress. -/
def LogEntry.isProgress (entry : LogEntry) : Bool :=
  entry.channel = mainChannel && "Processed ".toList.isPrefixOf entry.message.toList &&
    " document(s)".toList.isSuffixOf entry.message.toList

lemma LogEntry.isProgress_channel {entry : LogEntry} (h : entry.channel ≠ mainChannel) :
    entry.isProgress = false := by
  simp [isProgress, h]

/-- A line about progress starts with its first word. -/
lemma LogEntry.isProgress_head {entry : LogEntry} {c : Char}
    (h : entry.message.toList.head? = some c) (hc : c ≠ 'P') : entry.isProgress = false := by
  rw [isProgress, Bool.and_eq_false_iff, Bool.and_eq_false_iff]
  refine Or.inl (Or.inr ?_)
  cases hm : entry.message.toList with
  | nil => rfl
  | cons d rest =>
      rw [hm] at h
      obtain rfl := Option.some.inj h
      have hne : ('P' == d) = false := beq_eq_false_iff_ne.mpr (Ne.symm hc)
      have hlist : "Processed ".toList = 'P' :: "rocessed ".toList := by decide
      rw [hlist, List.isPrefixOf, hne, Bool.false_and]

/-- A line about progress ends with its last word. -/
lemma LogEntry.isProgress_last {entry : LogEntry} {c : Char}
    (h : entry.message.toList.getLast? = some c) (hc : c ≠ ')') : entry.isProgress = false := by
  rw [isProgress, Bool.and_eq_false_iff]
  refine Or.inr (Bool.eq_false_iff.mpr fun hsuffix => hc ?_)
  obtain ⟨before, hbefore⟩ := List.isSuffixOf_iff_suffix.mp hsuffix
  rw [← hbefore, List.getLast?_append] at h
  have hlast : " document(s)".toList.getLast? = some ')' := by decide
  rw [hlast] at h
  exact (Option.some.inj h).symm

namespace Session

variable {s s' : Session}

/-- The lines about progress in the log. -/
def progress (s : Session) : List LogEntry := s.entries.filter LogEntry.isProgress

/-- The entries that count on the main channel: those of the level of the course of the work do. -/
def heedsInfo (s : Session) : Bool := decide (s.logging.threshold mainChannel ≤ Level.info)

/-- The same lines about progress with the same handlers. -/
structure SameProgress (s s' : Session) : Prop where
  logging : s'.logging = s.logging
  progress : s'.progress = s.progress

lemma SameProgress.refl (s : Session) : SameProgress s s := ⟨rfl, rfl⟩

lemma SameProgress.trans {s'' : Session} (h : SameProgress s s') (h' : SameProgress s' s'') :
    SameProgress s s'' :=
  ⟨h'.logging.trans h.logging, h'.progress.trans h.progress⟩

lemma handle_entries (entry : LogEntry) (s : Session) (h : LogHandler) :
    (s.handle entry h).entries = s.entries := by
  rw [handle]
  split
  · rfl
  · split
    · split <;> rfl
    · split
      · rw [appendTo]
        split <;> rfl
      · rfl

/-- An entry is at the end of the log if it counts. -/
lemma write_entries (s : Session) (entry : LogEntry) :
    (s.write entry).logging = s.logging ∧
      (s.write entry).entries = s.entries ++
        if entry.level < s.logging.threshold entry.channel then [] else [entry] := by
  have fold : ∀ (hs : List LogHandler) (s : Session),
      (hs.foldl (handle entry) s).logging = s.logging ∧
        (hs.foldl (handle entry) s).entries = s.entries := by
    intro hs
    induction hs with
    | nil => exact fun _ => ⟨rfl, rfl⟩
    | cons h hs ih =>
        intro s
        rw [List.foldl_cons, (ih _).1, (ih _).2, handle_logging, handle_entries]
        exact ⟨rfl, rfl⟩
  rw [write]
  split_ifs
  · simp
  · exact fold _ _
  · exact ⟨rfl, rfl⟩

/-- A line about progress is at the end of those if it counts. -/
lemma progress_write (s : Session) (entry : LogEntry) :
    (s.write entry).progress = s.progress ++
      if entry.level < s.logging.threshold entry.channel then []
      else if entry.isProgress then [entry] else [] := by
  rw [progress, (write_entries s entry).2, List.filter_append, ← progress]
  split_ifs with hlevel hprogress
  · rfl
  · simp [hprogress]
  · simp [hprogress]

/-- Other lines are no lines about progress. -/
lemma write_sameProgress (s : Session) {entry : LogEntry} (h : entry.isProgress = false) :
    SameProgress s (s.write entry) := by
  refine ⟨(write_entries s entry).1, ?_⟩
  rw [progress_write, h, if_neg (by simp : ¬(false = true)), ite_self, List.append_nil]

lemma writeAll_sameProgress (s : Session) {entries : List LogEntry}
    (h : ∀ entry ∈ entries, entry.isProgress = false) : SameProgress s (s.writeAll entries) := by
  rw [writeAll]
  induction entries generalizing s with
  | nil => exact .refl s
  | cons entry entries ih =>
      exact (write_sameProgress s (h entry List.mem_cons_self)).trans
        (ih _ fun x hx => h x (List.mem_cons_of_mem _ hx))

end Session

namespace Tracker

/-- The line about some pages of all. -/
def progressLine (total : Int) (processed : Nat) : LogEntry :=
  ⟨.info, mainChannel, s!"Processed {processed}/{total} document(s)"⟩

/-- The lines that are due while pages are counted: one at each multiple. -/
def progressLines (total every : Int) (processed : Nat) : List LogEntry :=
  ((List.range' 1 processed).filter fun k : Nat => (k : Int) % every = 0).map (progressLine total)

lemma progressLine_isProgress (total : Int) (processed : Nat) :
    (progressLine total processed).isProgress = true := by
  rw [LogEntry.isProgress, Bool.and_eq_true, Bool.and_eq_true]
  refine ⟨⟨decide_eq_true rfl, ?_⟩, ?_⟩
  · simp [progressLine, toString_text]
  · refine List.isSuffixOf_iff_suffix.mpr ⟨"Processed ".toList ++
      ((toString processed).toList ++ ('/' :: (toString total).toList)), ?_⟩
    simp [progressLine, toString_text]

lemma failureEntries_noProgress (o : Outcome) :
    ∀ entry ∈ failureEntries o, entry.isProgress = false := by
  intro entry hentry
  rw [failureEntries] at hentry
  split_ifs at hentry with hsucceeded
  · simp at hentry
  · rw [List.mem_singleton.mp hentry]
    refine LogEntry.isProgress_last (c := 'd') ?_ (by decide)
    cases hstatus : o.status with
    | success => exact absurd (by simp [Outcome.succeeded, hstatus]) hsucceeded
    | readFailed | conversionFailed | writeFailed => simp [Status.label, toString_text]

lemma count_total (t : Tracker) (o : Outcome) : (t.count o).total = t.total := by
  rw [count]
  split <;> rfl

lemma count_reportEvery (t : Tracker) (o : Outcome) : (t.count o).reportEvery = t.reportEvery := by
  rw [count]
  split <;> rfl

lemma count_processed (t : Tracker) (o : Outcome) : (t.count o).processed = t.processed + 1 := by
  unfold count processed
  split <;> simp only <;> omega

lemma record_tracker (t : Tracker) (o : Outcome) (s : Session) :
    (t.record o s).2.1 = t.count o := by
  unfold record
  dsimp only
  split_ifs <;> rfl

/-- One more page adds the line that is due, if it counts, and no other. -/
lemma record_progress {t : Tracker} (hevery : t.reportEvery ≠ 0) (o : Outcome) (s : Session) :
    (t.record o s).2.2.logging = s.logging ∧
      (t.record o s).2.2.progress = s.progress ++
        if s.heedsInfo ∧ ((t.processed + 1 : Nat) : Int) % t.reportEvery = 0 then
          [progressLine t.total (t.processed + 1)]
        else [] := by
  have hfailure := Session.writeAll_sameProgress s (failureEntries_noProgress o)
  have hrecord : (t.record o s).2.2
      = (s.writeAll (failureEntries o)).writeAll (t.count o).progressEntries := by
    unfold record
    dsimp only
    rw [if_neg (by rwa [count_reportEvery])]
  rw [hrecord, progressEntries, count_processed, count_reportEvery, count_total]
  by_cases hdue : ((t.processed + 1 : Nat) : Int) % t.reportEvery = 0
  · rw [if_pos hdue]
    change ((s.writeAll (failureEntries o)).write (progressLine t.total (t.processed + 1))).logging
      = _ ∧ ((s.writeAll (failureEntries o)).write
        (progressLine t.total (t.processed + 1))).progress = _
    rw [(Session.write_entries _ _).1, Session.progress_write, hfailure.logging, hfailure.progress,
      progressLine_isProgress]
    refine ⟨rfl, ?_⟩
    have hthreshold : (Level.info < s.logging.threshold mainChannel) ↔ ¬(s.heedsInfo = true) := by
      rw [Session.heedsInfo, decide_eq_true_eq]
      exact Int.not_le.symm
    congr 1
    change (if Level.info < s.logging.threshold mainChannel then _ else _) = _
    by_cases hheeds : s.heedsInfo = true
    · rw [if_neg (by rw [hthreshold]; simpa using hheeds), if_pos (And.intro hheeds hdue)]
      rfl
    · rw [if_pos (hthreshold.mpr hheeds), if_neg (fun h => hheeds h.1)]
  · rw [if_neg hdue, if_neg (fun h => hdue h.2)]
    exact ⟨hfailure.logging, by simpa [Session.writeAll] using hfailure.progress⟩

end Tracker

end PageNotes
