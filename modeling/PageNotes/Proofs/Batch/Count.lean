import PageNotes.Proofs.Batch.Trace
import PageNotes.Proofs.Export.Log
import PageNotes.Proofs.Report.Sorted

/-!
The count of a batch. The report and the tracker are fed with the same outcomes, so they agree at
every point of a batch, and the lines about progress in the log are those of the multiples so far.

* `Exporter.Run.Counted`: the agreement of the report, the tracker and the log;
* `Exporter.Batch.counted_of_reached`: it holds of every batch that is reached;
* `Exporter.completes_counted`: a report is given unless an export gives an error, and it has one
  outcome for each page, in order, with the counts of the tracker.
-/

namespace PageNotes

open Relation (ReflTransGen)
open Session (SameProgress)

namespace Tracker

/-- One more page is one more line if it is due. -/
lemma progressLines_succ (total every : Int) (processed : Nat) :
    progressLines total every (processed + 1) = progressLines total every processed ++
      if ((processed + 1 : Nat) : Int) % every = 0 then [progressLine total (processed + 1)]
      else [] := by
  rw [progressLines, List.range'_concat, List.filter_append, List.map_append, ← progressLines]
  have hnext : 1 + 1 * processed = processed + 1 := by omega
  rw [hnext]
  split_ifs with hdue
  · rw [List.filter_cons_of_pos (by simpa using hdue)]
    rfl
  · rw [List.filter_cons_of_neg (by simpa using hdue)]
    rfl

lemma count_converted (t : Tracker) (o : Outcome) :
    (t.count o).converted = t.converted + if o.succeeded then 1 else 0 := by
  rw [count]
  split_ifs <;> rfl

lemma count_failed (t : Tracker) (o : Outcome) :
    (t.count o).failed = t.failed + if o.succeeded then 0 else 1 := by
  rw [count]
  split_ifs <;> rfl

lemma count_warnings (t : Tracker) (o : Outcome) :
    (t.count o).warnings = t.warnings + o.warnings.length := by
  rw [count]
  split_ifs <;> rfl

lemma summary_head (t : Tracker) (time : Text) :
    (t.summary time).toList.head? = some 'B' := by
  delta summary
  simp [toString_text]

end Tracker

namespace Exporter

variable {e : Exporter} {s s' : Session} {paths : List Path} {r : Run}

/-- A line is logged after this many pages. -/
def progressInterval : Int := 10

/-- The tracker of a run counts the outcomes of its report, and the log has had a line at each
multiple if such lines count. -/
structure Run.Counted (s : Session) (pages : Nat) (r : Run) : Prop where
  logging : r.session.logging = s.logging
  total : r.tracker.total = pages
  reportEvery : r.tracker.reportEvery = progressInterval
  converted : r.tracker.converted = r.report.succeeded
  failed : r.tracker.failed = r.report.failed
  warnings : r.tracker.warnings = r.report.warningCount
  progress : r.session.progress = s.progress ++
    if s.heedsInfo then Tracker.progressLines pages progressInterval r.report.total else []

namespace Run.Counted

variable {pages : Nat}

lemma start (e : Exporter) (s : Session) (pages : Nat) : (e.begin s pages).Counted s pages := by
  have hmessage : (s!"Converting {(pages : Int)} document(s)").toList.head? = some 'C' := by
    simp [toString_text]
  have hlog := log_sameProgress s .info mainChannel hmessage (by decide)
  exact ⟨hlog.logging, rfl, rfl, rfl, rfl, rfl, hlog.progress.trans (by simp [begin, Report.empty,
    Report.total, Tracker.enter, Tracker.progressLines])⟩

/-- An export is not counted. -/
lemma exported (h : r.Counted s pages) (e : Exporter) (source : Path) :
    (r.exported e source).Counted s pages := by
  have hsame := e.exportFile_sameProgress r.session source
  exact ⟨hsame.logging.trans h.logging, h.total, h.reportEvery, h.converted, h.failed, h.warnings,
    hsame.progress.trans h.progress⟩

/-- An outcome is counted once. -/
lemma count (h : r.Counted s pages) (o : Outcome) : (r.count o).Counted s pages := by
  have hprocessed : r.tracker.processed = r.report.total := by
    rw [Tracker.processed, h.converted, h.failed, Report.succeeded_add_failed]
  have hnonzero : r.tracker.reportEvery ≠ 0 := by
    rw [h.reportEvery]
    decide
  obtain ⟨hlogging, hprogress⟩ := Tracker.record_progress hnonzero o r.session
  have htracker := Tracker.record_tracker r.tracker o r.session
  refine ⟨hlogging.trans h.logging, ?_, ?_, ?_, ?_, ?_, hprogress.trans ?_⟩
  · change (r.tracker.record o r.session).2.1.total = _
    rw [htracker, Tracker.count_total, h.total]
  · change (r.tracker.record o r.session).2.1.reportEvery = _
    rw [htracker, Tracker.count_reportEvery, h.reportEvery]
  · change (r.tracker.record o r.session).2.1.converted = (r.report.add o).succeeded
    rw [htracker, Tracker.count_converted, Report.succeeded_add, h.converted]
  · change (r.tracker.record o r.session).2.1.failed = (r.report.add o).failed
    rw [htracker, Tracker.count_failed, Report.failed_add, h.failed]
  · change (r.tracker.record o r.session).2.1.warnings = (r.report.add o).warningCount
    rw [htracker, Tracker.count_warnings, Report.warningCount_add, h.warnings]
  · have hheeds : r.session.heedsInfo = s.heedsInfo := by
      rw [Session.heedsInfo, h.logging, Session.heedsInfo]
    change _ = s.progress ++ if s.heedsInfo then
      Tracker.progressLines pages progressInterval (r.report.add o).total else []
    rw [h.progress, hheeds, hprocessed, h.reportEvery, h.total, Report.total_add]
    by_cases hs : s.heedsInfo = true
    · simp only [hs, if_true, true_and, Tracker.progressLines_succ, List.append_assoc]
    · simp [hs]

lemma take (h : r.Counted s pages) (result : Except StoreError Outcome) :
    (r.take result).Counted s pages := by
  cases result with
  | ok o => exact h.count o
  | error cause => exact ⟨h.logging, h.total, h.reportEvery, h.converted, h.failed, h.warnings,
      h.progress⟩

end Run.Counted

/-- At every point of a batch the report, the tracker and the log agree. -/
theorem Batch.counted_of_reached {b : Batch} (h : Reached e s paths b) :
    b.run.Counted s paths.length := by
  induction h with
  | refl => exact .start e s _
  | tail _ hstep ih =>
      cases hstep with
      | «export» => exact ih.exported e _
      | take => exact ih.take _

lemma prepare_sameProgress (e : Exporter) (s : Session) : SameProgress s (e.prepare s).2 := by
  have houtput := FileStore.ensureDirectory_sameProgress s e.outputFolder
  rw [prepare]
  generalize FileStore.ensureDirectory s e.outputFolder = output at houtput
  obtain ⟨result, s₁⟩ := output
  cases result with
  | error cause => exact houtput
  | ok => exact houtput.trans (FileStore.ensureDirectory_sameProgress s₁ e.imageFolder)

lemma finish_sameProgress (e : Exporter) (r : Run) : SameProgress r.session (e.finish r).2 := by
  change SameProgress _ (r.tracker.exit e.clock r.session).2
  rw [Tracker.exit]
  split_ifs
  · exact .refl _
  · cases (Seconds.floating (r.tracker.elapsed e.clock)).display with
    | error cause => exact .refl _
    | ok time =>
        exact log_sameProgress _ _ _ (Tracker.summary_head _ _) (by decide)

/-- At every point of a run over some pages the log has had a line about progress at each multiple
of the interval. The run gives a report unless an export gives an error. The report has one outcome
for each page, which is what its export gave, in the order of the texts of the pages. Its counts are
those of the tracker, and the lines about progress in the log are those of all the pages. -/
theorem completes_counted {answer : Except StoreError Report}
    (h : e.Completes s paths r (answer, s')) :
    (∀ b, Batch.Reached e (e.prepare s).2 paths b → b.run.session.progress = s.progress ++
      if s.heedsInfo then Tracker.progressLines paths.length progressInterval b.run.report.total
      else []) ∧
    (∀ cause, answer = .error cause →
      ∃ exports : List Export, (exports.map Export.source).Subperm paths ∧
        Trace e (e.prepare s).2 exports s' ∧ ∃ x ∈ exports, x.result e = .error cause) ∧
    ∀ report, answer = .ok report →
      (∃ exports : List Export, (exports.map Export.source).Perm paths ∧
          Trace e (e.prepare s).2 exports s' ∧
          (exports.map fun x => x.result e).Perm (report.outcomes.map .ok)) ∧
        (report.outcomes.map Outcome.source).Perm paths ∧
        report.outcomes.Pairwise (fun a b => Text.le a.source.toText b.source.toText = true) ∧
        report.succeeded + report.failed = report.total ∧ report.total = paths.length ∧
        r.tracker.converted = report.succeeded ∧ r.tracker.failed = report.failed ∧
        r.tracker.warnings = report.warningCount ∧
        s'.progress = s.progress ++
          if s.heedsInfo then Tracker.progressLines paths.length progressInterval paths.length
          else [] := by
  have hprepared := e.prepare_sameProgress s
  have hheeds : (e.prepare s).2.heedsInfo = s.heedsInfo := by
    rw [Session.heedsInfo, hprepared.logging, Session.heedsInfo]
  have hlines : ∀ b, Batch.Reached e (e.prepare s).2 paths b →
      b.run.session.progress = s.progress ++
        if s.heedsInfo then Tracker.progressLines paths.length progressInterval b.run.report.total
        else [] := fun b hb => by
    rw [(Batch.counted_of_reached hb).progress, hprepared.progress, hheeds]
  refine ⟨hlines, fun cause hanswer => (hanswer ▸ h).raised, fun report hanswer => ?_⟩
  obtain ⟨-, rfl, rfl, s₁, exports, hprepare, hends, htrace, hpages, hresults⟩ :=
    (hanswer ▸ h).trace
  rw [hprepare] at hlines ⊢
  have hperm := r.report.sorted_perm
  obtain ⟨b, hreached, rfl, -⟩ := hends.batch
  have hcounted := Batch.counted_of_reached hreached
  have hsources : (b.run.report.sorted.outcomes.map Outcome.source).Perm paths := by
    have hsame := hresults.map Prod.fst
    rw [results, List.map_map, List.map_map] at hsame
    exact hsame.symm.trans hpages
  have htotal : b.run.report.sorted.total = paths.length := by
    simpa [Report.total] using hsources.length_eq
  refine ⟨⟨exports, hpages, htrace, ?_⟩, hsources, b.run.report.sorted_pairwise,
    Report.succeeded_add_failed _, htotal, ?_, ?_, ?_, ?_⟩
  · have hsame := hresults.map Prod.snd
    rw [results, List.map_map, List.map_map] at hsame
    exact hsame
  · rw [hcounted.converted, Report.succeeded_perm hperm]
  · rw [hcounted.failed, Report.failed_perm hperm]
  · rw [hcounted.warnings, Report.warningCount_perm hperm]
  · have hend := e.finish_sameProgress b.run
    have hfinal := hlines b hreached
    rw [← Report.total_perm hperm, htotal] at hfinal
    exact hend.progress.trans hfinal

set_option maxRecDepth 100000 in
/-- The report of a run over one page given twice counts it twice. -/
theorem completes_counted_twice :
    ∃ report s', sample.exportFiles (sampleSession [(['p'], ['x'])]) [.ofText ['p'], .ofText ['p']]
        = (.ok report, s') ∧ report.total = 2 := by
  have hprepare : (sample.prepare (sampleSession [(['p'], ['x'])])).1 = .ok () := by
    decide +kernel
  have hopen : (sample.run (sample.prepare (sampleSession [(['p'], ['x'])])).2
      [.ofText ['p'], .ofText ['p']]).failure = none := by
    decide +kernel
  obtain ⟨s', hanswer, hcompletes⟩ := exportFiles_report hprepare hopen
  obtain ⟨-, -, -, -, htotal, -⟩ := (completes_counted hcompletes).2.2 _ rfl
  exact ⟨_, s', hanswer, htotal⟩

end Exporter

end PageNotes
