import Mathlib.Data.List.Perm.Subperm
import PageNotes.Proofs.Batch.Basic
import PageNotes.Proofs.Report.Sorted

/-!
Traces of batches. What a batch does to the disk is told by the exports in the order in which they
were made, for between them nothing but logs are written.

* `Exporter.Trace`: exports one after another;
* `Exporter.Batch.Inv`: what a batch has to do with the trace of its exports;
* `Exporter.Batch.inv_of_reached`: it holds of every batch that is reached;
* `Exporter.inOrder_trace`: a run in order is a trace up to its first error;
* `Exporter.Ends.trace`: a run without error has exported every page once, and its outcomes are
  those of its exports;
* `Exporter.Ends.raised`: the error of a run is that of an export.
-/

namespace PageNotes

open Relation (ReflTransGen)
open Session (Agrees Changes)

/-! ### The log of a run -/

namespace Tracker

lemma record_agrees (t : Tracker) (o : Outcome) (s : Session) :
    s.Agrees (t.record o s).2.2 := by
  have hfailure := Session.writeAll_agrees s (failureEntries o)
  rw [record]
  by_cases h : (t.count o).reportEvery = 0
  · simpa only [h, if_true] using hfailure
  · simpa only [h, if_false] using hfailure.trans (Session.writeAll_agrees _ _)

lemma exit_agrees (t : Tracker) (clock : Binary64) (s : Session) : s.Agrees (t.exit clock s).2 := by
  rw [exit]
  split_ifs
  · exact .refl s
  · split
    · exact .refl s
    · exact Session.log_agrees _ _ _ _

end Tracker

namespace Exporter

variable {e : Exporter} {s s₁ s' : Session} {paths : List Path}

lemma begin_agrees (e : Exporter) (s : Session) (total : Nat) :
    s.Agrees (e.begin s total).session :=
  Session.log_agrees _ _ _ _

lemma Run.take_agrees (r : Run) (result : Except StoreError Outcome) :
    r.session.Agrees (r.take result).session := by
  cases result with
  | ok o => exact Tracker.record_agrees _ _ _
  | error cause => exact .refl _

lemma finish_agrees (e : Exporter) (r : Run) : r.session.Agrees (e.finish r).2 :=
  Tracker.exit_agrees _ _ _

/-! ### Traces -/

/-- The export of a page, by the page and the session before. -/
structure Export where
  before : Session
  source : Path

/-- What an export gives. -/
def Export.result (e : Exporter) (x : Export) : Except StoreError Outcome :=
  (e.exportFile x.before x.source).1

/-- The session after an export. -/
def Export.after (e : Exporter) (x : Export) : Session := (e.exportFile x.before x.source).2

/-- Exports one after another, with nothing but logs between them. -/
inductive Trace (e : Exporter) : Session → List Export → Session → Prop
  | nil {s s' : Session} (h : s.Agrees s') : Trace e s [] s'
  | cons {s s' : Session} {x : Export} {rest : List Export} (h : s.Agrees x.before)
      (hrest : Trace e (x.after e) rest s') : Trace e s (x :: rest) s'

lemma Trace.agrees {l : List Export} (h : Trace e s l s₁) (h' : s₁.Agrees s') :
    Trace e s l s' := by
  induction h with
  | nil h => exact .nil (h.trans h')
  | cons h _ ih => exact .cons h (ih h')

lemma Trace.append {l more : List Export} (h : Trace e s l s₁) (h' : Trace e s₁ more s') :
    Trace e s (l ++ more) s' := by
  induction h with
  | nil h =>
      cases h' with
      | nil h' => exact .nil (h.trans h')
      | cons h' hrest => exact .cons (h.trans h') hrest
  | cons h _ ih => exact .cons h (ih h')

/-- A trace up to some of its exports and from there on. -/
lemma Trace.split {l more : List Export} (h : Trace e s (l ++ more) s') :
    ∃ s₁, Trace e s l s₁ ∧ Trace e s₁ more s' := by
  induction l generalizing s with
  | nil => exact ⟨s, .nil (.refl s), h⟩
  | cons x l ih =>
      cases h with
      | cons h hrest =>
          obtain ⟨s₁, hl, hmore⟩ := ih hrest
          exact ⟨s₁, .cons h hl, hmore⟩

/-- All pages of a trace are exported in one setting. -/
lemma Trace.sameSetting {l : List Export} (h : Trace e s l s') :
    s.SameSetting s' ∧ ∀ x ∈ l, s.SameSetting x.before := by
  induction h with
  | nil h => exact ⟨h.toSameSetting, by simp⟩
  | @cons s s' x rest h _ ih =>
      have hafter : s.SameSetting (x.after e) :=
        h.toSameSetting.trans (e.exportFile_changes x.before x.source).toSameSetting
      refine ⟨hafter.trans ih.1, fun y hy => ?_⟩
      rcases List.mem_cons.mp hy with rfl | hy
      · exact h.toSameSetting
      · exact hafter.trans (ih.2 y hy)

/-! ### Batches and traces -/

/-- The results that were taken as outcomes. -/
def Run.taken (r : Run) : List (Path × Except StoreError Outcome) :=
  r.report.outcomes.map fun o => (o.source, .ok o)

/-- The exports of a trace with what they give. -/
def results (e : Exporter) (trace : List Export) : List (Path × Except StoreError Outcome) :=
  trace.map fun x => (x.source, x.result e)

lemma source_of_result {trace : List Export} {source : Path} {o : Outcome}
    (h : (source, .ok o) ∈ results e trace) : o.source = source := by
  obtain ⟨x, -, hx⟩ := List.mem_map.mp h
  simp only [Prod.mk.injEq] at hx
  obtain ⟨rfl, hresult⟩ := hx
  have hexport : e.exportFile x.before x.source = (.ok o, x.after e) := Prod.ext hresult rfl
  exact exportFile_source hexport

/-- What a batch has to do with the trace of its exports: each page waits or is exported, each
result waits, is counted, or is the error. -/
structure Batch.Inv (e : Exporter) (s : Session) (paths : List Path) (b : Batch)
    (trace : List Export) (failed : List (Path × Except StoreError Outcome)) : Prop where
  made : Trace e s trace b.run.session
  pages : (trace.map Export.source ++ b.waiting).Perm paths
  results : (results e trace).Perm (b.finished ++ b.run.taken ++ failed)
  failed : match b.run.failure with
    | none => failed = []
    | some cause => ∃ source, failed = [(source, .error cause)]

namespace Batch

lemma inv_start (e : Exporter) (s : Session) (paths : List Path) :
    Inv e s paths (start e s paths) [] [] where
  made := .nil (begin_agrees e s _)
  pages := .refl _
  results := .refl _
  failed := rfl

variable {b b' : Batch} {trace : List Export} {failed : List (Path × Except StoreError Outcome)}

lemma Inv.step (h : Inv e s paths b trace failed) (hstep : Step e b b') :
    ∃ trace' failed', Inv e s paths b' trace' failed' := by
  -- an export makes the trace longer, and a result that is taken moves from one list to another
  cases hstep with
  | @«export» before after source finished run =>
      refine ⟨trace ++ [⟨run.session, source⟩], failed, ?_, ?_, ?_, h.failed⟩
      · exact h.made.append (.cons (.refl _) (.nil (.refl _)))
      · refine List.Perm.trans ?_ h.pages
        rw [List.map_append, List.append_assoc]
        change (trace.map Export.source ++ source :: (before ++ after)).Perm
          (trace.map Export.source ++ (before ++ source :: after))
        exact List.perm_middle.symm.append_left _
      · have hmoved := h.results.append_right [(source, (e.exportFile run.session source).1)]
        rw [Exporter.results, List.map_append]
        refine hmoved.trans ?_
        change (finished ++ run.taken ++ failed ++ [(source, _)]).Perm
          (finished ++ [(source, _)] ++ run.taken ++ failed)
        simp only [List.append_assoc]
        rw [← List.append_assoc run.taken failed]
        exact List.perm_append_comm.append_left _
  | @take waiting before after source result run hopen =>
      have hnone := h.failed
      rw [hopen] at hnone
      subst hnone
      have hresults := h.results
      rw [List.append_nil] at hresults
      cases result with
      | ok o =>
          have hsource : o.source = source := source_of_result
            (hresults.mem_iff.mpr (List.mem_append_left _ (by simp)))
          refine ⟨trace, [], h.made.agrees (Run.take_agrees _ _), h.pages, ?_, ?_⟩
          · have htaken : (run.take (.ok o)).taken = run.taken ++ [(source, .ok o)] := by
              simp [Run.taken, Run.take, Run.count, Report.add, hsource]
            rw [htaken, List.append_nil]
            refine hresults.trans ?_
            rw [← List.append_assoc]
            refine (List.perm_middle.append_right _).trans ?_
            exact (List.perm_append_singleton _ _).symm
          · change match run.failure with | none => _ | some _ => _
            rw [hopen]
      | error cause =>
          refine ⟨trace, [(source, .error cause)], h.made, h.pages, ?_, source, rfl⟩
          refine hresults.trans ((List.perm_middle.append_right _).trans ?_)
          exact (List.perm_append_singleton _ _).symm

/-- Every batch that is reached has to do with the trace of its exports. -/
theorem inv_of_reached (h : Reached e s paths b) :
    ∃ trace failed, Inv e s paths b trace failed := by
  induction h with
  | refl => exact ⟨[], [], inv_start e s paths⟩
  | tail _ hstep ih =>
      obtain ⟨trace, failed, hinv⟩ := ih
      exact hinv.step hstep

/-- The error of a batch is that of one of its exports. -/
lemma Inv.raised (h : Inv e s paths b trace failed) {cause : StoreError}
    (hfailure : b.run.failure = some cause) : ∃ x ∈ trace, x.result e = .error cause := by
  have hfailed := h.failed
  rw [hfailure] at hfailed
  obtain ⟨source, rfl⟩ := hfailed
  have hmem : (source, .error cause) ∈ Exporter.results e trace :=
    h.results.mem_iff.mpr (by simp)
  obtain ⟨x, hx, heq⟩ := List.mem_map.mp hmem
  exact ⟨x, hx, congrArg Prod.snd heq⟩

end Batch

/-! ### Ends -/

/-- After an error, a run in order does nothing more. -/
lemma Run.foldl_failed (e : Exporter) {r : Run} (h : r.failure.isSome) (paths : List Path) :
    paths.foldl (Run.next e false) r = r := by
  induction paths with
  | nil => rfl
  | cons p rest ih => rw [List.foldl_cons, (Run.next_failed e h p).2, ih]

/-- Pages that are exported in order make a batch, all of whose pages are exported unless there was
an error. -/
lemma Batch.inOrder_steps (e : Exporter) (paths : List Path) {r : Run} (hopen : r.failure = none) :
    ∃ rest, ReflTransGen (Step e) ⟨paths, [], r⟩ ⟨rest, [], paths.foldl (Run.next e false) r⟩ ∧
      ((paths.foldl (Run.next e false) r).failure = none → rest = []) := by
  induction paths generalizing r with
  | nil => exact ⟨[], .refl, fun _ => rfl⟩
  | cons source rest ih =>
      have hexport : Step e ⟨source :: rest, [], r⟩ ⟨rest,
          [(source, (e.exportFile r.session source).1)], r.exported e source⟩ :=
        Step.export [] rest
      have htake : Step e
          ⟨rest, [(source, (e.exportFile r.session source).1)], r.exported e source⟩
          ⟨rest, [], Run.next e false r source⟩ := by
        rw [Run.next_open e false hopen]
        exact Step.take [] [] hopen
      have hfirst := ReflTransGen.tail (.single hexport) htake
      rw [List.foldl_cons]
      cases hfailure : (Run.next e false r source).failure with
      | none =>
          obtain ⟨last, hsteps, hlast⟩ := ih hfailure
          exact ⟨last, hfirst.trans hsteps, hlast⟩
      | some cause =>
          rw [Run.foldl_failed e (by simp [hfailure]) rest]
          exact ⟨rest, hfirst, fun hnone => by simp [hfailure] at hnone⟩

/-- A run that ends is that of a batch, all of whose pages are exported and all of whose results
are taken unless there was an error. -/
lemma Ends.batch {r : Run} (h : e.Ends s paths r) :
    ∃ b, Batch.Reached e s paths b ∧ b.run = r ∧
      (r.failure = none → b.waiting = [] ∧ b.finished = []) := by
  cases h with
  | inOrder =>
      obtain ⟨rest, hsteps, hrest⟩ :=
        Batch.inOrder_steps e paths (r := e.begin s paths.length) rfl
      exact ⟨⟨rest, [], e.inOrder s paths⟩, hsteps, rfl, fun hnone => ⟨hrest hnone, rfl⟩⟩
  | anyOrder _ hreached hdone =>
      refine ⟨_, hreached, rfl, fun hnone => ⟨hdone.1, hdone.2.resolve_right ?_⟩⟩
      simp [hnone]

/-- A run without error has exported every page once, and its outcomes are those of its exports. -/
theorem Ends.trace {r : Run} (h : e.Ends s paths r) (hopen : r.failure = none) :
    ∃ trace, Trace e s trace r.session ∧ (trace.map Export.source).Perm paths ∧
      (results e trace).Perm r.taken := by
  obtain ⟨b, hreached, rfl, hend⟩ := h.batch
  obtain ⟨hwaiting, hfinished⟩ := hend hopen
  obtain ⟨trace, failed, hinv⟩ := Batch.inv_of_reached hreached
  have hpages := hinv.pages
  have hresults := hinv.results
  have hfailed := hinv.failed
  rw [hopen] at hfailed
  rw [hwaiting, List.append_nil] at hpages
  rw [hfinished, hfailed, List.nil_append, List.append_nil] at hresults
  exact ⟨trace, hinv.made, hpages, hresults⟩

/-- A run with an error has exported a page that gives it, and no page more often than it waited. -/
theorem Ends.raised {r : Run} (h : e.Ends s paths r) {cause : StoreError}
    (hfailure : r.failure = some cause) :
    ∃ trace, Trace e s trace r.session ∧ (trace.map Export.source).Subperm paths ∧
      ∃ x ∈ trace, x.result e = .error cause := by
  obtain ⟨b, hreached, rfl, -⟩ := h.batch
  obtain ⟨trace, failed, hinv⟩ := Batch.inv_of_reached hreached
  have hpages := (List.sublist_append_left (trace.map Export.source) b.waiting).subperm
  exact ⟨trace, hinv.made, hpages.trans hinv.pages.subperm, hinv.raised hfailure⟩

/-- Pages that are exported in order make a trace up to the first that gives an error. -/
theorem inOrder_trace (e : Exporter) (paths : List Path) {r : Run} (hopen : r.failure = none) :
    ∃ (trace : List Export) (rest : List Path), trace.map Export.source ++ rest = paths ∧
      Trace e r.session trace (paths.foldl (Run.next e false) r).session ∧
        ((paths.foldl (Run.next e false) r).failure = none → rest = []) ∧
          ∀ cause, (paths.foldl (Run.next e false) r).failure = some cause →
            ∃ before x, trace = before ++ [x] ∧ x.result e = .error cause ∧
              ∀ y ∈ before, ∃ o, y.result e = .ok o := by
  induction paths generalizing r with
  | nil => exact ⟨[], [], rfl, .nil (.refl _), fun _ => rfl, by simp [hopen]⟩
  | cons source rest ih =>
      rw [List.foldl_cons, Run.next_open e false hopen]
      cases hresult : (e.exportFile r.session source).1 with
      | ok o =>
          obtain ⟨trace, left, hsources, htrace, hall, hraises⟩ :=
            ih (r := (r.exported e source).take (.ok o)) hopen
          have hlogged := (Trace.nil (Run.take_agrees (r.exported e source) (.ok o))).append htrace
          refine ⟨⟨r.session, source⟩ :: trace, left, by simp [hsources],
            .cons (.refl _) hlogged, hall, fun cause hcause => ?_⟩
          obtain ⟨before, x, rfl, hx, hbefore⟩ := hraises cause hcause
          refine ⟨⟨r.session, source⟩ :: before, x, rfl, hx, fun y hy => ?_⟩
          rcases List.mem_cons.mp hy with rfl | hy
          · exact ⟨o, hresult⟩
          · exact hbefore y hy
      | error cause =>
          rw [Run.foldl_failed e (r := (r.exported e source).take (.error cause)) rfl rest]
          refine ⟨[⟨r.session, source⟩], rest, rfl, .cons (.refl _) (.nil (.refl _)),
            fun hnone => by simp [Run.take] at hnone, fun cause' hcause => ?_⟩
          refine ⟨[], _, rfl, ?_, by simp⟩
          rw [← Option.some.inj hcause]
          exact hresult

lemma prepare_changes (e : Exporter) (s : Session) : Changes [] s (e.prepare s).2 := by
  have houtput := FileStore.ensureDirectory_changes s e.outputFolder []
  rw [prepare]
  generalize FileStore.ensureDirectory s e.outputFolder = output at houtput
  obtain ⟨result, s₁⟩ := output
  cases result with
  | error cause => exact houtput
  | ok => exact houtput.trans (FileStore.ensureDirectory_changes s₁ e.imageFolder [])

/-- A report that is given is that of a trace in which every page is exported once. -/
theorem Completes.trace {r : Run} {report : Report}
    (h : e.Completes s paths r (.ok report, s')) :
    r.failure = none ∧ report = r.report.sorted ∧ s' = (e.finish r).2 ∧
      ∃ s₁ exports, e.prepare s = (.ok (), s₁) ∧ e.Ends s₁ paths r ∧ Trace e s₁ exports s' ∧
        (exports.map Export.source).Perm paths ∧
        (results e exports).Perm (report.outcomes.map fun o => (o.source, .ok o)) := by
  generalize hanswer : ((.ok report, s') : Except StoreError Report × Session) = answer at h
  cases h with
  | @intro s₁ _ hprepare hends =>
      rw [finish, Prod.mk.injEq] at hanswer
      obtain ⟨hreport, hend⟩ := hanswer
      have hopen : r.failure = none := by
        cases hfailure : r.failure with
        | none => rfl
        | some cause => simp [hfailure] at hreport
      rw [hopen] at hreport
      obtain rfl := Except.ok.inj hreport
      obtain ⟨exports, htrace, hpages, hresults⟩ := hends.trace hopen
      refine ⟨hopen, rfl, hend, s₁, exports, hprepare, hends, ?_, hpages, ?_⟩
      · exact htrace.agrees (hend ▸ e.finish_agrees r)
      · exact hresults.trans (r.report.sorted_perm.symm.map _)

/-- Where no report is given, the export of a page gave the error. -/
theorem Completes.raised {r : Run} {cause : StoreError}
    (h : e.Completes s paths r (.error cause, s')) :
    ∃ exports : List Export, (exports.map Export.source).Subperm paths ∧
      Trace e (e.prepare s).2 exports s' ∧ ∃ x ∈ exports, x.result e = .error cause := by
  generalize hanswer : ((.error cause, s') : Except StoreError Report × Session) = answer at h
  cases h with
  | @intro s₁ _ hprepare hends =>
      rw [finish, Prod.mk.injEq] at hanswer
      obtain ⟨herror, hend⟩ := hanswer
      cases hfailure : r.failure with
      | none => simp [hfailure] at herror
      | some cause' =>
          rw [hfailure] at herror
          obtain rfl := Except.error.inj herror
          obtain ⟨exports, htrace, hpages, hraised⟩ := hends.raised hfailure
          refine ⟨exports, hpages, ?_, hraised⟩
          rw [hprepare]
          exact htrace.agrees (hend ▸ e.finish_agrees r)

/-- The exports of a trace with a report give its outcomes. -/
lemma results_ok {exports : List Export} {report : Report}
    (h : (results e exports).Perm (report.outcomes.map fun o => (o.source, .ok o))) {x : Export}
    (hx : x ∈ exports) : ∃ o ∈ report.outcomes, x.result e = .ok o := by
  have hmem := h.subset (List.mem_map_of_mem hx)
  obtain ⟨o, ho, heq⟩ := List.mem_map.mp hmem
  exact ⟨o, ho, (Prod.mk.injEq _ _ _ _ ▸ heq).2.symm⟩

/-- The outcomes of a trace are those of its exports. -/
lemma results_source {exports : List Export} {report : Report}
    (h : (results e exports).Perm (report.outcomes.map fun o => (o.source, .ok o))) {o : Outcome}
    (ho : o ∈ report.outcomes) : ∃ x ∈ exports, x.result e = .ok o := by
  have hmem := h.symm.subset (List.mem_map_of_mem ho)
  obtain ⟨x, hx, heq⟩ := List.mem_map.mp hmem
  exact ⟨x, hx, (Prod.mk.injEq _ _ _ _ ▸ heq).2⟩

end Exporter

end PageNotes
