import Mathlib.Logic.Relation
import PageNotes.Proofs.Export.Pages

/-!
Batches: the pages of a run in any order. A page that waits may be exported at any time, and a
result may be taken at any time after, whatever came before it; once a result is an error no more
are taken. Each page is exported by itself.

* `Exporter.Batch.Step`: one page exported, or one result taken;
* `Exporter.Ends`: the runs over some pages, in order or in any order;
* `Exporter.Completes`: the same with the folders made before and the report given after;
* `Exporter.exportFiles_completes`: what the exporter does is one of these.
-/

namespace PageNotes

open Relation (ReflTransGen)

namespace Exporter

variable {e : Exporter} {s s' : Session} {paths : List Path}

/-- One more outcome in the report and in the count. -/
def Run.count (r : Run) (o : Outcome) : Run :=
  { r with
    report := r.report.add o
    tracker := (r.tracker.record o r.session).2.1
    session := (r.tracker.record o r.session).2.2 }

/-- A result is taken: an outcome counts, an error is the end. -/
def Run.take (r : Run) : Except StoreError Outcome → Run
  | .ok o => r.count o
  | .error cause => { r with failure := some cause }

/-- The run after a page was exported. -/
def Run.exported (e : Exporter) (r : Run) (source : Path) : Run :=
  { r with session := (e.exportFile r.session source).2 }

lemma Run.next_open (e : Exporter) (parallel : Bool) {r : Run} (h : r.failure = none)
    (source : Path) :
    Run.next e parallel r source
      = (r.exported e source).take (e.exportFile r.session source).1 := by
  rw [next, exported, h]
  generalize e.exportFile r.session source = exported
  obtain ⟨result, s₁⟩ := exported
  cases result with
  | error cause => rfl
  | ok o => rfl

lemma Run.next_failed (e : Exporter) {r : Run} (h : r.failure.isSome) (source : Path) :
    Run.next e true r source = r.exported e source ∧ Run.next e false r source = r := by
  rw [next, next, exported, h]
  generalize e.exportFile r.session source = exported
  obtain ⟨result, s₁⟩ := exported
  obtain ⟨cause, hcause⟩ := Option.isSome_iff_exists.mp h
  cases result with
  | error cause' => simp [hcause]
  | ok o => simp

/-- A run before its first page. -/
def begin (e : Exporter) (s : Session) (total : Nat) : Run :=
  let (tracker, s) := Tracker.enter { total } e.clock s
  ⟨.empty, tracker, s, none⟩

/-- A run over pages in order: the next waits until one is counted. -/
def inOrder (e : Exporter) (s : Session) (paths : List Path) : Run :=
  paths.foldl (Run.next e false) (e.begin s paths.length)

/-! ### Any order -/

/-- A batch that goes on: the pages that wait, the results that nobody has taken, and the run. -/
structure Batch where
  waiting : List Path
  finished : List (Path × Except StoreError Outcome)
  run : Run

namespace Batch

/-- A batch before its first page. -/
def start (e : Exporter) (s : Session) (paths : List Path) : Batch :=
  ⟨paths, [], e.begin s paths.length⟩

/-- One step of a batch. -/
inductive Step (e : Exporter) : Batch → Batch → Prop
  /-- A page is exported. -/
  | export (before after : List Path) {source : Path}
      {finished : List (Path × Except StoreError Outcome)} {run : Run} :
      Step e ⟨before ++ source :: after, finished, run⟩
        ⟨before ++ after, finished ++ [(source, (e.exportFile run.session source).1)],
          run.exported e source⟩
  /-- A result is taken. -/
  | take {waiting : List Path} (before after : List (Path × Except StoreError Outcome))
      {source : Path} {result : Except StoreError Outcome} {run : Run}
      (hopen : run.failure = none) :
      Step e ⟨waiting, before ++ (source, result) :: after, run⟩
        ⟨waiting, before ++ after, run.take result⟩

/-- Whether a batch is at its end: all pages are exported, and all results are taken unless there
was an error. -/
def IsDone (b : Batch) : Prop := b.waiting = [] ∧ (b.finished = [] ∨ b.run.failure.isSome)

/-- The batches that a batch of pages can come to. -/
def Reached (e : Exporter) (s : Session) (paths : List Path) (b : Batch) : Prop :=
  ReflTransGen (Step e) (start e s paths) b

end Batch

/-- How a run over pages can end: one after another, or in any order when they are exported at the
same time. -/
inductive Ends (e : Exporter) (s : Session) (paths : List Path) : Run → Prop
  | inOrder (h : e.isParallel paths = false) : Ends e s paths (e.inOrder s paths)
  | anyOrder (h : e.isParallel paths = true) {b : Batch} (hreached : Batch.Reached e s paths b)
      (hdone : b.IsDone) : Ends e s paths b.run

/-! ### Before and after -/

/-- The folders for notes and assets. -/
def prepare (e : Exporter) (s : Session) : Except DiskError Unit × Session :=
  match FileStore.ensureDirectory s e.outputFolder with
  | (.error cause, s) => (.error cause, s)
  | (.ok (), s) => FileStore.ensureDirectory s e.imageFolder

/-- What a run gives in the end. -/
def finish (e : Exporter) (r : Run) : Except StoreError Report × Session :=
  (match r.failure with
    | some cause => .error cause
    | none => .ok r.report.sorted, (r.tracker.exit e.clock r.session).2)

/-- The runs over pages with what they give, when the folders could be made. -/
inductive Completes (e : Exporter) (s : Session) (paths : List Path) :
    Run → Except StoreError Report × Session → Prop
  | intro {s₁ : Session} {r : Run} (hprepare : e.prepare s = (.ok (), s₁))
      (hends : e.Ends s₁ paths r) : Completes e s paths r (e.finish r)

lemma exportFiles_eq (e : Exporter) (s : Session) (paths : List Path) :
    e.exportFiles s paths =
      match e.prepare s with
      | (.error cause, s₁) => (.error (.disk cause), s₁)
      | (.ok (), s₁) => e.finish (e.run s₁ paths) := by
  rw [exportFiles, prepare]
  generalize FileStore.ensureDirectory s e.outputFolder = output
  obtain ⟨result, s₁⟩ := output
  cases result with
  | error cause => rfl
  | ok =>
      dsimp only
      generalize FileStore.ensureDirectory s₁ e.imageFolder = image
      obtain ⟨result, s₂⟩ := image
      cases result with
      | error cause => rfl
      | ok =>
          dsimp only [finish]
          cases (e.run s₂ paths).failure <;> rfl

/-! ### The exporter as a batch -/

/-- One more page of a run whose pages are exported at the same time, as steps of a batch. -/
lemma Batch.next_steps (source : Path) (rest : List Path)
    (finished : List (Path × Except StoreError Outcome)) (r : Run)
    (hfinished : finished = [] ∨ r.failure.isSome) :
    ∃ finished', ReflTransGen (Step e) ⟨source :: rest, finished, r⟩
        ⟨rest, finished', Run.next e true r source⟩ ∧
      (finished' = [] ∨ (Run.next e true r source).failure.isSome) := by
  have hexport : Step e ⟨source :: rest, finished, r⟩ ⟨rest,
      finished ++ [(source, (e.exportFile r.session source).1)], r.exported e source⟩ :=
    Step.export [] rest
  cases hfailure : r.failure with
  | some cause =>
      have hfailed : r.failure.isSome := by simp [hfailure]
      rw [(Run.next_failed e hfailed source).1]
      exact ⟨_, .single hexport, Or.inr hfailed⟩
  | none =>
      obtain rfl := hfinished.resolve_right (by simp [hfailure])
      rw [Run.next_open e true hfailure]
      refine ⟨[], .tail (.single hexport) ?_, Or.inl rfl⟩
      exact Step.take [] [] hfailure

/-- Pages that the exporter exports at the same time make a batch. -/
lemma Batch.foldl_steps (paths : List Path)
    (finished : List (Path × Except StoreError Outcome)) (r : Run)
    (hfinished : finished = [] ∨ r.failure.isSome) :
    ∃ finished', ReflTransGen (Step e) ⟨paths, finished, r⟩
        ⟨[], finished', paths.foldl (Run.next e true) r⟩ ∧
      (finished' = [] ∨ (paths.foldl (Run.next e true) r).failure.isSome) := by
  induction paths generalizing finished r with
  | nil => exact ⟨finished, .refl, hfinished⟩
  | cons source rest ih =>
      obtain ⟨finished₁, hfirst, hfinished₁⟩ := next_steps source rest finished r hfinished
      obtain ⟨finished₂, hrest, hfinished₂⟩ := ih finished₁ _ hfinished₁
      exact ⟨finished₂, hfirst.trans hrest, hfinished₂⟩

/-- The run of an exporter ends as a run over its pages can. -/
lemma run_ends (e : Exporter) (s : Session) (paths : List Path) :
    e.Ends s paths (e.run s paths) := by
  cases hparallel : e.isParallel paths with
  | false =>
      have hrun : e.run s paths = e.inOrder s paths := by
        rw [run, hparallel]
        rfl
      rw [hrun]
      exact .inOrder hparallel
  | true =>
      obtain ⟨finished, hsteps, hdone⟩ :=
        Batch.foldl_steps (e := e) paths [] (e.begin s paths.length) (Or.inl rfl)
      have hrun : e.run s paths = paths.foldl (Run.next e true) (e.begin s paths.length) := by
        rw [run, hparallel]
        rfl
      rw [hrun]
      exact .anyOrder hparallel (b := ⟨[], finished, _⟩) hsteps ⟨rfl, hdone⟩

/-- What the exporter does with pages is a run over them that is completed. -/
theorem exportFiles_completes (paths : List Path) (h : e.prepare s = (.ok (), s')) :
    e.Completes s paths (e.run s' paths) (e.exportFiles s paths) := by
  rw [exportFiles_eq, h]
  exact .intro h (run_ends e s' paths)

/-- When the folders are made and no page gives an error, what the exporter gives is the report of
its run. -/
lemma exportFiles_report (hprepare : (e.prepare s).1 = .ok ())
    (hopen : (e.run (e.prepare s).2 paths).failure = none) :
    ∃ s', e.exportFiles s paths = (.ok (e.run (e.prepare s).2 paths).report.sorted, s') ∧
      e.Completes s paths (e.run (e.prepare s).2 paths)
        (.ok (e.run (e.prepare s).2 paths).report.sorted, s') := by
  generalize hprepared : e.prepare s = prepared at hprepare hopen
  obtain ⟨result, s₁⟩ := prepared
  dsimp only at hprepare hopen ⊢
  subst hprepare
  have hcompletes := exportFiles_completes paths hprepared
  have hanswer : e.exportFiles s paths
      = (.ok (e.run s₁ paths).report.sorted,
        ((e.run s₁ paths).tracker.exit e.clock (e.run s₁ paths).session).2) := by
    rw [exportFiles_eq, hprepared]
    dsimp only
    rw [finish, hopen]
  rw [hanswer] at hcompletes
  exact ⟨_, hanswer, hcompletes⟩

end Exporter

end PageNotes
