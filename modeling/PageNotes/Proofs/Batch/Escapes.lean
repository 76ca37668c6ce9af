import PageNotes.Proofs.Batch.Trace
import PageNotes.Proofs.Export.Escapes

/-!
Errors that escape from a run. A page that is not read, not converted or not written does not stop
the run over all pages; an error that escapes from the export of a page does.

* `Exporter.Run.foldl_failure_iff`: a run goes on as long as no page gives an error;
* `Exporter.run_failure_iff`: a run fails just when an error escapes from one of its pages;
* `Exporter.exports_escape`: the errors of exports and of runs, in any order.
-/

namespace PageNotes

namespace Exporter

variable {e : Exporter} {s : Session} {parallel : Bool} {r : Run} {pages paths : List Path}

/-- A run that failed does not recover. -/
lemma Run.foldl_isSome (h : r.failure.isSome) :
    (pages.foldl (Run.next e parallel) r).failure.isSome := by
  induction pages generalizing r with
  | nil => exact h
  | cons page rest ih =>
      refine ih ?_
      cases parallel with
      | false => rwa [(Run.next_failed e h page).2]
      | true => rwa [(Run.next_failed e h page).1]

/-- A run goes on without error when no page gives one. -/
lemma Run.foldl_failure_iff (hopen : r.failure = none) :
    (pages.foldl (Run.next e parallel) r).failure = none ↔
      ∀ before page after, pages = before ++ page :: after →
        ∀ cause, (e.exportFile (before.foldl (Run.next e parallel) r).session page).1
          ≠ .error cause := by
  induction pages generalizing r with
  | nil => simp [hopen]
  | cons first rest ih =>
      have hnext := Run.next_open e parallel hopen first
      rw [List.foldl_cons]
      cases hresult : (e.exportFile r.session first).1 with
      | error cause =>
          have hfailed : (Run.next e parallel r first).failure.isSome := by
            rw [hnext, hresult]
            rfl
          have hend :
              (rest.foldl (Run.next e parallel) (Run.next e parallel r first)).failure.isSome :=
            foldl_isSome hfailed
          refine iff_of_false (fun hnone => ?_) fun hall => ?_
          · rw [hnone] at hend
            simp at hend
          · exact hall [] first rest rfl cause hresult
      | ok o =>
          have hopen' : (Run.next e parallel r first).failure = none := by
            rw [hnext, hresult]
            exact hopen
          rw [ih hopen']
          constructor
          · intro hall before page after hpages cause
            cases before with
            | nil =>
                obtain ⟨rfl, -⟩ := List.cons.inj hpages
                simp [hresult]
            | cons head before =>
                obtain ⟨rfl, hrest⟩ := List.cons.inj hpages
                exact hall before page after hrest cause
          · intro hall before page after hrest cause
            exact hall (first :: before) page after (by rw [hrest]; rfl) cause

lemma Run.next_sameSetting (r : Run) (page : Path) :
    r.session.SameSetting (Run.next e parallel r page).session := by
  have hexported := (e.exportFile_changes r.session page).toSameSetting
  cases hfailure : r.failure with
  | none =>
      rw [Run.next_open e parallel hfailure]
      exact hexported.trans (Run.take_agrees (r.exported e page) _).toSameSetting
  | some cause =>
      have hfailed : r.failure.isSome := by simp [hfailure]
      cases parallel with
      | false =>
          rw [(Run.next_failed e hfailed page).2]
          exact .refl _
      | true =>
          rw [(Run.next_failed e hfailed page).1]
          exact hexported

lemma Run.foldl_sameSetting (r : Run) (pages : List Path) :
    r.session.SameSetting (pages.foldl (Run.next e parallel) r).session := by
  induction pages generalizing r with
  | nil => exact .refl _
  | cons page rest ih => exact (next_sameSetting r page).trans (ih _)

/-- A run over pages up to some of them. -/
def runUpTo (e : Exporter) (s : Session) (paths before : List Path) : Run :=
  before.foldl (Run.next e (e.isParallel paths)) (e.begin s paths.length)

lemma run_eq (e : Exporter) (s : Session) (paths : List Path) :
    e.run s paths = e.runUpTo s paths paths := rfl

lemma runUpTo_working (hworking : ∀ name ∈ s.volume.working, IsName name) (before : List Path) :
    ∀ name ∈ (e.runUpTo s paths before).session.volume.working, IsName name := by
  have hset : s.SameSetting (e.runUpTo s paths before).session :=
    (e.begin_agrees s paths.length).toSameSetting.trans (Run.foldl_sameSetting _ before)
  rw [hset.working]
  exact hworking

/-- A run fails just when an error escapes from one of its pages. -/
lemma run_failure_iff (hworking : ∀ name ∈ s.volume.working, IsName name)
    (hpaths : ∀ p ∈ paths, ∀ name ∈ p.parts, IsPlain name) :
    (e.run s paths).failure = none ↔
      ∀ before page after, paths = before ++ page :: after →
        ∀ cause, ¬e.Escapes (e.runUpTo s paths before).session page cause := by
  rw [run_eq, runUpTo, Run.foldl_failure_iff rfl]
  refine forall₃_congr fun before page after => forall_congr' fun hsplit =>
    forall_congr' fun cause => ?_
  have hpage := hpaths page (by simp [hsplit])
  have hdirectory : ∀ name ∈ (e.runUpTo s paths before).session.volume.working, IsName name :=
    runUpTo_working hworking before
  exact not_congr (exportFile_error_iff hdirectory hpage)

/-! ### Main result -/

/-- The export of a page gives an error just when one escapes, and otherwise an outcome whose status
tells how far it came. A run fails just when an error escapes from a page in the session in which
the run has come to it. In whatever order the pages are exported, the error of a run is one that
escapes from a page, and a run without error has an outcome for each page. -/
theorem exports_escape (hworking : ∀ name ∈ s.volume.working, IsName name) :
    (∀ source : Path, (∀ name ∈ source.parts, IsPlain name) →
      (∀ cause, (e.exportFile s source).1 = .error cause ↔ e.Escapes s source cause) ∧
      ∀ o s', e.exportFile s source = (.ok o, s') →
        o.source = source ∧ e.EndsWith s source o.status) ∧
    ∀ paths : List Path, (∀ p ∈ paths, ∀ name ∈ p.parts, IsPlain name) →
      ((e.run s paths).failure = none ↔
        ∀ before page after, paths = before ++ page :: after →
          ∀ cause, ¬e.Escapes (e.runUpTo s paths before).session page cause) ∧
      ∀ r, e.Ends s paths r →
        (∀ cause, r.failure = some cause →
          ∃ trace, Trace e s trace r.session ∧ (trace.map Export.source).Subperm paths ∧
            ∃ x ∈ trace, e.Escapes x.before x.source cause) ∧
        (r.failure = none →
          ∃ trace, Trace e s trace r.session ∧ (trace.map Export.source).Perm paths ∧
            (∀ x ∈ trace, ∀ cause, ¬e.Escapes x.before x.source cause) ∧
            (trace.map fun x => x.result e).Perm (r.report.outcomes.map .ok)) := by
  refine ⟨fun source hsource => ⟨fun cause => exportFile_error_iff hworking hsource,
    fun o s' h => ⟨exportFile_source h, exportFile_endsWith (congrArg Prod.fst h)⟩⟩,
    fun paths hpaths => ⟨run_failure_iff hworking hpaths, fun r hends => ?_⟩⟩
  -- every page of a trace is exported from the directory that the run started from
  have hescapes : ∀ {trace : List Export}, Trace e s trace r.session →
      (∀ x ∈ trace, x.source ∈ paths) → ∀ x ∈ trace, ∀ cause,
        x.result e = .error cause ↔ e.Escapes x.before x.source cause := by
    intro trace htrace hsources x hx cause
    have hset := htrace.sameSetting.2 x hx
    refine exportFile_error_iff ?_ (hpaths _ (hsources x hx))
    rw [hset.working]
    exact hworking
  constructor
  · intro cause hfailure
    obtain ⟨trace, htrace, hpages, x, hx, hresult⟩ := hends.raised hfailure
    have hsources : ∀ y ∈ trace, y.source ∈ paths := fun y hy =>
      hpages.subset (List.mem_map_of_mem hy)
    exact ⟨trace, htrace, hpages, x, hx, (hescapes htrace hsources x hx cause).mp hresult⟩
  · intro hopen
    obtain ⟨trace, htrace, hpages, hresults⟩ := hends.trace hopen
    have hsources : ∀ y ∈ trace, y.source ∈ paths := fun y hy =>
      hpages.subset (List.mem_map_of_mem hy)
    have hsame := hresults.map Prod.snd
    rw [results, Run.taken, List.map_map, List.map_map] at hsame
    refine ⟨trace, htrace, hpages, fun x hx cause h => ?_, hsame⟩
    have hmem := hsame.mem_iff.mp (List.mem_map_of_mem hx)
    obtain ⟨o, -, ho⟩ := List.mem_map.mp hmem
    have hresult : x.result e = .ok o := ho.symm
    rw [(hescapes htrace hsources x hx cause).mpr h] at hresult
    simp at hresult

/-- An exporter whose store has the characters of ASCII alone. -/
def plainSample : Exporter := { sample with store := { sample.store with encoding := .ascii } }

/-- A page with a letter that is not among them, and one without. -/
def accented : Session :=
  sampleSession [("p".toList, "&eacute;".toList), ("q".toList, "e".toList)]

/-- The error about the letter. -/
def accentError : StoreError := .unencodable ⟨.ascii, 121, ['é'], 128⟩

set_option maxRecDepth 100000 in
/-- The error about the letter escapes from its page, none escapes from the other one, and a run
over both pages fails. -/
theorem exports_escape_accented :
    plainSample.Escapes accented (.ofText ['p']) accentError ∧
      (∀ cause, ¬plainSample.Escapes accented (.ofText ['q']) cause) ∧
      (plainSample.run accented [.ofText ['p'], .ofText ['q']]).failure ≠ none := by
  have hp : (plainSample.exportFile accented (.ofText ['p'])).1 = .error accentError := by
    decide +kernel
  have hq : (plainSample.exportFile accented (.ofText ['q'])).1.toOption.isSome = true := by
    decide +kernel
  have hstart : (plainSample.exportFile (plainSample.runUpTo accented
      [.ofText ['p'], .ofText ['q']] []).session (.ofText ['p'])).1 = .error accentError := by
    decide +kernel
  obtain ⟨hpages, hruns⟩ := exports_escape (e := plainSample) (s := accented) (by decide)
  refine ⟨((hpages _ (Path.ofText_plain _)).1 _).mp hp, fun cause h => ?_, fun hnone => ?_⟩
  · rw [((hpages _ (Path.ofText_plain _)).1 cause).mpr h] at hq
    simp [Except.toOption] at hq
  · have hplain : ∀ p ∈ [Path.ofText ['p'], Path.ofText ['q']],
        ∀ name ∈ p.parts, IsPlain name := by
      decide
    have hfirst := (exports_escape (e := plainSample)
      (s := (plainSample.runUpTo accented [.ofText ['p'], .ofText ['q']] []).session)
      (by decide +kernel)).1
    exact (hruns _ hplain).1.mp hnone [] _ _ rfl _
      (((hfirst _ (Path.ofText_plain _)).1 _).mp hstart)

end Exporter

end PageNotes
