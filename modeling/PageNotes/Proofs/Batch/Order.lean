import PageNotes.Proofs.Batch.Trace
import PageNotes.Proofs.Export.Footprint

/-!
Batches whose pages are apart. No page writes where another one writes or on the way to it, and none
reads what is written, so what a batch leaves on the disk and reports does not depend on the order
in which its pages are exported and their results are taken, as long as no page raises an error. A
run in order stops at the first page that does; other batches export the rest.

* `Exporter.Apart`: pages that are apart;
* `Exporter.Leaves`: what pages leave on a disk, one after another;
* `Exporter.Apart.trace`: every trace of such pages gives the results of the pages by themselves;
* `Exporter.batches_agree`: what batches of such pages leave and report.
-/

namespace PageNotes

open Session (Agrees ActsTo)

namespace Exporter

variable {e : Exporter} {b s s₁ s' : Session} {paths : List Path}

/-- Pages that are apart: each reads outside the folders, and what is written by one lies neither at
nor on the way to what is written by another, unless both are copies of one file. -/
structure Apart (e : Exporter) (s : Session) (paths : List Path) : Prop where
  working : ∀ name ∈ s.volume.working, IsName name
  pages : ∀ p ∈ paths, e.IsSeparate s p
  writes : (paths.flatMap (e.writes s)).Pairwise Write.Apart

instance (e : Exporter) (s : Session) (paths : List Path) : Decidable (e.Apart s paths) :=
  decidable_of_iff ((∀ name ∈ s.volume.working, IsName name) ∧ (∀ p ∈ paths, e.IsSeparate s p) ∧
      (paths.flatMap (e.writes s)).Pairwise Write.Apart)
    ⟨fun h => ⟨h.1, h.2.1, h.2.2⟩, fun h => ⟨h.working, h.pages, h.writes⟩⟩

/-- The folders are there once they are made. -/
lemma isPrepared_of_prepare (h : e.prepare s = (.ok (), s₁)) : e.IsPrepared s₁ := by
  rw [prepare] at h
  have hmade := fun s p s' (h : FileStore.ensureDirectory s p = (.ok (), s')) => by
    rw [FileStore.ensureDirectory, Prod.mk.injEq] at h
    have hdir := Volume.makeDirectory_ok h.1
    rw [← FileStore.onVolume_volume s (s.volume.makeDirectory p).2, h.2] at hdir
    exact hdir
  cases houtput : FileStore.ensureDirectory s e.outputFolder with
  | mk result s₂ =>
      rw [houtput] at h
      cases result with
      | error cause => simp at h
      | ok =>
          dsimp only at h
          have hchanges := FileStore.ensureDirectory_changes s₂ e.imageFolder []
          rw [h] at hchanges
          exact ⟨Volume.isDirectory_mono hchanges.working hchanges.keepsDirectories
            (hmade _ _ _ houtput), hmade _ _ _ h⟩

/-! ### What pages leave -/

/-- On a disk each page has left what it puts, each place is as some page has left it, and places
where no page puts anything are as before. -/
def Leaves (change : Path → Change) (b : Session) (pages : List Path) (s : Session) : Prop :=
  ∀ q, (∃ p ∈ pages, ∃ x, change p q = some x ∧ s.view q = some x) ∨
    ((∀ p ∈ pages, change p q = none) ∧ s.view q = b.view q)

/-- Pages that put the same where both put something leave the same in every order. -/
lemma Leaves.view {change : Path → Change} {pages pages' : List Path}
    (h : Leaves change b pages s) (h' : Leaves change b pages' s')
    (hpages : ∀ p, p ∈ pages ↔ p ∈ pages')
    (hagree : ∀ p ∈ pages, ∀ p' ∈ pages, ∀ q x y, change p q = some x → change p' q = some y →
      x = y) (q : Place) : s'.view q = s.view q := by
  rcases h q with ⟨p, hp, x, hx, hleft⟩ | ⟨hnone, hsame⟩
  · rcases h' q with ⟨p', hp', y, hy, hleft'⟩ | ⟨hnone', -⟩
    · rw [hleft, hleft', hagree p hp p' ((hpages p').mpr hp') q x y hx hy]
    · rw [hnone' p ((hpages p).mp hp)] at hx
      simp at hx
  · rcases h' q with ⟨p', hp', y, hy, -⟩ | ⟨-, hsame'⟩
    · rw [hnone p' ((hpages p').mpr hp')] at hy
      simp at hy
    · rw [hsame, hsame']

/-- A trace of steady pages leaves what they put, and each gives what it gives by itself. -/
lemma Trace.leaves {ws : List Write} {change : Path → Change} (hfree : Write.Free ws)
    (hsteady : ∀ p ∈ paths, e.writes b p ⊆ ws ∧ e.Steady b ws (e.writes b p)
      (fun s => e.exportFile s p) (e.exportFile b p).1 (change p))
    {trace : List Export} (h : Trace e s trace s') (hs : e.Near b ws s)
    (hpages : ∀ x ∈ trace, x.source ∈ paths) :
    Leaves change s (trace.map Export.source) s' ∧ s.SameSetting s' ∧
      ∀ x ∈ trace, x.result e = (e.exportFile b x.source).1 := by
  induction h with
  | nil h => exact ⟨fun q => Or.inr ⟨by simp, h.view q⟩, h.toSameSetting, by simp⟩
  | @cons s s' x rest h hrest ih =>
      obtain ⟨hsub, hsteadyx⟩ := hsteady _ (hpages x List.mem_cons_self)
      obtain ⟨s₁, hexport, hacts, hnear⟩ := hsteadyx.at hsub hfree (hs.agrees h)
      have hafter : x.after e = s₁ := congrArg Prod.snd hexport
      rw [hafter] at hrest ih
      have hchange := h.trans_actsTo hacts
      obtain ⟨hleaves, hset, hresults⟩ := ih hnear fun y hy => hpages y (List.mem_cons_of_mem _ hy)
      refine ⟨fun q => ?_, hchange.toSameSetting.trans hset, fun y hy => ?_⟩
      -- where the rest puts nothing, a place is as this page has left it
      · rcases hleaves q with ⟨p, hp, v, hv, hleft⟩ | ⟨hnone, hsame⟩
        · exact Or.inl ⟨p, List.mem_cons_of_mem _ hp, v, hv, hleft⟩
        · rw [hchange.view] at hsame
          cases hput : change x.source q with
          | none =>
              rw [hput, Option.none_or] at hsame
              refine Or.inr ⟨fun p hp => ?_, hsame⟩
              rcases List.mem_cons.mp hp with rfl | hp
              · exact hput
              · exact hnone p hp
          | some v =>
              rw [hput, Option.some_or] at hsame
              exact Or.inl ⟨x.source, List.mem_cons_self, v, hput, hsame⟩
      · rcases List.mem_cons.mp hy with rfl | hy
        · rw [Export.result, hexport]
        · exact hresults y hy

namespace Apart

variable (h : e.Apart b paths)
include h

/-- Files that different pages write are apart. -/
lemma between {p p' : Path} (hp : p ∈ paths) (hp' : p' ∈ paths) (hne : p ≠ p') :
    ∀ w ∈ e.writes b p, ∀ w' ∈ e.writes b p', w.Apart w' := by
  have hpages := (List.pairwise_flatMap.mp h.writes).2
  have : Std.Symm fun p p' => ∀ w ∈ e.writes b p, ∀ w' ∈ e.writes b p', w.Apart w' :=
    ⟨fun _ _ hall w hw w' hw' => (hall w' hw' w hw).symm⟩
  exact hpages.forall hp hp' hne

/-- Pages that are apart have changes that tell what any trace of them leaves. -/
lemma trace (hprepared : e.IsPrepared b) :
    ∃ change : Path → Change,
      (∀ p ∈ paths, ∀ p' ∈ paths, ∀ q x y, change p q = some x → change p' q = some y → x = y) ∧
        ∀ s trace s', b.Agrees s → Trace e s trace s' → (∀ x ∈ trace, x.source ∈ paths) →
          Leaves change b (trace.map Export.source) s' ∧ b.SameSetting s' ∧
            ∀ x ∈ trace, x.result e = (e.exportFile b x.source).1 := by
  have hfree := Write.free_of_apart h.writes
  have hsub : ∀ p ∈ paths, e.writes b p ⊆ paths.flatMap (e.writes b) :=
    fun p hp w hw => List.mem_flatMap.mpr ⟨p, hp, hw⟩
  have hsteady : ∀ p, ∃ change, p ∈ paths → e.Steady b (paths.flatMap (e.writes b))
      (e.writes b p) (fun s => e.exportFile s p) (e.exportFile b p).1 change := by
    intro p
    by_cases hp : p ∈ paths
    · obtain ⟨change, hchange⟩ :=
        exportFile_steady h.working hprepared hfree (h.pages p hp) (hsub p hp)
      exact ⟨change, fun _ => hchange⟩
    · exact ⟨fun _ => none, fun hp' => absurd hp' hp⟩
  choose change hchange using hsteady
  refine ⟨change, fun p hp p' hp' q x y hx hy => ?_, fun s trace s' hs htrace hpages => ?_⟩
  · by_cases heq : p = p'
    · subst heq
      exact Option.some.inj (hx.symm.trans hy)
    · exact (hchange p hp).puts.agree (hchange p' hp').puts (h.between hp hp' heq) hx hy
  · obtain ⟨hleaves, hset, hresults⟩ := htrace.leaves hfree
      (fun p hp => ⟨hsub p hp, hchange p hp⟩) ((Near.refl e b _).agrees hs) hpages
    refine ⟨fun q => ?_, hs.toSameSetting.trans hset, hresults⟩
    rw [← hs.view q]
    exact hleaves q

/-- Exports of the same pages leave the same in every order. -/
lemma agrees (hprepared : e.IsPrepared b) {pages : List Path} {trace trace' : List Export}
    (hsub : pages ⊆ paths) (htrace : Trace e b trace s)
    (hperm : (trace.map Export.source).Perm pages) (htrace' : Trace e b trace' s')
    (hperm' : (trace'.map Export.source).Perm pages) : s.Agrees s' := by
  obtain ⟨change, hagree, htraces⟩ := h.trace hprepared
  have hpages : ∀ {trace : List Export}, (trace.map Export.source).Perm pages →
      ∀ x ∈ trace, x.source ∈ paths :=
    fun hperm x hx => hsub (hperm.subset (List.mem_map_of_mem hx))
  obtain ⟨hleaves, hset, -⟩ := htraces b trace s (.refl b) htrace (hpages hperm)
  obtain ⟨hleaves', hset', -⟩ := htraces b trace' s' (.refl b) htrace' (hpages hperm')
  refine ⟨hset.symm.trans hset', hleaves.view hleaves'
    (fun p => (hperm.trans hperm'.symm).mem_iff) fun p hp p' hp' => ?_⟩
  exact hagree p (hsub (hperm.subset hp)) p' (hsub (hperm.subset hp'))

/-- In a trace each page gives what it gives by itself. -/
lemma result (hprepared : e.IsPrepared b) {trace : List Export} (htrace : Trace e b trace s)
    (hpages : ∀ x ∈ trace, x.source ∈ paths) {x : Export} (hx : x ∈ trace) :
    x.result e = (e.exportFile b x.source).1 := by
  obtain ⟨_, -, htraces⟩ := h.trace hprepared
  obtain ⟨-, -, hresults⟩ := htraces b trace s (.refl b) htrace hpages
  exact hresults x hx

end Apart

/-! ### Batches -/

/-- Whether the export of a page by itself gives an outcome. -/
def HasOutcome (e : Exporter) (s : Session) (source : Path) : Prop :=
  ∃ o, (e.exportFile s source).1 = .ok o

instance (e : Exporter) (s : Session) (source : Path) : Decidable (e.HasOutcome s source) :=
  match h : (e.exportFile s source).1 with
  | .ok o => isTrue ⟨o, h⟩
  | .error cause => isFalse fun ⟨o, ho⟩ => by simp [h] at ho

/-- A batch at its end has exported each page once, and if no export gave an error it has taken all
their results. -/
lemma Batch.trace_of_done {batch : Batch} (hreached : Reached e s paths batch)
    (hdone : batch.IsDone) :
    ∃ trace, Trace e s trace batch.run.session ∧ (trace.map Export.source).Perm paths ∧
      (batch.run.failure = none → (results e trace).Perm batch.run.taken) ∧
        ∀ cause, batch.run.failure = some cause → ∃ x ∈ trace, x.result e = .error cause := by
  obtain ⟨trace, failed, hinv⟩ := inv_of_reached hreached
  have hpages := hinv.pages
  have hresults := hinv.results
  have hfailed := hinv.failed
  rw [hdone.1, List.append_nil] at hpages
  refine ⟨trace, hinv.made, hpages, fun hopen => ?_, fun cause hfailure => ?_⟩
  · rw [hopen] at hfailed
    rwa [hdone.2.resolve_right (by simp [hopen]), hfailed, List.nil_append, List.append_nil]
      at hresults
  · exact hinv.raised hfailure

/-- A run in order that comes to no error is that of a batch at its end. -/
lemma inOrder_done (hopen : (e.inOrder s paths).failure = none) :
    ∃ batch, Batch.Reached e s paths batch ∧ batch.IsDone ∧ batch.run = e.inOrder s paths := by
  obtain ⟨rest, hsteps, hrest⟩ := Batch.inOrder_steps e paths (r := e.begin s paths.length) rfl
  exact ⟨⟨rest, [], e.inOrder s paths⟩, hsteps, ⟨hrest hopen, Or.inl rfl⟩, rfl⟩

namespace Apart

variable (h : e.Apart b paths)
include h

/-- A batch at its end has no error when each page by itself has an outcome. -/
lemma failure_iff (hprepared : e.IsPrepared b) {batch : Batch}
    (hreached : Batch.Reached e b paths batch) (hdone : batch.IsDone) :
    batch.run.failure = none ↔ ∀ p ∈ paths, e.HasOutcome b p := by
  obtain ⟨trace, htrace, hperm, htaken, hraised⟩ := Batch.trace_of_done hreached hdone
  have hpages : ∀ x ∈ trace, x.source ∈ paths :=
    fun x hx => hperm.subset (List.mem_map_of_mem hx)
  constructor
  · intro hopen p hp
    obtain ⟨x, hx, rfl⟩ := List.mem_map.mp (hperm.mem_iff.mpr hp)
    have hmem := (htaken hopen).subset (List.mem_map_of_mem hx)
    obtain ⟨o, -, ho⟩ := List.mem_map.mp hmem
    exact ⟨o, (h.result hprepared htrace hpages hx).symm.trans (congrArg Prod.snd ho).symm⟩
  · intro hall
    cases hfailure : batch.run.failure with
    | none => rfl
    | some cause =>
        obtain ⟨x, hx, hresult⟩ := hraised cause hfailure
        obtain ⟨o, ho⟩ := hall x.source (hpages x hx)
        rw [h.result hprepared htrace hpages hx, ho] at hresult
        simp at hresult

/-- The outcomes that a batch has taken at its end are those of its pages by themselves. -/
lemma outcomes (hprepared : e.IsPrepared b) {batch : Batch}
    (hreached : Batch.Reached e b paths batch) (hdone : batch.IsDone)
    (hopen : batch.run.failure = none) :
    (batch.run.report.outcomes.map fun o => (.ok o : Except StoreError Outcome)).Perm
      (paths.map fun p => (e.exportFile b p).1) := by
  obtain ⟨trace, htrace, hperm, htaken, -⟩ := Batch.trace_of_done hreached hdone
  have hresults := (htaken hopen).symm.map Prod.snd
  have hpages : ∀ x ∈ trace, x.source ∈ paths :=
    fun x hx => hperm.subset (List.mem_map_of_mem hx)
  rw [results, List.map_map, Run.taken, List.map_map] at hresults
  refine hresults.trans (.trans ?_ (hperm.map fun p => (e.exportFile b p).1))
  rw [List.map_map]
  refine .of_eq (List.map_congr_left fun x hx => ?_)
  exact h.result hprepared htrace hpages hx

/-- Batches that have no error report the same. -/
lemma sorted_eq (hprepared : e.IsPrepared b) {batch batch' : Batch}
    (hreached : Batch.Reached e b paths batch) (hdone : batch.IsDone)
    (hreached' : Batch.Reached e b paths batch') (hdone' : batch'.IsDone)
    (hopen : batch.run.failure = none) (hopen' : batch'.run.failure = none) :
    batch.run.report.sorted = batch'.run.report.sorted := by
  have houtcomes := h.outcomes hprepared hreached hdone hopen
  have hperm := houtcomes.trans (h.outcomes hprepared hreached' hdone' hopen').symm
  have hexport : ∀ o ∈ batch.run.report.outcomes,
      o.source ∈ paths ∧ (e.exportFile b o.source).1 = .ok o := by
    intro o ho
    obtain ⟨p, hp, hresult⟩ := List.mem_map.mp (houtcomes.subset (List.mem_map_of_mem ho))
    have hsource : o.source = p := exportFile_source (Prod.ext hresult (Eq.refl _))
    exact hsource ▸ ⟨hp, hresult⟩
  refine Report.sorted_eq_of_perm ?_ fun o ho o' ho' htext => ?_
  · have hfiltered := hperm.filterMap Except.toOption
    rw [List.filterMap_map, List.filterMap_map] at hfiltered
    simpa [Function.comp_def, Except.toOption] using hfiltered
  · obtain ⟨hp, hresult⟩ := hexport o ho
    obtain ⟨hp', hresult'⟩ := hexport o' ho'
    have hsource := Path.ofText_toText_inj (h.pages _ hp).plain (h.pages _ hp').plain htext
    rw [hsource, hresult'] at hresult
    exact (Except.ok.inj hresult).symm

/-- A run in order that comes to an error has stopped at the first page that has no outcome. -/
lemma inOrder_raised (hprepared : e.IsPrepared b) {cause : StoreError}
    (hfailure : (e.inOrder b paths).failure = some cause) :
    ∃ before page after, paths = before ++ page :: after ∧ (∀ p ∈ before, e.HasOutcome b p) ∧
      (e.exportFile b page).1 = .error cause ∧
        ∃ trace, Trace e b trace (e.inOrder b paths).session ∧
          trace.map Export.source = before ++ [page] := by
  obtain ⟨trace, rest, hsources, htrace, -, hlast⟩ :=
    inOrder_trace e paths (r := e.begin b paths.length) rfl
  have hbegin := (Trace.nil (begin_agrees e b paths.length)).append htrace
  obtain ⟨before, x, rfl, hx, hbefore⟩ := hlast cause hfailure
  have hresult := fun y hy => h.result hprepared hbegin (x := y) (fun x hx => by
    rw [← hsources]
    exact List.mem_append_left _ (List.mem_map_of_mem hx)) hy
  refine ⟨before.map Export.source, x.source, rest, ?_, fun p hp => ?_, ?_, _, hbegin, by simp⟩
  · rw [← hsources]
    simp
  · obtain ⟨y, hy, rfl⟩ := List.mem_map.mp hp
    obtain ⟨o, ho⟩ := hbefore y hy
    exact ⟨o, (hresult y (by simp [hy])).symm.trans ho⟩
  · exact (hresult x (by simp)).symm.trans hx

/-- A run in order has no error when each page by itself has an outcome. -/
lemma inOrder_failure_iff (hprepared : e.IsPrepared b) :
    (e.inOrder b paths).failure = none ↔ ∀ p ∈ paths, e.HasOutcome b p := by
  constructor
  · intro hopen
    obtain ⟨batch, hreached, hdone, hrun⟩ := inOrder_done hopen
    rwa [← hrun, h.failure_iff hprepared hreached hdone] at hopen
  · intro hall
    cases hfailure : (e.inOrder b paths).failure with
    | none => rfl
    | some cause =>
        obtain ⟨before, page, after, hpaths, -, hpage, -⟩ := h.inOrder_raised hprepared hfailure
        obtain ⟨o, ho⟩ := hall page (by simp [hpaths])
        rw [hpage] at ho
        simp at ho

end Apart

/-- Batches of pages that are apart leave the same files, and they end without error when each page
by itself has an outcome. Then all report the same, which is what the exporter reports and what a
run in order does. Where a page has no outcome, a run in order stops at the first such page, and
leaves what batches of the pages up to it leave. -/
theorem batches_agree (hprepare : e.prepare s = (.ok (), s₁)) (hapart : e.Apart s₁ paths) :
    (∀ b b', Batch.Reached e s₁ paths b → b.IsDone → Batch.Reached e s₁ paths b' → b'.IsDone →
      b.run.session.Agrees b'.run.session) ∧
    (∀ b, Batch.Reached e s₁ paths b → b.IsDone →
      (b.run.failure = none ↔ ∀ p ∈ paths, e.HasOutcome s₁ p)) ∧
    ((∀ p ∈ paths, e.HasOutcome s₁ p) →
      (∀ b, Batch.Reached e s₁ paths b → b.IsDone →
        (e.finish b.run).1 = .ok (e.inOrder s₁ paths).report.sorted ∧
          (e.finish (e.inOrder s₁ paths)).2.Agrees (e.finish b.run).2) ∧
      (e.finish (e.inOrder s₁ paths)).1 = .ok (e.inOrder s₁ paths).report.sorted ∧
      (e.exportFiles s paths).1 = .ok (e.inOrder s₁ paths).report.sorted ∧
      (e.finish (e.inOrder s₁ paths)).2.Agrees (e.exportFiles s paths).2) ∧
    ((∃ p ∈ paths, ¬e.HasOutcome s₁ p) →
      ∃ before page after cause, paths = before ++ page :: after ∧
        (∀ p ∈ before, e.HasOutcome s₁ p) ∧ (e.exportFile s₁ page).1 = .error cause ∧
        (e.finish (e.inOrder s₁ paths)).1 = .error cause ∧
        ∀ b, Batch.Reached e s₁ (before ++ [page]) b → b.IsDone →
          (e.inOrder s₁ paths).session.Agrees b.run.session) := by
  have hprepared := isPrepared_of_prepare hprepare
  have hagrees : ∀ b b', Batch.Reached e s₁ paths b → b.IsDone → Batch.Reached e s₁ paths b' →
      b'.IsDone → b.run.session.Agrees b'.run.session := by
    intro b b' hreached hdone hreached' hdone'
    obtain ⟨trace, htrace, hperm, -⟩ := Batch.trace_of_done hreached hdone
    obtain ⟨trace', htrace', hperm', -⟩ := Batch.trace_of_done hreached' hdone'
    exact hapart.agrees hprepared (List.Subset.refl _) htrace hperm htrace' hperm'
  refine ⟨hagrees, fun b => hapart.failure_iff hprepared, fun hall => ?_, fun hraises => ?_⟩
  · have hinOrder := (hapart.inOrder_failure_iff hprepared).mpr hall
    obtain ⟨batch, hreached, hdone, hrun⟩ := inOrder_done hinOrder
    have hanswer : ∀ b, Batch.Reached e s₁ paths b → b.IsDone →
        (e.finish b.run).1 = .ok (e.inOrder s₁ paths).report.sorted ∧
          (e.finish (e.inOrder s₁ paths)).2.Agrees (e.finish b.run).2 := by
      intro b hreached' hdone'
      have hopen := (hapart.failure_iff hprepared hreached' hdone').mpr hall
      rw [← hrun]
      refine ⟨?_, ?_⟩
      · rw [finish, hopen]
        exact congrArg Except.ok (hapart.sorted_eq hprepared hreached' hdone' hreached hdone hopen
          (hrun ▸ hinOrder))
      · exact (e.finish_agrees _).symm.trans
          ((hagrees _ _ hreached hdone hreached' hdone').trans (e.finish_agrees _))
    have hsequential := hanswer batch hreached hdone
    rw [hrun] at hsequential
    rw [exportFiles_eq, hprepare]
    dsimp only
    refine ⟨hanswer, hsequential.1, ?_⟩
    have hends := e.run_ends s₁ paths
    generalize e.run s₁ paths = r at hends
    cases hends with
    | inOrder => exact hsequential
    | anyOrder _ hreached' hdone' => exact hanswer _ hreached' hdone'
  · have hfailed : (e.inOrder s₁ paths).failure ≠ none := fun hnone => by
      obtain ⟨p, hp, hno⟩ := hraises
      exact hno ((hapart.inOrder_failure_iff hprepared).mp hnone p hp)
    obtain ⟨cause, hfailure⟩ := Option.ne_none_iff_exists'.mp hfailed
    obtain ⟨before, page, after, hpaths, hbefore, hpage, trace, htrace, hsources⟩ :=
      hapart.inOrder_raised hprepared hfailure
    refine ⟨before, page, after, cause, hpaths, hbefore, hpage, by rw [finish, hfailure],
      fun b hreached hdone => ?_⟩
    obtain ⟨trace', htrace', hperm', -⟩ := Batch.trace_of_done hreached hdone
    have hsub : before ++ [page] ⊆ paths := by
      rw [hpaths]
      exact List.append_subset.mpr ⟨List.subset_append_left _ _, by simp⟩
    exact hapart.agrees hprepared hsub htrace (.of_eq hsources) htrace' hperm'

/-- Two pages that show one image, and the image. -/
def sharedImage : Session :=
  sampleSession [("p".toList, "<img src=i>".toList), ("q".toList, "<img src=i>".toList),
    ("i".toList, "1".toList)]

set_option maxRecDepth 100000 in
/-- Two pages that show one image are apart, and so the exporter reports them as a run in order
does. -/
theorem batches_agree_sharedImage :
    sample.Apart (sample.prepare sharedImage).2 [.ofText ['p'], .ofText ['q']] ∧
      (sample.exportFiles sharedImage [.ofText ['p'], .ofText ['q']]).1
        = .ok (sample.inOrder (sample.prepare sharedImage).2
            [.ofText ['p'], .ofText ['q']]).report.sorted := by
  have hprepare : (sample.prepare sharedImage).1 = .ok () := by decide +kernel
  have hapart : sample.Apart (sample.prepare sharedImage).2 [.ofText ['p'], .ofText ['q']] := by
    decide +kernel
  have hall : ∀ p ∈ [Path.ofText ['p'], Path.ofText ['q']],
      sample.HasOutcome (sample.prepare sharedImage).2 p := by decide +kernel
  obtain ⟨-, -, hanswer, -⟩ := batches_agree (Prod.ext hprepare rfl) hapart
  exact ⟨hapart, (hanswer hall).2.2.1⟩

end Exporter

end PageNotes
