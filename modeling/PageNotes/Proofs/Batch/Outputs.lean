import PageNotes.Proofs.Batch.Trace
import PageNotes.Proofs.Export.Outputs
import PageNotes.Proofs.Report.Sorted

/-!
The notes of a batch. A note that was written stays as it is until another file is put in its place,
so after a batch each place has what was put there last. Two pages put their notes in one place
just when they have one slot, and then the note that was written first is lost.

* `Exporter.Export.puts`: the places where an export puts files;
* `Exporter.Trace.read`: a file that no export of a trace puts is as it was;
* `Exporter.completes_outputs`: what the notes of a batch hold in the end.
-/

namespace PageNotes

open Session (Agrees Changes SameSetting)

namespace Exporter

variable {e : Exporter} {s s' : Session} {paths : List Path} {r : Run}

/-! ### What exports put -/

/-- The places that the assets of a page are copied to. -/
def Export.copies (e : Exporter) (x : Export) : List Place :=
  match e.conversion x.before x.source with
  | none => []
  | some c => c.assets.map fun a => x.before.volume.placeOf (e.assetTarget a)

/-- The place of the note of a page. -/
def Export.output (e : Exporter) (x : Export) : Path :=
  e.outputPath x.before.workingPath x.source

/-- Whether a page is exported. -/
def Export.succeeds (e : Exporter) (x : Export) : Bool :=
  match x.result e with
  | .ok o => o.succeeded
  | .error _ => false

/-- Whether a page has its own note in its place: the text of its conversion, encoded. -/
def Export.HasNote (e : Exporter) (x : Export) (s : Session) : Prop :=
  ∃ c bytes, e.conversion x.before x.source = some c ∧
    e.store.encoding.encode c.note.text = .ok bytes ∧ s.volume.read (x.output e) = .ok bytes

/-- The places where an export that has an outcome puts files. -/
def Export.puts (e : Exporter) (x : Export) : List Place :=
  x.copies e ++ if x.succeeds e then [x.before.volume.placeOf (x.output e)] else []

variable {x : Export} {o : Outcome}

lemma Export.succeeds_iff : x.succeeds e = true ↔ ∃ o, x.result e = .ok o ∧ o.succeeded = true := by
  rw [succeeds]
  cases x.result e with
  | error cause => simp
  | ok o => simp

/-- An export that has an outcome puts no other files. -/
lemma Export.changes (h : x.result e = .ok o) : Changes (x.puts e) x.before (x.after e) := by
  have hexport : e.exportFile x.before x.source = (.ok o, x.after e) := Prod.ext h rfl
  by_cases hstatus : o.status = .success
  · have hsucceeds : x.succeeds e = true :=
      succeeds_iff.mpr ⟨o, h, by simp [Outcome.succeeded, hstatus]⟩
    obtain ⟨c, -, -, -, -, -, hconv, -⟩ := exportFile_success hexport hstatus
    obtain ⟨-, -, -, hc, -⟩ := conversion_eq_some hconv
    have hchanges := e.exportFile_changes x.before x.source
    rw [writtenPlaces, hconv] at hchanges
    rw [puts, copies, hconv, hsucceeds, if_pos rfl]
    dsimp only at hchanges ⊢
    rwa [deliveryPlaces, hc] at hchanges
  · have hnot : x.succeeds e = false := by
      rw [succeeds, h]
      simpa [Outcome.succeeded] using hstatus
    have hchanges := exportFile_unwritten hexport hstatus
    rw [puts, hnot, if_neg (by simp), List.append_nil]
    exact hchanges

/-- A page that is exported has its own note right after, if no log is written there. -/
lemma Export.hasNote_after (h : x.succeeds e = true)
    (hlog : x.before.volume.placeOf (x.output e) ∉ x.before.logFiles) :
    x.HasNote e (x.after e) := by
  obtain ⟨o, hresult, hsucceeded⟩ := succeeds_iff.mp h
  have hexport : e.exportFile x.before x.source = (.ok o, x.after e) := Prod.ext hresult rfl
  obtain ⟨c, copied, failures, s₀, s₁, s₂, hconv, hlogged, hcopy, hwrite, hend, -⟩ :=
    exportFile_success hexport (by simpa [Outcome.succeeded] using hsucceeded)
  obtain ⟨bytes, hencode, hread⟩ := FileStore.writeOutput_written hwrite
  have hcopies := e.copyAssets_changes s₀ c.assets
  rw [hcopy] at hcopies
  have hwrites := FileStore.writeOutput_changes e.store s₁ (x.output e) c.note.text
  rw [Export.output, hwrite] at hwrites
  have hset := (hlogged.toSameSetting.trans hcopies.toSameSetting).trans hwrites.toSameSetting
  refine ⟨c, bytes, hconv, hencode, (hend.changes []).read (by simp) ?_ hread⟩
  rw [Volume.placeOf_eq hset.working, hset.logFiles]
  exact hlog

/-- A file that no export of a trace puts is as it was. -/
lemma Trace.read {l : List Export} (h : Trace e s l s') (hok : ∀ x ∈ l, ∃ o, x.result e = .ok o)
    {p : Path} (hlog : s.volume.placeOf p ∉ s.logFiles)
    (hputs : ∀ x ∈ l, s.volume.placeOf p ∉ x.puts e) {bytes : Bytes}
    (hread : s.volume.read p = .ok bytes) : s'.volume.read p = .ok bytes := by
  induction h with
  | nil h => exact (h.changes []).read (by simp) hlog hread
  | @cons s s' x rest h hrest ih =>
      obtain ⟨o, hresult⟩ := hok x List.mem_cons_self
      have hchanges := (h.changes []).trans (Export.changes hresult)
      have hplace := Volume.placeOf_eq hchanges.working p
      refine ih (fun y hy => hok y (List.mem_cons_of_mem _ hy)) ?_ ?_ ?_
      · rwa [hplace, hchanges.logFiles]
      · exact fun y hy => hplace ▸ hputs y (List.mem_cons_of_mem _ hy)
      · exact hchanges.read (hputs x List.mem_cons_self) hlog hread

/-- After a trace, a page that is exported has its own note unless a later one puts a file in its
place. -/
lemma Trace.hasNote {before after : List Export} (h : Trace e s (before ++ x :: after) s')
    (hok : ∀ y ∈ after, ∃ o, y.result e = .ok o) (hx : x.succeeds e = true)
    (hlog : s.volume.placeOf (x.output e) ∉ s.logFiles)
    (hputs : ∀ y ∈ after, s.volume.placeOf (x.output e) ∉ y.puts e) : x.HasNote e s' := by
  have hset := h.sameSetting.2 x (by simp)
  obtain ⟨s₁, -, hrest⟩ := h.split
  cases hrest with
  | cons _ hafter =>
      have hlogx : x.before.volume.placeOf (x.output e) ∉ x.before.logFiles := by
        rwa [Volume.placeOf_eq hset.working, hset.logFiles]
      obtain ⟨c, bytes, hconv, hencode, hread⟩ := Export.hasNote_after hx hlogx
      have hsetAfter := hset.trans (e.exportFile_changes x.before x.source).toSameSetting
      have hplace : (x.after e).volume.placeOf (x.output e) = s.volume.placeOf (x.output e) :=
        Volume.placeOf_eq hsetAfter.working _
      refine ⟨c, bytes, hconv, hencode, hafter.read hok ?_ ?_ hread⟩
      · rw [hplace]
        exact hsetAfter.logFiles ▸ hlog
      · rwa [hplace]

/-! ### The notes of a batch -/

/-- The output of a page that is exported. -/
lemma Export.output_of_success (hset : SameSetting s x.before) (hresult : x.result e = .ok o)
    (hsucceeded : o.succeeded = true) :
    o.output = some (e.outputPath s.workingPath o.source) := by
  have hexport : e.exportFile x.before x.source = (.ok o, x.after e) := Prod.ext hresult rfl
  obtain ⟨-, -, -, -, -, -, -, -, -, -, -, houtput, -⟩ :=
    exportFile_success hexport (by simpa [Outcome.succeeded] using hsucceeded)
  rw [houtput, workingPath_eq hset, exportFile_source hexport]

/-- In the report of a batch the outputs of two exported pages are one when the pages have one slot.
Where no two exported pages have one slot and no asset is copied to the place of a note, each page
that is exported has its own note in the end; and whatever the pages are, one has it unless a later
one puts a file in its place. -/
theorem completes_outputs {report : Report}
    (hworking : ∀ name ∈ s.volume.working, IsName name)
    (hpaths : ∀ p ∈ paths, ∀ name ∈ p.parts, IsPlain name)
    (h : e.Completes s paths r (.ok report, s')) :
    (report.outcomes.Pairwise (fun a b => a.succeeded → b.succeeded → a.output ≠ b.output) ↔
      report.outcomes.Pairwise fun a b => a.succeeded → b.succeeded →
        e.slot s.workingPath a.source ≠ e.slot s.workingPath b.source) ∧
    ∃ exports : List Export, (exports.map Export.source).Perm paths ∧
      (exports.map fun x => x.result e).Perm (report.outcomes.map .ok) ∧
      (exports.Pairwise (fun x y => x.succeeds e → y.succeeds e →
          e.slot s.workingPath x.source ≠ e.slot s.workingPath y.source) →
        (∀ x ∈ exports, x.succeeds e → ∀ y ∈ exports,
          s.volume.placeOf (x.output e) ∉ y.copies e) →
        ∀ x ∈ exports, x.succeeds e → s.volume.placeOf (x.output e) ∉ s.logFiles →
          x.HasNote e s') ∧
      ∀ before x after, exports = before ++ x :: after → x.succeeds e →
        s.volume.placeOf (x.output e) ∉ s.logFiles →
          (∀ y ∈ after, s.volume.placeOf (x.output e) ∉ y.puts e) → x.HasNote e s' := by
  obtain ⟨-, -, -, s₁, exports, hprepare, -, htrace, hpages, hresults⟩ := h.trace
  have hprepared := e.prepare_changes s
  rw [hprepare] at hprepared
  have hset := hprepared.toSameSetting
  have hplace := fun p => Volume.placeOf_eq hset.working p
  have hsets := fun x hx => hset.trans (htrace.sameSetting.2 x hx)
  have hplain : ∀ x ∈ exports, ∀ name ∈ x.source.parts, IsPlain name := fun x hx =>
    hpaths _ (hpages.subset (List.mem_map_of_mem hx))
  -- the last clause, from which the one before it follows
  have hholds : ∀ before x after, exports = before ++ x :: after → x.succeeds e →
      s.volume.placeOf (x.output e) ∉ s.logFiles →
        (∀ y ∈ after, s.volume.placeOf (x.output e) ∉ y.puts e) → x.HasNote e s' := by
    rintro before x after rfl hx hlog hputs
    refine htrace.hasNote (fun y hy => ?_) hx (by rwa [hplace, hset.logFiles]) (by rwa [hplace])
    obtain ⟨o, -, ho⟩ := results_ok hresults (x := y) (by simp [hy])
    exact ⟨o, ho⟩
  refine ⟨?_, exports, hpages, ?_, ?_, hholds⟩
  · refine List.Pairwise.iff_of_mem fun {a b} ha hb => ?_
    obtain ⟨x, hx, hxa⟩ := results_source hresults ha
    obtain ⟨y, hy, hyb⟩ := results_source hresults hb
    constructor
    · intro hne hsa hsb hslot
      refine hne hsa hsb ?_
      rw [Export.output_of_success (hsets x hx) hxa hsa,
        Export.output_of_success (hsets y hy) hyb hsb, outputPath_eq_iff.mpr hslot]
    · intro hne hsa hsb houtput
      rw [Export.output_of_success (hsets x hx) hxa hsa,
        Export.output_of_success (hsets y hy) hyb hsb] at houtput
      exact hne hsa hsb (outputPath_eq_iff.mp (Option.some.inj houtput))
  · have hsame := hresults.map Prod.snd
    rw [results, List.map_map, List.map_map] at hsame
    exact hsame
  · intro hslots hcopies x hx hxs hlog
    obtain ⟨before, after, rfl⟩ := List.append_of_mem hx
    refine hholds before x after rfl hxs hlog fun y hy hmem => ?_
    have hy' : y ∈ before ++ x :: after := by simp [hy]
    rw [Export.puts, List.mem_append] at hmem
    rcases hmem with hmem | hmem
    · exact hcopies x hx hxs y hy' hmem
    · split_ifs at hmem with hys
      · rw [List.mem_singleton, Volume.placeOf_eq (hsets y hy').working, Export.output,
          Export.output, workingPath_eq (hsets x hx), workingPath_eq (hsets y hy')] at hmem
        have hpair := (List.pairwise_append.mp hslots).2.1
        exact List.rel_of_pairwise_cons hpair hy hxs hys
          (slot_eq_of_place hworking (hplain x hx) (hplain y hy') hmem)
      · simp at hmem

/-- Two pages whose names differ in the case of letters. -/
def twoCases : Session :=
  sampleSession [("A.html".toList, "x".toList), ("a.html".toList, "y".toList)]

set_option maxRecDepth 100000 in
/-- Both pages are exported, and they have one output. -/
theorem completes_outputs_twoCases :
    ∃ report s', sample.exportFiles twoCases [.ofText "A.html".toList, .ofText "a.html".toList]
        = (.ok report, s') ∧ report.succeeded = 2 ∧
      ¬report.outcomes.Pairwise fun a b => a.succeeded → b.succeeded → a.output ≠ b.output := by
  have hprepare : (sample.prepare twoCases).1 = .ok () := by decide +kernel
  obtain ⟨hopen, hslots, hsucceeded⟩ : (sample.run (sample.prepare twoCases).2
      [.ofText "A.html".toList, .ofText "a.html".toList]).failure = none ∧
    (sample.run (sample.prepare twoCases).2
      [.ofText "A.html".toList, .ofText "a.html".toList]).report.outcomes.map
        (fun o => (o.succeeded, sample.slot twoCases.workingPath o.source))
          = [(true, ([], "a".toList)), (true, ([], "a".toList))] ∧
    (sample.run (sample.prepare twoCases).2
      [.ofText "A.html".toList, .ofText "a.html".toList]).report.succeeded = 2 := by
    decide +kernel
  obtain ⟨s', hanswer, hcompletes⟩ := exportFiles_report hprepare hopen
  have hperm := (sample.run (sample.prepare twoCases).2
    [.ofText "A.html".toList, .ofText "a.html".toList]).report.sorted_perm
  refine ⟨_, s', hanswer, (Report.succeeded_perm hperm).trans hsucceeded, ?_⟩
  rw [(completes_outputs (by decide) (by decide) hcompletes).1]
  intro hpairs
  have hpairs := (hperm.map fun o =>
    (o.succeeded, sample.slot twoCases.workingPath o.source)).pairwise
      (R := fun a b => a.1 → b.1 → a.2 ≠ b.2) (List.pairwise_map.mpr hpairs)
      (fun hne hb ha heq => hne ha hb heq.symm)
  rw [hslots] at hpairs
  simp at hpairs

end Exporter

end PageNotes
