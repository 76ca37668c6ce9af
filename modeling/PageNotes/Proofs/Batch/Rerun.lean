import PageNotes.Proofs.Batch.Order
import PageNotes.Proofs.Export.Again
import PageNotes.Proofs.Export.Discovery
import PageNotes.Proofs.Reference.Candidates
import PageNotes.Proofs.Report.Progress

/-!
Running an export again. Pages that are exported one after another can be exported so once more, as
long as they and the files that they refer to lie outside the folders that are written to: the same
pages are found, each is converted as before, and every copy and every note is put where it is or
fails where it failed, no matter which pages write in one place.

* `Exporter.counted`: a run in order as an operation on sessions;
* `Exporter.counted_repeats`: it does the same again;
* `Exporter.IsParted`: what is read and what is written lie apart;
* `Exporter.exportAll_again`: a second run reports the same and leaves the disk as it is.
-/

namespace PageNotes

open Session (SameSetting Agrees Changes)

namespace Exporter

variable {e : Exporter} {b s s₁ s' u : Session} {paths : List Path} {source p : Path}

/-! ### Runs as operations -/

/-- What a run has counted: the report, the tracker, and the error that ended it. -/
abbrev Counts := Report × Tracker × Option StoreError

/-- A run over pages in order, from what is counted before. -/
def counted (e : Exporter) (paths : List Path) (counts : Counts) (s : Session) : Counts × Session :=
  let r := paths.foldl (Run.next e false) ⟨counts.1, counts.2.1, s, counts.2.2⟩
  ((r.report, r.tracker, r.failure), r.session)

/-- The counts after a page. -/
def countsAfter (report : Report) (tracker : Tracker) : Except StoreError Outcome → Counts
  | .error cause => (report, tracker, some cause)
  | .ok o => (report.add o, tracker.count o, none)

/-- One page of a run does the same again. -/
lemma countedOne_repeats (hb : e.Later b s) (hworking : ∀ name ∈ b.volume.working, IsName name)
    (hprepared : e.IsPrepared b) (hpage : e.IsSeparate b p) (counts : Counts) :
    e.Repeats (e.counted [p] counts) s := by
  obtain ⟨report, tracker, failure⟩ := counts
  cases failure with
  | some cause =>
      refine (Repeats.pure e (report, tracker, some cause) s).congr fun u _ => ?_
      rw [counted, List.foldl_cons, List.foldl_nil, (Run.next_failed e rfl p).2]
      exact ⟨rfl, .refl u⟩
  | none =>
      refine ((exportFile_repeats hb hworking hprepared hpage).map
        (countsAfter report tracker)).congr fun u _ => ?_
      rw [counted, List.foldl_cons, List.foldl_nil, Run.next_open e false rfl, Run.exported]
      generalize e.exportFile u p = exported
      obtain ⟨result, u₁⟩ := exported
      cases result with
      | error cause => exact ⟨rfl, .refl u₁⟩
      | ok o =>
          refine ⟨?_, Tracker.record_agrees _ _ _⟩
          rw [countsAfter, ← Tracker.record_tracker tracker o u₁]
          rfl

/-- A run in order does the same again. -/
theorem counted_repeats (hb : e.Later b s) (hworking : ∀ name ∈ b.volume.working, IsName name)
    (hprepared : e.IsPrepared b) (hpages : ∀ p ∈ paths, e.IsSeparate b p) (counts : Counts) :
    e.Repeats (e.counted paths counts) s := by
  induction paths generalizing s counts with
  | nil => exact .pure e counts s
  | cons p rest ih =>
      have hfirst := countedOne_repeats hb hworking hprepared (hpages p List.mem_cons_self) counts
      exact hfirst.bind (g := e.counted rest) (ih (hb.trans hfirst.later)
        (fun q hq => hpages q (List.mem_cons_of_mem _ hq)) _)

/-! ### What is read and what is written -/

/-- The files that a page writes lie at the places that it is delivered to. -/
lemma mem_writtenPlaces {w : Write} (h : w ∈ e.writes s source) :
    w.place ∈ e.writtenPlaces s source := by
  rw [writes] at h
  rw [writtenPlaces]
  cases hconv : e.conversion s source with
  | none =>
      rw [hconv] at h
      cases h
  | some c =>
      rw [hconv] at h
      dsimp only at h ⊢
      rw [deliveryPlaces, List.mem_append, List.mem_singleton]
      rcases List.mem_append.mp h with hcopy | hnote
      · obtain ⟨a, ha, rfl⟩ := List.mem_map.mp hcopy
        exact Or.inl (List.mem_map_of_mem ha)
      · refine Or.inr ?_
        rw [List.mem_singleton.mp hnote, noteOf]

lemma Contains.sameSetting {q : Place} (h : e.Contains s' q) (hset : SameSetting s s') :
    e.Contains s q := by
  cases h with
  | asset hname =>
      rw [Volume.placeOf_eq hset.working]
      exact .asset hname
  | note hdirectory hname =>
      rw [Volume.placeOf_eq hset.working]
      exact .note hdirectory hname

/-- The files that a page refers to, whether or not they are there. -/
def referenced (e : Exporter) (s : Session) (source : Path) : List Path :=
  match e.store.load s.volume source.toText with
  | .error _ => []
  | .ok html =>
    ((e.rewriting s source).candidates (e.pageDocument html)).map (e.rewriting s source).target

/-- Whether one of two places lies in the other, or both are one. -/
def Overlap (p q : Place) : Prop := p <+: q ∨ q <+: p

instance (p q : Place) : Decidable (Overlap p q) := inferInstanceAs (Decidable (_ ∨ _))

/-- What is read and what is written lie apart, on a disk whose entries have proper names and lie in
directories: the folders of notes and of assets overlap neither with the input folder nor with what
a page refers to, and a log is neither read nor written as a page, an asset or a note. -/
structure IsParted (e : Exporter) (s : Session) : Prop where
  named : s.volume.IsNamed
  rooted : s.volume.disk.IsRooted
  output : ¬Overlap (s.volume.placeOf e.inputFolder) (s.volume.placeOf e.outputFolder)
  image : ¬Overlap (s.volume.placeOf e.inputFolder) (s.volume.placeOf e.imageFolder)
  references : ∀ p ∈ e.pages s, ∀ q ∈ e.referenced s p, ¬e.IsInside s (s.volume.placeOf q)
  logsRead : ∀ p ∈ e.pages s, s.volume.placeOf p ∉ s.logFiles ∧
    ∀ q ∈ e.referenced s p, s.volume.placeOf q ∉ s.logFiles
  logsWritten : ∀ q ∈ s.logFiles, ¬e.Contains s q

namespace IsParted

variable (h : e.IsParted s)
include h

lemma working : ∀ name ∈ s.volume.working, IsName name := fun name hname =>
  (h.named.working name hname).1

/-- Nothing below the input folder lies in the folders that are written to. -/
lemma notInside {q : Place} (hq : s.volume.placeOf e.inputFolder <+: q) : ¬e.IsInside s q := by
  rintro (⟨hbelow, -⟩ | ⟨hbelow, -⟩)
  · exact h.output (List.prefix_or_prefix_of_prefix hq hbelow)
  · exact h.image (List.prefix_or_prefix_of_prefix hq hbelow)

variable (hb : Changes [] s b)
include hb

/-- What stands on the way to a page that is found is the same once the folders are made. -/
lemma trailView (hp : p ∈ e.pages s) : ∀ q ∈ s.volume.trail p, b.view q = s.view q := by
  intro q hq
  have hfound := found h.named h.rooted hp
  have hthere : s.view q ≠ none := by
    rw [Ne, Session.view_eq_none]
    by_cases heq : q = s.volume.placeOf p
    · exact fun hnone => by simpa [← heq, hnone] using hfound.entry
    · rw [hfound.way q hq heq]
      simp
  rcases hb.view q with hsame | ⟨hnone, -⟩ | ⟨hmem, -⟩
  · exact hsame
  · exact absurd hnone hthere
  · cases hmem

/-- A page that is found reads the same once the folders are made. -/
lemma load (hp : p ∈ e.pages s) :
    e.store.load b.volume p.toText = e.store.load s.volume p.toText := by
  have hread : b.volume.read p = s.volume.read p := by
    refine Volume.read_congr hb.working (fun q hq => ?_) (h.logsRead p hp).1
    have hview := h.trailView hb hp q hq
    rwa [Session.view, Session.view, hb.logFiles] at hview
  have hplain := (found h.named h.rooted hp).named
  rw [FileStore.load, Path.ofText_toText hplain, hread, FileStore.load,
    Path.ofText_toText hplain]

/-- It asks for no files but those that it refers to. -/
lemma asked (hp : p ∈ e.pages s) : e.asked b p ⊆ e.referenced s p := by
  rw [Exporter.asked, referenced, h.load hb hp]
  cases hload : e.store.load s.volume p.toText with
  | error cause => exact List.nil_subset _
  | ok html =>
      have htarget : (e.rewriting b p).target = (e.rewriting s p).target := by
        funext value
        have hworking := workingPath_eq hb.toSameSetting
        simp only [RewriteSettings.target, rewriting, converter, Converter.rewriting, hworking]
      have hasked := Rewriting.asked_subset (e.rewriting b p) (e.pageDocument html)
      rw [htarget] at hasked
      exact hasked

/-- Files that a page refers to lie outside the folders. -/
lemma isOutside (hp : p ∈ e.pages s) {q : Path} (hq : q ∈ e.referenced s p) : e.IsOutside b q := by
  have hnot := h.references p hp q hq
  rw [← isInside_iff hb.toSameSetting, ← Volume.placeOf_eq hb.working] at hnot
  refine ⟨hnot, fun r hr hinside => absurd ?_ hnot⟩
  rw [referenced] at hq
  split at hq
  · cases hq
  · obtain ⟨value, -, rfl⟩ := List.mem_map.mp hq
    obtain ⟨habs, hnames⟩ := (e.rewriting s p).target_names rfl
      (fun n hn => (h.working n hn).1) (Path.parent_plain (found h.named h.rooted hp).named) value
    -- its path has no way up, so all that it passes lies above it
    have hprefix := Disk.prefix_of_mem_trail hnames hr
    refine hinside.below ?_
    rwa [Volume.placeOf, Disk.leadsTo_names _ hnames]

/-- A page that is found reads outside the folders and writes to no log. -/
lemma isSeparate (hp : p ∈ e.pages s) : e.IsSeparate b p := by
  have hfound := found h.named h.rooted hp
  have hplace := fun q => Volume.placeOf_eq hb.working q
  have hnot : ¬e.IsInside b (b.volume.placeOf p) := by
    rw [hplace, isInside_iff hb.toSameSetting]
    exact h.notInside hfound.below
  refine ⟨hfound.named, ⟨hnot, fun q hq hinside => ?_⟩, ?_, fun q hq => ?_, fun w hw hlog => ?_⟩
  · have hne : q ≠ s.volume.placeOf p := by
      rintro rfl
      rw [hplace] at hnot
      exact hnot hinside
    rw [Volume.trail, Volume.startOf_eq hb.working] at hq
    rw [Session.view_eq_directory]
    exact hb.keepsDirectories q (hfound.way q hq hne)
  · rw [hplace, hb.logFiles]
    exact (h.logsRead p hp).1
  · have hreferenced := h.asked hb hp hq
    refine ⟨h.isOutside hb hp hreferenced, ?_⟩
    rw [hplace, hb.logFiles]
    exact (h.logsRead p hp).2 q hreferenced
  · have hwritten := mem_writtenPlaces hw
    rw [← Path.ofText_toText hfound.named] at hwritten
    refine h.logsWritten w.place (hb.logFiles ▸ hlog) ?_
    refine (contains_of_mem_writtenPlaces ?_ hwritten).sameSetting hb.toSameSetting
    rw [hb.working]
    exact h.working

end IsParted

/-! ### A second run -/

lemma prepare_grows (e : Exporter) (s : Session) :
    s.volume.disk.Grows (e.prepare s).2.volume.disk := by
  have houtput := FileStore.ensureDirectory_grows s e.outputFolder
  rw [prepare]
  generalize FileStore.ensureDirectory s e.outputFolder = output at houtput
  obtain ⟨result, s₁⟩ := output
  cases result with
  | error cause => exact houtput
  | ok => exact houtput.trans (FileStore.ensureDirectory_grows s₁ e.imageFolder)

lemma Run.take_grows (r : Run) (result : Except StoreError Outcome) :
    r.session.volume.disk.Grows (r.take result).session.volume.disk := by
  cases result with
  | ok o => exact Tracker.record_grows _ _ _
  | error cause => exact .refl _

lemma inOrder_grows (e : Exporter) (s : Session) (paths : List Path) :
    s.volume.disk.Grows (e.finish (e.inOrder s paths)).2.volume.disk := by
  have hfold : ∀ r : Run, r.session.volume.disk.Grows
      (paths.foldl (Run.next e false) r).session.volume.disk := by
    induction paths with
    | nil => exact fun r => .refl _
    | cons p rest ih =>
        intro r
        refine .trans ?_ (ih _)
        cases hfailure : r.failure with
        | some cause =>
            rw [(Run.next_failed e (by simp [hfailure]) p).2]
            exact .refl _
        | none =>
            rw [Run.next_open e false hfailure]
            exact (e.exportFile_grows r.session p).trans (Run.take_grows (r.exported e p) _)
  exact ((s.log_grows _ _ _).trans (hfold (e.begin s paths.length))).trans
    (Tracker.exit_grows _ _ _)

/-- What is counted before the first page. -/
def startCounts (e : Exporter) (total : Nat) : Counts :=
  (.empty, { total, started := some e.clock }, none)

/-- The run that has counted so much. -/
def Run.of (result : Counts × Session) : Run :=
  ⟨result.1.1, result.1.2.1, result.2, result.1.2.2⟩

lemma inOrder_eq (e : Exporter) (s : Session) (paths : List Path) :
    e.inOrder s paths
      = .of (e.counted paths (e.startCounts paths.length) (e.begin s paths.length).session) := rfl

lemma run_eq_inOrder (hworkers : e.config.workers ≤ 1) (s : Session) (paths : List Path) :
    e.run s paths = e.inOrder s paths := by
  have hparallel : e.isParallel paths = false := by
    rw [isParallel, decide_eq_false (by omega), Bool.false_and]
  rw [run, hparallel]
  rfl

/-- The export of all pages, from the session in which it is logged that they are looked for. -/
lemma exportAll_eq (e : Exporter) (s : Session) :
    ∃ s₁, s.Agrees s₁ ∧ s.volume.disk.Grows s₁.volume.disk ∧ e.exportAll s =
      match FileStore.find s.volume e.inputFolder pageEnding with
      | .error cause => (.error cause, s₁)
      | .ok [] => (.ok .empty, s₁)
      | .ok (p :: rest) => e.exportFiles s₁ (p :: rest) := by
  have hlogged := s.log_agrees .info e.channel s!"Processing all HTML files in {e.inputFolder}..."
  have hgrows := s.log_grows .info e.channel s!"Processing all HTML files in {e.inputFolder}..."
  rw [exportAll, find_agrees hlogged hgrows]
  cases FileStore.find s.volume e.inputFolder pageEnding with
  | error cause => exact ⟨_, hlogged, hgrows, rfl⟩
  | ok paths =>
      cases paths with
      | nil => exact ⟨_, hlogged.trans (Session.log_agrees _ _ _ _),
          hgrows.trans (Session.log_grows _ _ _ _), rfl⟩
      | cons p rest => exact ⟨_, hlogged.trans (Session.log_agrees _ _ _ _),
          hgrows.trans (Session.log_grows _ _ _ _), rfl⟩

/-- What a run in order that ends with a report leaves: the folders are made, and the run does the
same again. -/
lemma exportFiles_repeats {report : Report} (hworkers : e.config.workers ≤ 1) (h : e.IsParted s)
    (hs : s.Agrees s₁) (hpaths : ∀ p ∈ paths, p ∈ e.pages s)
    (hrun : e.exportFiles s₁ paths = (.ok report, s')) :
    ∃ b, Changes [] s b ∧ s₁.volume.disk.Grows b.volume.disk ∧ e.IsPrepared b ∧
      e.finish (e.inOrder b paths) = (.ok report, s') ∧
      e.Repeats (e.counted paths (e.startCounts paths.length))
        (e.begin b paths.length).session := by
  rw [exportFiles_eq] at hrun
  have hchanges := e.prepare_changes s₁
  have hgrows := e.prepare_grows s₁
  cases hprepare : e.prepare s₁ with
  | mk result b =>
      rw [hprepare] at hrun hchanges hgrows
      cases result with
      | error cause => cases congrArg Prod.fst hrun
      | ok =>
          have hb : Changes [] s b := (hs.changes []).trans hchanges
          have hprepared := isPrepared_of_prepare hprepare
          dsimp only at hrun
          rw [run_eq_inOrder hworkers] at hrun
          refine ⟨b, hb, hgrows, hprepared, hrun, counted_repeats (.of_agrees (e.begin_agrees b _))
            ?_ hprepared (fun p hp => h.isSeparate hb (hpaths p hp)) _⟩
          rw [hb.working]
          exact h.working

/-- After such a run the folders need not be made, and another run gives the same report and leaves
all as it is. -/
lemma exportFiles_again {report : Report} (hworkers : e.config.workers ≤ 1)
    (hprepared : e.IsPrepared b) (hrun : e.finish (e.inOrder b paths) = (.ok report, s'))
    (hrepeats : e.Repeats (e.counted paths (e.startCounts paths.length))
      (e.begin b paths.length).session) (hu : s'.Agrees u) :
    e.Later b s' ∧ ∃ u', e.exportFiles u paths = (.ok report, u') ∧ s'.Agrees u' := by
  have hfinished : (e.inOrder b paths).session.Agrees s' := by
    have hlogged := e.finish_agrees (e.inOrder b paths)
    rwa [hrun] at hlogged
  have hlater : e.Later b s' := (Later.of_agrees (e.begin_agrees b _)).trans
    (hrepeats.later.trans (.of_agrees hfinished))
  have hnear := (hlater.trans (.of_agrees hu)).near
  have hprepare : e.prepare u = (.ok (), u) := by
    rw [prepare, hnear.ensureDirectory hprepared.output]
    exact hnear.ensureDirectory hprepared.image
  obtain ⟨hcounts, hagrees⟩ :=
    hrepeats.settled ((hfinished.trans hu).trans (e.begin_agrees u paths.length))
  have hagain : (e.finish (e.inOrder u paths)).1 = .ok report := by
    have hreport : (e.finish (e.inOrder b paths)).1 = .ok report := congrArg Prod.fst hrun
    rw [finish, inOrder_eq, Run.of] at hreport ⊢
    rwa [hcounts]
  refine ⟨hlater, (e.finish (e.inOrder u paths)).2, ?_, ?_⟩
  · rw [exportFiles_eq, hprepare]
    dsimp only
    rw [run_eq_inOrder hworkers]
    exact Prod.ext hagain rfl
  · exact (hfinished.symm.trans hagrees).trans (e.finish_agrees (e.inOrder u paths))

/-- **A second run changes nothing**: where what is read and what is written lie apart, an export in
order that ends with a report gives the same report when it is run again, and leaves the disk as it
is, but for what is logged to files. -/
theorem exportAll_again {report : Report} (hworkers : e.config.workers ≤ 1) (h : e.IsParted s)
    (hrun : e.exportAll s = (.ok report, s')) :
    ∃ s'', e.exportAll s' = (.ok report, s'') ∧ s'.Agrees s'' ∧
      (s.logFiles = [] → ∀ q, s''.volume.disk.find? q = s'.volume.disk.find? q) := by
  suffices hagain : ∃ s'', e.exportAll s' = (.ok report, s'') ∧ s'.Agrees s'' ∧
      s'.logFiles = s.logFiles by
    obtain ⟨s'', hresult, hagrees, hlogs⟩ := hagain
    refine ⟨s'', hresult, hagrees, fun hnone q => ?_⟩
    have hview := hagrees.view q
    rwa [Session.view_of_notMem (by simp [hagrees.logFiles, hlogs, hnone]),
      Session.view_of_notMem (by simp [hlogs, hnone])] at hview
  obtain ⟨s₁, hs, hgrows, hfirst⟩ := exportAll_eq e s
  obtain ⟨u, hu, -, hsecond⟩ := exportAll_eq e s'
  rw [hfirst] at hrun
  rw [hsecond]
  cases hfind : FileStore.find s.volume e.inputFolder pageEnding with
  | error cause =>
      rw [hfind] at hrun
      cases congrArg Prod.fst hrun
  | ok paths =>
      rw [hfind] at hrun
      cases paths with
      | nil =>
          obtain ⟨hempty, rfl⟩ := Prod.mk.inj hrun
          rw [find_agrees hs hgrows, hfind]
          exact ⟨u, Prod.ext hempty rfl, hu, hs.logFiles⟩
      | cons p rest =>
          have hpages : ∀ q ∈ p :: rest, q ∈ e.pages s := fun q hq => mem_pages.mpr ⟨_, hfind, hq⟩
          obtain ⟨b, hb, hmade, hprepared, hfinish, hrepeats⟩ :=
            exportFiles_repeats hworkers h hs hpages hrun
          obtain ⟨hlater, u', hresult, hagrees⟩ :=
            exportFiles_again hworkers hprepared hfinish hrepeats hu
          have hset := hb.toSameSetting.trans hlater.toSameSetting
          have hend := hgrows.trans (hmade.trans (e.inOrder_grows b (p :: rest)))
          rw [hfinish] at hend
          -- below the input folder there is no file that was not there
          have hfound := find_later hfind hset hend fun q hq hfile => by
            have hnot := h.notInside hq.1
            rw [hlater.outside q (mt (isInside_iff hb.toSameSetting q).mp hnot)] at hfile
            rcases hb.view q with hsame | ⟨-, hdirectory⟩ | ⟨hmem, -⟩
            · rwa [← hsame]
            · rw [hdirectory] at hfile
              cases hfile
            · cases hmem
          rw [hfound]
          exact ⟨u', hresult, hagrees, hset.logFiles⟩

/-- Two pages with one note, and an image that both show. -/
def oneNote : Session := .quiet ⟨⟨[
  (["input".toList], .directory),
  (["input".toList, "A.html".toList], .file (utf8Encode "<img src=i>1".toList)),
  (["input".toList, "a.html".toList], .file (utf8Encode "<img src=i>2".toList)),
  (["input".toList, ['i']], .file [1])]⟩, []⟩ .warning sampleMoment

/-- Its pages. -/
def oneNotePages : List Path := [.ofText "input/A.html".toList, .ofText "input/a.html".toList]

set_option maxRecDepth 100000 in
lemma find_oneNote :
    FileStore.find oneNote.volume sample.inputFolder pageEnding = .ok oneNotePages := by
  have hdirectory : oneNote.volume.isDirectory sample.inputFolder = .ok true := by decide +kernel
  have hlocate : oneNote.volume.locate sample.inputFolder = .ok ["input".toList] := by
    decide +kernel
  have hfiles : ((Volume.filesUnder oneNote.volume.disk ["input".toList]).filter fun names =>
      Volume.hasEnding pageEnding (names.getLast?.getD [])).map
        (fun names => { sample.inputFolder with parts := sample.inputFolder.parts ++ names })
          = oneNotePages := by
    decide +kernel
  rw [FileStore.find, Volume.filesBelow, hdirectory, hlocate]
  dsimp only
  rw [hfiles, List.mergeSort_of_pairwise (by decide +kernel)]

set_option maxRecDepth 100000 in
/-- The second page takes the place of the first in the first run and in the second. -/
theorem exportAll_again_oneNote :
    sample.IsParted oneNote ∧ ∃ report s' s'', sample.exportAll oneNote = (.ok report, s') ∧
      report.succeeded = 2 ∧ sample.exportAll s' = (.ok report, s'') ∧
        ∀ q, s''.volume.disk.find? q = s'.volume.disk.find? q := by
  have hpages : sample.pages oneNote = oneNotePages := by rw [pages, find_oneNote]
  have hparted : sample.IsParted oneNote := by
    refine ⟨by decide +kernel, by decide +kernel, by decide +kernel, by decide +kernel, ?_, ?_,
      fun q hq => by cases hq⟩
    · rw [hpages]
      decide +kernel
    · rw [hpages]
      decide +kernel
  have hlevel : Level.info < oneNote.logging.threshold sample.channel := by decide +kernel
  have hlog : ∀ message, oneNote.log .info sample.channel message = oneNote := fun message => by
    rw [Session.log, Session.write, if_pos hlevel]
  have hfirst : sample.exportAll oneNote = sample.exportFiles oneNote oneNotePages := by
    rw [exportAll, hlog, find_oneNote, oneNotePages]
    dsimp only
    rw [hlog]
  have hprepare : (sample.prepare oneNote).1 = .ok () := by decide +kernel
  obtain ⟨hopen, hsucceeded⟩ :
      (sample.run (sample.prepare oneNote).2 oneNotePages).failure = none ∧
        (sample.run (sample.prepare oneNote).2 oneNotePages).report.succeeded = 2 := by
    decide +kernel
  obtain ⟨s', hrun, -⟩ := exportFiles_report hprepare hopen
  rw [← hfirst] at hrun
  obtain ⟨s'', hagain, -, hsame⟩ := exportAll_again (by decide) hparted hrun
  exact ⟨hparted, _, s', s'', hrun, (Report.succeeded_perm (Report.sorted_perm _)).trans hsucceeded,
    hagain, hsame rfl⟩

end Exporter

end PageNotes
