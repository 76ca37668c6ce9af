import PageNotes.Proofs.Batch.Outputs
import PageNotes.Proofs.Batch.Rerun
import PageNotes.Proofs.Reference.PageLink

/-!
Links between the pages of a batch. A link is taken for one to a page by its ending in any case, and
`.htm` is one of these, while a batch has only the files with `.html` in lower case. Where all pages
are exported, a link to a file below the input folder leads to the note of this file just when its
name ends so and has something else than points before the ending, or nothing.

* `linkedFile`: the file that a link to a page means;
* `IsPageName`: the names with which a file is found and has the slug of links to it;
* `pageSlug_eq_iff`: when the slug of links to a file is that of its note;
* `Exporter.ReportsAll`: the runs over all pages, in any order, that end with a report;
* `Exporter.exists_page_iff`: which files are found;
* `Exporter.reportsAll_links`: which links lead to notes.
-/

namespace PageNotes

open Session (Agrees SameSetting)

/-! ### The names of linked files -/

/-- The file that a link to a page means, for a page in a directory `directory` of the working
directory `working`. -/
def linkedFile (working directory : Path) (href : Text) : Path :=
  (working.join directory).join (.ofText (percentDecode (Text.cut '#' href).1))

/-- The names with which a file is found and has the slug of links to it: those that end like pages
in lower case, with something else than points before the ending, or nothing. -/
def IsPageName (name : Text) : Prop :=
  ∃ t, name = t ++ Exporter.pageEnding ∧ (t = [] ∨ ∃ c ∈ t, c ≠ '.')

/-- The name of the file that a link to a page means: something and the ending of a page. -/
lemma exists_linkedName {path : Text} (h : namesPage path = true) :
    ∃ t letters, baseName (percentDecode path) = t ++ '.' :: letters ∧ '/' ∉ t ∧ letters ≠ [] ∧
      ∀ c ∈ letters, c ≠ '.' ∧ c ≠ '/' := by
  obtain ⟨t, letters, rfl, hne, -, hletters⟩ := exists_pageEnding h
  have hplain : ∀ c ∈ letters, c ≠ '.' ∧ c ≠ '/' := fun c hc => (hletters c hc).1
  refine ⟨baseName (percentDecode t), letters, ?_, slash_notMem_baseName _, hne, hplain⟩
  rw [percentDecode_append t (List.cons_ne_nil _ _) (fun c hc => ?_) fun c hc => ?_,
    baseName_append hplain]
  · rcases List.mem_cons.mp hc with rfl | hc
    · decide
    · exact (hletters c hc).2
  · obtain rfl : '.' = c := Option.some.inj hc
    decide

/-- The name of the file that a link to a page means stands for an entry. -/
lemma linkedName_isName {path : Text} (h : namesPage path = true) :
    IsName (baseName (percentDecode path)) := by
  obtain ⟨t, letters, hname, -, hne, hletters⟩ := exists_linkedName h
  refine ⟨⟨?_, ?_, slash_notMem_baseName _⟩, ?_⟩ <;> rw [hname] <;> intro heq
  · simp at heq
  · have hlength := congrArg List.length heq
    rw [List.length_append, List.length_cons, List.length_singleton] at hlength
    exact hne (List.eq_nil_of_length_eq_zero (by omega))
  · have hlast := congrArg List.getLast? heq
    rw [List.getLast?_append_cons, List.getLast?_cons_of_ne_nil hne] at hlast
    exact (hletters '.' (List.mem_of_getLast? hlast)).1 rfl

/-- Points at the start of a text are not in its slug. -/
lemma slugify_points {t : Text} (h : ∀ c ∈ t, c = '.') (more : Text) :
    slugify (t ++ more) = slugify more := by
  have hlower : ∀ rest : Text, Text.lower ('.' :: rest) = '.' :: Text.lower rest := fun rest => by
    have hform : lowerForm '.' = ['.'] := by decide +kernel
    have hcased : (if isCaseIgnorable '.' then false else isCased '.') = false := by decide +kernel
    rw [Text.lower, Text.lowerAfter, hcased, if_neg (by decide), hform]
    rfl
  have hblank : isBlank '.' = false := by decide +kernel
  have hslug : isSlugChar '.' = false := by decide +kernel
  induction t with
  | nil => rfl
  | cons c t ih =>
      rw [List.forall_mem_cons] at h
      obtain ⟨rfl, hrest⟩ := h
      rw [← ih hrest, List.cons_append, slugify, slugify, hlower, Text.replaceRuns, hblank,
        if_neg Bool.false_ne_true, List.filter_cons, hslug, if_neg Bool.false_ne_true]

section Slugs

variable {t : Text} (ht : '/' ∉ t) {path : Text}
  (hname : baseName (percentDecode path) = t ++ Exporter.pageEnding)

include ht hname

/-- The slug of links to a file is that of its note unless nothing but points stands before the
ending. -/
lemma pageSlug_eq_iff {p : Path} (hp : p.name = baseName (percentDecode path)) :
    slugify p.stem = pageSlug path ↔ t = [] ∨ ∃ c ∈ t, c ≠ '.' := by
  have hne : "html".toList ≠ [] := by decide
  obtain ⟨-, -, -, hletters⟩ :=
    pageExtensions_shape Exporter.pageEnding (by simp [pageExtensions, Exporter.pageEnding])
  have hplain : ∀ c ∈ "html".toList, c ≠ '.' ∧ c ≠ '/' := fun c hc =>
    ⟨(hletters c hc).1, (hletters c hc).2.1⟩
  rw [Path.stem, hp, pageSlug, hname]
  change slugify (Path.cutName (t ++ '.' :: "html".toList)).1
    = slugify (splitExtension (t ++ '.' :: "html".toList)).1 ↔ _
  rw [cutName_append hne hplain, splitExtension_append hne hplain ht]
  cases t with
  | nil => simp
  | cons first rest =>
      rw [if_neg (by simp), or_iff_right (List.cons_ne_nil _ _)]
      split_ifs with hall
      · have hpoints : ∀ c ∈ first :: rest, c = '.' := by simpa using hall
        have hnote := slugify_points hpoints []
        rw [List.append_nil] at hnote
        rw [hnote, slugify_points hpoints]
        refine iff_of_false (by decide +kernel) ?_
        rintro ⟨c, hc, hno⟩
        exact hno (hpoints c hc)
      · refine iff_of_true rfl ?_
        simpa only [List.all_eq_true, decide_eq_true_eq, not_forall, exists_prop] using hall

end Slugs

/-- A link to a page means a file of the name that stands behind its last slash. -/
lemma placeOf_linkedFile (v : Volume) (working directory : Path) {href : Text}
    (h : namesPage (Text.cut '#' href).1 = true) :
    ∃ place, v.placeOf (linkedFile working directory href)
      = place ++ [baseName (percentDecode (Text.cut '#' href).1)] := by
  have hname := linkedName_isName h
  obtain ⟨before, hparts⟩ := Path.exists_parts_ofText hname.1
  have hleads : ∀ (start : Place) (names : List Text),
      ∃ place, Disk.leadsTo start (names ++ (before ++
        [baseName (percentDecode (Text.cut '#' href).1)]))
          = place ++ [baseName (percentDecode (Text.cut '#' href).1)] := fun start names =>
    ⟨_, by rw [← List.append_assoc, Disk.leadsTo_append,
      Disk.leadsTo_names _ (by simpa using hname)]⟩
  rw [Volume.placeOf, linkedFile, Path.join]
  split_ifs
  · rw [hparts]
    exact hleads _ []
  · rw [hparts]
    exact hleads _ _

/-! ### Which files are found -/

namespace Disk

/-- A file below a place is listed. -/
lemma mem_filesUnder {d : Disk} {place : Place} {names : List Text} {content : Bytes}
    (hne : names ≠ []) (h : d.find? (place ++ names) = some (.file content)) :
    names ∈ Volume.filesUnder d place := by
  have hroot : place ++ names ≠ [] := by simp [hne]
  rw [find?, if_neg hroot] at h
  obtain ⟨before, after, heq, -⟩ := List.lookup_eq_some_iff.mp h
  rw [filesUnder_eq, List.mem_filterMap]
  refine ⟨(place ++ names, .file content), by simp [heq], ?_⟩
  have hlength : place.length < (place ++ names).length := by
    rw [List.length_append]
    have := List.length_pos_iff.mpr hne
    omega
  rw [nameBelow?, if_pos, List.drop_left]
  rw [Bool.and_eq_true, List.isPrefixOf_iff_prefix]
  exact ⟨List.prefix_append _ _, decide_eq_true hlength⟩

end Disk

namespace Exporter

variable {e : Exporter} {s s' : Session} {report : Report} {pages : List Path} {p : Path}

lemma hasEnding_pageEnding (name : Text) :
    Volume.hasEnding pageEnding name = true ↔ pageEnding <:+ name := by
  have hplain : (pageEnding.any fun c => c = '*' || c = '?' || c = '[') = false := by decide
  rw [Volume.hasEnding, hplain, if_neg Bool.false_ne_true, List.isSuffixOf_iff_suffix]

/-- A page that is found has the names from the folder to a file whose name ends like a page. -/
lemma page_names {v : Volume} (hv : v.IsNamed) {root : Path}
    (hfind : FileStore.find v root pageEnding = .ok pages) (hp : p ∈ pages) :
    ∃ names, names ∈ Volume.filesUnder v.disk (v.placeOf root) ∧ names ≠ [] ∧
      p = { root with parts := root.parts ++ names } ∧ v.placeOf p = v.placeOf root ++ names ∧
      pageEnding <:+ names.getLast?.getD [] := by
  obtain ⟨place, hlocate, -, rfl⟩ := find_eq_ok_iff.mp hfind
  obtain rfl := Volume.locate_eq_placeOf hlocate
  obtain ⟨names, hnames, rfl⟩ := List.mem_map.mp (List.mem_mergeSort.mp hp)
  rw [List.mem_filter, hasEnding_pageEnding] at hnames
  refine ⟨names, hnames.1, (Disk.mem_places_of_filesUnder hnames.1).2, rfl, ?_, hnames.2⟩
  exact Volume.placeOf_append root fun n hn => (filesUnder_named hv _ names hnames.1 n hn).1

/-- A page that lies at a place has its name. -/
lemma page_name {v : Volume} (hv : v.IsNamed) {root : Path}
    (hfind : FileStore.find v root pageEnding = .ok pages) (hp : p ∈ pages) {place : Place}
    {name : Text} (hplace : v.placeOf p = place ++ [name]) :
    p.name = name ∧ pageEnding <:+ name := by
  obtain ⟨names, -, hne, rfl, heq, hending⟩ := page_names hv hfind hp
  have hlast : names.getLast? = some name := by
    have hsame := congrArg List.getLast? (heq.symm.trans hplace)
    rwa [List.getLast?_concat, List.getLast?_append_of_ne_nil _ hne] at hsame
  rw [hlast, Option.getD_some] at hending
  rw [Path.name, List.getLast?_append_of_ne_nil _ hne, hlast]
  exact ⟨rfl, hending⟩

/-- A file below the folder is found when its name ends like a page in lower case. -/
lemma exists_page_iff {v : Volume} (hv : v.IsNamed) {root : Path}
    (hfind : FileStore.find v root pageEnding = .ok pages) {place : Place} {name : Text}
    {content : Bytes} (hfile : v.disk.find? (place ++ [name]) = some (.file content))
    (hbelow : Disk.IsBelow (v.placeOf root) (place ++ [name])) :
    (∃ p ∈ pages, v.placeOf p = place ++ [name]) ↔ pageEnding <:+ name := by
  constructor
  · rintro ⟨p, hp, hplace⟩
    exact (page_name hv hfind hp hplace).2
  · intro hending
    obtain ⟨⟨names, hnames⟩, hnot⟩ := hbelow
    have hne : names ≠ [] := by
      rintro rfl
      rw [List.append_nil] at hnames
      exact hnot hnames.symm
    have hlast : names.getLast? = some name := by
      have hsame := congrArg List.getLast? hnames
      rwa [List.getLast?_concat, List.getLast?_append_of_ne_nil _ hne] at hsame
    have hmem : names ∈ Volume.filesUnder v.disk (v.placeOf root) :=
      Disk.mem_filesUnder hne (hnames ▸ hfile)
    obtain ⟨found, hlocate, -, rfl⟩ := find_eq_ok_iff.mp hfind
    obtain rfl := Volume.locate_eq_placeOf hlocate
    refine ⟨{ root with parts := root.parts ++ names }, ?_, ?_⟩
    · rw [foundBelow, List.mem_mergeSort]
      refine List.mem_map_of_mem (List.mem_filter.mpr ⟨hmem, ?_⟩)
      rw [hasEnding_pageEnding, hlast]
      exact hending
    · rw [Volume.placeOf_append root fun n hn => (filesUnder_named hv _ names hmem n hn).1]
      exact hnames

/-! ### Runs over all pages -/

/-- The runs over all pages that end with a report, one page after another or in any order. -/
inductive ReportsAll (e : Exporter) (s : Session) : Report → Session → Prop
  | noPages {s' : Session} (hfind : FileStore.find s.volume e.inputFolder pageEnding = .ok [])
      (hlog : s.Agrees s') : ReportsAll e s .empty s'
  | somePages {s₁ s' : Session} {pages : List Path} {r : Run} {report : Report}
      (hfind : FileStore.find s.volume e.inputFolder pageEnding = .ok pages) (hlog : s.Agrees s₁)
      (hrun : e.Completes s₁ pages r (.ok report, s')) : ReportsAll e s report s'

/-- What the exporter does with all pages is such a run. -/
theorem exportAll_reportsAll (h : e.exportAll s = (.ok report, s')) : e.ReportsAll s report s' := by
  obtain ⟨s₁, hlog, -, heq⟩ := exportAll_eq e s
  rw [heq] at h
  split at h
  · cases congrArg Prod.fst h
  · rename_i hfind
    cases h
    exact .noPages hfind hlog
  · rename_i p rest hfind
    have hprepare : e.prepare s₁ = (.ok (), (e.prepare s₁).2) := by
      rw [exportFiles_eq] at h
      generalize e.prepare s₁ = prepared at h
      obtain ⟨result, s₂⟩ := prepared
      cases result with
      | error cause => cases congrArg Prod.fst h
      | ok => rfl
    have hcompletes := exportFiles_completes (p :: rest) hprepare
    rw [h] at hcompletes
    exact .somePages hfind hlog hcompletes

/-- The outcomes of a run over all pages are one for each page that is found; those of pages that
are exported have the note of the page. -/
lemma ReportsAll.outcomes (h : e.ReportsAll s report s') :
    ∃ pages, FileStore.find s.volume e.inputFolder pageEnding = .ok pages ∧
      (∀ p ∈ pages, ∃ o ∈ report.outcomes, o.source = p) ∧
      ∀ o ∈ report.outcomes, o.source ∈ pages ∧
        (o.succeeded → o.output = some (e.outputPath s.workingPath o.source)) := by
  cases h with
  | noPages hfind hlog => exact ⟨[], hfind, by simp, by simp [Report.empty]⟩
  | @somePages s₁ _ pages r _ hfind hlog hrun =>
      obtain ⟨-, -, -, s₂, exports, hprepare, -, htrace, hpages, hresults⟩ := hrun.trace
      have hprepared := e.prepare_changes s₁
      rw [hprepare] at hprepared
      have hset := hlog.toSameSetting.trans hprepared.toSameSetting
      have hsource : ∀ {x : Export} {o : Outcome}, x.result e = .ok o → o.source = x.source := by
        intro x o hresult
        have hexport : e.exportFile x.before x.source = (.ok o, x.after e) := Prod.ext hresult rfl
        exact exportFile_source hexport
      refine ⟨pages, hfind, fun p hp => ?_, fun o ho => ?_⟩
      · obtain ⟨x, hx, rfl⟩ := List.mem_map.mp (hpages.symm.subset hp)
        obtain ⟨o, ho, hresult⟩ := results_ok hresults hx
        exact ⟨o, ho, hsource hresult⟩
      · obtain ⟨x, hx, hresult⟩ := results_source hresults ho
        refine ⟨?_, fun hsucceeded => ?_⟩
        · rw [hsource hresult]
          exact hpages.subset (List.mem_map_of_mem hx)
        · exact Export.output_of_success (hset.trans (htrace.sameSetting.2 x hx)) hresult hsucceeded

/-! ### Links -/

/-- Whether the outcomes of a run have the note of a page at a place, by a name. -/
def HasNoteOf (s : Session) (report : Report) (place : Place) (name : Text) : Prop :=
  ∃ o ∈ report.outcomes, o.succeeded ∧ s.volume.placeOf o.source = place ∧
    ∃ output, o.output = some output ∧ output.name = name

/-- **Which links between pages lead to notes.** Let all pages below the input folder be exported,
and let a link of a page mean a file below this folder. The new target of the link is a slug between
the prefix and the fragment, and the report has a note of the file by this slug just when the name
of the file ends like a page in lower case, with something else than points before the ending, or
nothing. -/
theorem reportsAll_links (hnamed : s.volume.IsNamed) (h : e.ReportsAll s report s')
    (hall : ∀ o ∈ report.outcomes, o.succeeded) {directory : Path} {href target : Text}
    (hlink : pageLink? e.config.linkPrefix href = some target) {content : Bytes}
    (hfile : s.volume.disk.find? (s.volume.placeOf (linkedFile s.workingPath directory href))
      = some (.file content))
    (hbelow : Disk.IsBelow (s.volume.placeOf e.inputFolder)
      (s.volume.placeOf (linkedFile s.workingPath directory href))) :
    (∃ fragment, target = e.config.linkPrefix ++ pageSlug (Text.cut '#' href).1 ++ fragment ∧
      ∀ c ∈ fragment.head?, c = '#') ∧
    ∃ name, (s.volume.placeOf (linkedFile s.workingPath directory href)).getLast? = some name ∧
      (HasNoteOf s report (s.volume.placeOf (linkedFile s.workingPath directory href))
        (pageSlug (Text.cut '#' href).1 ++ ".md".toList) ↔ IsPageName name) := by
  obtain ⟨hnames, htarget⟩ := pageLink?_eq_some hlink
  obtain ⟨place, hplace⟩ := placeOf_linkedFile s.volume s.workingPath directory hnames
  obtain ⟨pages, hfind, hpages, houtcomes⟩ := h.outcomes
  rw [hplace] at hfile hbelow ⊢
  refine ⟨htarget, _, List.getLast?_concat, ?_⟩
  have hslash : ∀ {t}, baseName (percentDecode (Text.cut '#' href).1) = t ++ pageEnding → '/' ∉ t :=
    fun heq hmem => slash_notMem_baseName _ (heq ▸ List.mem_append_left _ hmem)
  have hnote : ∀ p : Path, (e.outputPath s.workingPath p).name = slugify p.stem ++ ".md".toList := by
    intro p
    rw [outputPath_eq, Path.name, List.getLast?_concat]
    rfl
  constructor
  · rintro ⟨o, ho, hsucceeded, hsource, output, houtput, hname⟩
    obtain ⟨hpage, hwritten⟩ := houtcomes o ho
    obtain ⟨hsame, t, hending⟩ := page_name hnamed hfind hpage hsource
    rw [hwritten hsucceeded, Option.some.injEq] at houtput
    rw [← houtput, hnote] at hname
    exact ⟨t, hending.symm, (pageSlug_eq_iff (hslash hending.symm) hending.symm hsame).mp
      (List.append_cancel_right hname)⟩
  · rintro ⟨t, hending, hother⟩
    obtain ⟨p, hp, hsource⟩ :=
      (exists_page_iff hnamed hfind hfile hbelow).mpr ⟨t, hending.symm⟩
    obtain ⟨o, ho, rfl⟩ := hpages p hp
    have hsame := (page_name hnamed hfind hp hsource).1
    refine ⟨o, ho, hall o ho, hsource, _, (houtcomes o ho).2 (hall o ho), ?_⟩
    rw [hnote, (pageSlug_eq_iff (hslash hending) hending hsame).mpr hother]

/-- A page that links to a page and to a file that has the other ending. -/
def threePages : Session := .quiet ⟨⟨[
  (["input".toList], .directory),
  (["input".toList, "a.html".toList],
    .file (utf8Encode "<a href=b.html>b</a><a href=c.htm>c</a>".toList)),
  (["input".toList, "b.html".toList], .file (utf8Encode ['b'])),
  (["input".toList, "c.htm".toList], .file (utf8Encode ['c']))]⟩, []⟩ .warning sampleMoment

/-- The pages that are found of it. -/
def threePagesFound : List Path := [.ofText "input/a.html".toList, .ofText "input/b.html".toList]

set_option maxRecDepth 100000 in
lemma find_threePages :
    FileStore.find threePages.volume sample.inputFolder pageEnding = .ok threePagesFound := by
  refine find_eq_ok_iff.mpr ⟨["input".toList], by decide +kernel, by decide +kernel, ?_⟩
  have hfiles : ((Volume.filesUnder threePages.volume.disk ["input".toList]).filter fun names =>
      Volume.hasEnding pageEnding (names.getLast?.getD [])).map
        (fun names => { sample.inputFolder with parts := sample.inputFolder.parts ++ names })
          = threePagesFound := by
    decide +kernel
  rw [foundBelow, hfiles, List.mergeSort_of_pairwise (by decide +kernel)]

set_option maxRecDepth 100000 in
/-- All pages are exported; the first link leads to a note and the second does not. -/
theorem reportsAll_links_threePages :
    ∃ report s', sample.ReportsAll threePages report s' ∧ report.succeeded = 2 ∧
      HasNoteOf threePages report ["input".toList, "b.html".toList] "b.md".toList ∧
      ¬HasNoteOf threePages report ["input".toList, "c.htm".toList] "c.md".toList := by
  have hprepare : (sample.prepare threePages).1 = .ok () := by decide +kernel
  obtain ⟨hopen, hsucceeded, hall⟩ :
      (sample.run (sample.prepare threePages).2 threePagesFound).failure = none ∧
        (sample.run (sample.prepare threePages).2 threePagesFound).report.succeeded = 2 ∧
          ∀ o ∈ (sample.run (sample.prepare threePages).2 threePagesFound).report.outcomes,
            o.succeeded := by
    decide +kernel
  obtain ⟨s', -, hcompletes⟩ := exportFiles_report hprepare hopen
  have hreports := ReportsAll.somePages find_threePages (.refl _) hcompletes
  have hperm := (sample.run (sample.prepare threePages).2 threePagesFound).report.sorted_perm
  have hall' := fun o ho => hall o (hperm.subset ho)
  have hnamed : threePages.volume.IsNamed := by decide +kernel
  have hplace : threePages.volume.placeOf (linkedFile threePages.workingPath
        (.ofText "input".toList) "b.html".toList) = ["input".toList, "b.html".toList] ∧
      threePages.volume.placeOf (linkedFile threePages.workingPath
        (.ofText "input".toList) "c.htm".toList) = ["input".toList, "c.htm".toList] := by
    decide +kernel
  have hfile : threePages.volume.disk.find? ["input".toList, "b.html".toList]
        = some (.file (utf8Encode ['b'])) ∧
      threePages.volume.disk.find? ["input".toList, "c.htm".toList]
        = some (.file (utf8Encode ['c'])) := by
    decide +kernel
  have hlink : pageLink? sample.config.linkPrefix "b.html".toList = some ['b'] ∧
      pageLink? sample.config.linkPrefix "c.htm".toList = some ['c'] := by
    decide +kernel
  have hslug : pageSlug (Text.cut '#' "b.html".toList).1 ++ ".md".toList = "b.md".toList ∧
      pageSlug (Text.cut '#' "c.htm".toList).1 ++ ".md".toList = "c.md".toList := by
    decide +kernel
  refine ⟨_, s', hreports, (Report.succeeded_perm hperm).trans hsucceeded, ?_, ?_⟩
  · obtain ⟨-, name, hname, hnote⟩ := reportsAll_links hnamed hreports hall' hlink.1
      (hplace.1 ▸ hfile.1) (hplace.1 ▸ ⟨by decide +kernel, by decide +kernel⟩)
    rw [hplace.1, hslug.1] at hnote
    rw [hplace.1] at hname
    obtain rfl : "b.html".toList = name := Option.some.inj hname
    exact hnote.mpr ⟨['b'], rfl, Or.inr ⟨'b', by decide, by decide⟩⟩
  · obtain ⟨-, name, hname, hnote⟩ := reportsAll_links hnamed hreports hall' hlink.2
      (hplace.2 ▸ hfile.2) (hplace.2 ▸ ⟨by decide +kernel, by decide +kernel⟩)
    rw [hplace.2, hslug.2] at hnote
    rw [hplace.2] at hname
    obtain rfl : "c.htm".toList = name := Option.some.inj hname
    refine mt hnote.mp ?_
    rintro ⟨t, hending, -⟩
    have hno : ¬pageEnding <:+ "c.htm".toList := by decide
    exact hno ⟨t, hending.symm⟩

end Exporter

end PageNotes
