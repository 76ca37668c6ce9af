import PageNotes.Proofs.Disk.Directories
import PageNotes.Proofs.Export.Outputs

/-!
Where an export may put files. Whatever a page refers to, its assets come to lie right in the image
folder, each under the last name of its file; and wherever the page lies, its note comes to lie
below the folder of notes, as `..` has been resolved in its directory and a slug has no slash.

* `Disk.fileAt`: the content of the file at a place;
* `Exporter.Contains`: the places where an exporter puts files;
* `Exporter.contains_of_mem_writtenPlaces`: a page is delivered to such places;
* `Exporter.exportFile_contained`: an export changes the files at such places and no others.
-/

namespace PageNotes

/-- The content of the file at a place, if one stands there. -/
def Disk.fileAt (d : Disk) (place : Place) : Option Bytes :=
  match d.find? place with
  | some (.file content) => some content
  | _ => none

/-- Whether a file stands at a place can be seen without its content. -/
lemma Disk.isSome_fileAt (hidden : List Place) (d : Disk) (place : Place) :
    (d.fileAt place).isSome = isFileEntry (d.view hidden place) := by
  rw [fileAt, view]
  cases d.find? place with
  | none => rfl
  | some entry => cases entry <;> rfl

lemma Disk.fileAt_of_notMem {hidden : List Place} {d d' : Disk} {place : Place}
    (hplace : place ∉ hidden) (h : d'.view hidden place = d.view hidden place) :
    d'.fileAt place = d.fileAt place := by
  rw [view_of_notMem hplace, view_of_notMem hplace] at h
  rw [fileAt, h, fileAt]

/-- Where files were put at some places, no others have changed but those that logs are written to,
and these are there before and after. -/
lemma Session.Changes.fileAt {targets : List Place} {s s' : Session} (h : Changes targets s s')
    {q : Place} (hchanged : s'.volume.disk.fileAt q ≠ s.volume.disk.fileAt q) :
    q ∈ targets ∨ q ∈ s.logFiles ∧ (s.volume.disk.fileAt q).isSome ∧
      (s'.volume.disk.fileAt q).isSome := by
  have hbefore : (s.volume.disk.fileAt q).isSome = Disk.isFileEntry (s.view q) :=
    Disk.isSome_fileAt s.logFiles s.volume.disk q
  have hafter : (s'.volume.disk.fileAt q).isSome = Disk.isFileEntry (s'.view q) :=
    Disk.isSome_fileAt s'.logFiles s'.volume.disk q
  -- a file that has changed is there before or after
  have hthere : Disk.isFileEntry (s.view q) = true ∨ Disk.isFileEntry (s'.view q) = true := by
    rw [← hbefore, ← hafter, ← Bool.or_eq_true, ← Bool.not_eq_false]
    intro hneither
    rw [Bool.or_eq_false_iff, Option.isSome_eq_false_iff, Option.isSome_eq_false_iff,
      Option.isNone_iff_eq_none, Option.isNone_iff_eq_none] at hneither
    exact hchanged (hneither.2.trans hneither.1.symm)
  rcases h.view q with hsame | ⟨hnone, hdirectory⟩ | ⟨hmem, -⟩
  · rw [hsame, or_self] at hthere
    refine Or.inr ⟨?_, hbefore.trans hthere, hafter.trans (hsame ▸ hthere)⟩
    by_contra hlog
    rw [Session.view, Session.view, h.logFiles] at hsame
    exact hchanged (Disk.fileAt_of_notMem hlog hsame)
  · rw [hnone, hdirectory] at hthere
    simp [Disk.isFileEntry] at hthere
  · exact Or.inl hmem

namespace Exporter

variable {e : Exporter} {s : Session} {t : Text} {q : Place}

/-- The places where an exporter puts files. -/
inductive Contains (e : Exporter) (s : Session) : Place → Prop
  /-- Right in the image folder. -/
  | asset {name : Text} (h : IsName name) : Contains e s (s.volume.placeOf e.imageFolder ++ [name])
  /-- In a directory below the folder of notes, with the ending of notes. -/
  | note {directory : List Text} {name : Text} (h : ∀ part ∈ directory, IsName part)
      (hname : IsName (name ++ ".md".toList)) :
      Contains e s (s.volume.placeOf e.outputFolder ++ (directory ++ [name ++ ".md".toList]))

/-- A page is delivered to such places. -/
lemma contains_of_mem_writtenPlaces (hworking : ∀ name ∈ s.volume.working, IsName name)
    (hmem : q ∈ e.writtenPlaces s (.ofText t)) : e.Contains s q := by
  rw [writtenPlaces] at hmem
  cases hconv : e.conversion s (.ofText t) with
  | none =>
      rw [hconv] at hmem
      cases hmem
  | some c =>
      obtain ⟨html, -, hend, hsource, hassets, -⟩ := conversion_eq_some hconv
      rw [hconv] at hmem
      rcases List.mem_append.mp hmem with hcopy | hnote
      · obtain ⟨asset, hasset, rfl⟩ := List.mem_map.mp hcopy
        rw [hassets] at hasset
        have hname := (asset_isNamed hworking hend hasset).1.fileName
        rw [assetTarget, Volume.placeOf_child _ hname]
        exact .asset hname
      · rw [List.mem_singleton] at hnote
        rw [hnote, hsource, placeOf_outputPath hworking (Path.ofText_plain t)]
        exact .note (relativeDirectory_names e s.workingPath hworking rfl (Path.ofText_plain t))
          (noteName_isName (.ofText t))

/-- **An export writes nowhere else**: whatever a page holds, wherever it lies and however its
export ends, every file that has changed, has come or has gone is one right in the image folder or a
note below the folder of notes. Logs apart: a file that they are written to was there before. -/
theorem exportFile_contained (hworking : ∀ name ∈ s.volume.working, IsName name)
    (hchanged : (e.exportFile s (.ofText t)).2.volume.disk.fileAt q ≠ s.volume.disk.fileAt q) :
    e.Contains s q ∨ q ∈ s.logFiles ∧ (s.volume.disk.fileAt q).isSome ∧
      ((e.exportFile s (.ofText t)).2.volume.disk.fileAt q).isSome :=
  ((e.exportFile_changes s _).fileAt hchanged).imp_left (contains_of_mem_writtenPlaces hworking)

/-- A page that refers to files above its directory. -/
def climbingPage : Text :=
  "<img src=../../x><img src=%2e%2e%2f/a/%2E./x><img src=/a/../../x>".toList

/-- A disk with the page in a directory, and the file in the root. -/
def climbingSession : Session := .quiet ⟨⟨[
  ([['a']], .directory), ([['a'], "My Page.html".toList], .file (utf8Encode climbingPage)),
  ([['x']], .file [1])]⟩, []⟩ .warning sampleMoment

set_option maxRecDepth 100000 in
/-- The file is copied right into the image folder. -/
theorem exportFile_contained_climbing :
    (sample.exportFile climbingSession (.ofText "a/My Page.html".toList)).2.volume.disk.fileAt
        ["output".toList, "images".toList, ['x']] = some [1] ∧
      sample.Contains climbingSession ["output".toList, "images".toList, ['x']] := by
  have hcopied : (sample.exportFile climbingSession
      (.ofText "a/My Page.html".toList)).2.volume.disk.fileAt
        ["output".toList, "images".toList, ['x']] = some [1] := by
    decide +kernel
  have hnew : climbingSession.volume.disk.fileAt ["output".toList, "images".toList, ['x']]
      = none := by
    decide +kernel
  have hcontained := exportFile_contained (e := sample) (s := climbingSession)
    (t := "a/My Page.html".toList) (by decide) (by rw [hcopied, hnew]; exact Option.some_ne_none _)
  exact ⟨hcopied, hcontained.resolve_right fun hlog => List.not_mem_nil hlog.1⟩

end Exporter

end PageNotes
