import PageNotes.Proofs.Disk.Walk
import PageNotes.Proofs.Reference.PageLink
import PageNotes.Proofs.Reference.Search
import PageNotes.Proofs.Text.Percent

/-!
The name of an asset in the reference to it. A published reference has the name that stands in the
reference of the page, encoded as it is there, while the copy has the name of the file. Both are one
name when decoding the first gives a name: no slash may have been encoded in it, and the path of the
reference must not end in a slash or in a segment of points.

* `Path.normalize_name`: a name at the end of a path stays there when the path is normalised;
* `Asset.IsNamed`: an asset that is named from the root down, with a name of its own;
* `referenceName`, `RewriteSettings.target_name`: the name in a reference and the name of the file
  that the reference means;
* `AssetSearch.visit_fileName`: the name in a published reference, decoded, and the name of the
  copy.
-/

namespace PageNotes

/-! ### The last name of a path -/

/-- A text is its last name, or it ends in a slash and this name. -/
lemma baseName_cases (t : Text) :
    t = baseName t ∨ ∃ directory, t = directory ++ '/' :: baseName t := by
  have hsplit : Text.trimEnd (· ≠ '/') t ++ baseName t = t := Text.trimEnd_append_takeEnd _ t
  have hhead := Text.trimStart_head (· ≠ '/') t.reverse
  rw [Text.trimStart] at hhead
  rw [Text.trimEnd] at hsplit
  cases hstart : t.reverse.dropWhile (· ≠ '/') with
  | nil =>
      rw [hstart] at hsplit
      exact Or.inl hsplit.symm
  | cons c rest =>
      rw [hstart] at hsplit hhead
      obtain rfl : c = '/' := by simpa using hhead c rfl
      rw [List.reverse_cons, List.append_assoc, List.singleton_append] at hsplit
      exact Or.inr ⟨_, hsplit.symm⟩

/-- The last name of a decoded path is the last name, decoded, unless a slash was encoded there. -/
lemma baseName_percentDecode {t : Text} (h : '/' ∉ percentDecode (baseName t)) :
    baseName (percentDecode t) = percentDecode (baseName t) := by
  have hself : baseName (percentDecode (baseName t)) = percentDecode (baseName t) :=
    Text.takeEnd_eq_self fun d hd => by
      rw [decide_eq_true_eq]
      rintro rfl
      exact h hd
  rcases baseName_cases t with hwhole | ⟨directory, hwhole⟩
  · rw [← hwhole] at hself ⊢
    exact hself
  · calc baseName (percentDecode t)
        = baseName (percentDecode directory ++ '/' :: percentDecode (baseName t)) := by
          rw [← percentDecode_slash, ← hwhole]
      _ = percentDecode (baseName t) := by
          rw [baseName, Text.takeEnd_append_cons (by decide)]
          exact hself

namespace Path

variable {name : Text}

lemma resolveParts_name (absolute : Bool) (above : List Text) (h : name ≠ ['.', '.'])
    {rest : List Text} :
    resolveParts absolute above (name :: rest) = resolveParts absolute (name :: above) rest := by
  rw [resolveParts.eq_def]
  exact if_neg h

/-- A name at the end is not resolved away. -/
lemma resolveParts_concat (absolute : Bool) (above parts : List Text) (h : name ≠ ['.', '.']) :
    resolveParts absolute above (parts ++ [name])
      = resolveParts absolute above parts ++ [name] := by
  induction parts generalizing above with
  | nil =>
      rw [List.nil_append, resolveParts_name _ _ h, resolveParts, resolveParts, List.reverse_cons]
  | cons part rest ih =>
      rw [List.cons_append, resolveParts.eq_def, resolveParts.eq_def absolute above (part :: rest)]
      dsimp only
      cases above with
      | nil => split_ifs <;> exact ih _
      | cons last higher =>
          dsimp only
          split_ifs <;> exact ih _

/-- A name at the end of a path stays there when the path is normalised. -/
lemma normalize_name {p : Path} {before : List Text} (hp : p.parts = before ++ [name])
    (h : name ≠ ['.', '.']) : p.normalize.name = name := by
  have hparts : p.normalize.parts = resolveParts p.isAbsolute [] before ++ [name] := by
    rw [normalize, hp]
    exact resolveParts_concat _ _ _ h
  rw [Path.name, hparts, List.getLast?_concat, Option.getD_some]

/-- A name at the end of a path is at its end from any directory. -/
lemma join_concat (p : Path) {q : Path} {before : List Text} (h : q.parts = before ++ [name]) :
    ∃ before, (p.join q).parts = before ++ [name] := by
  rw [join]
  split_ifs
  · exact ⟨before, h⟩
  · exact ⟨p.parts ++ before, by rw [h, List.append_assoc]⟩

end Path

/-! ### Names of assets -/

/-- A page that was read and a directory from the root down give references to files that are named
from the root down. -/
lemma RewriteSettings.target_names (settings : RewriteSettings)
    (habs : settings.working.isAbsolute = true)
    (hworking : ∀ name ∈ settings.working.parts, IsPlain name)
    (hdirectory : ∀ name ∈ settings.directory.parts, IsPlain name) (value : Text) :
    (settings.target value).isAbsolute = true ∧
      ∀ name ∈ (settings.target value).parts, IsName name := by
  have hjoin := Path.join_isAbsolute (q := .ofText (percentDecode (splitReference value).1))
    (Path.join_isAbsolute (q := settings.directory) habs)
  exact ⟨hjoin, Path.normalize_names hjoin
    (Path.join_plain (Path.join_plain hworking hdirectory) (Path.ofText_plain _))⟩

/-- An asset in a directory that is named from the root down. -/
structure Asset.IsNamed (a : Asset) : Prop where
  absolute : a.resolved.isAbsolute = true
  names : ∀ name ∈ a.resolved.parts, IsName name
  nonempty : a.resolved.parts ≠ []

lemma Asset.IsNamed.fileName {a : Asset} (h : a.IsNamed) : IsName a.fileName := by
  rw [Asset.fileName, Path.name, List.getLast?_eq_some_getLast h.nonempty]
  exact h.names _ (List.getLast_mem h.nonempty)

/-- The place of an asset ends in its name. -/
lemma Asset.IsNamed.place {a : Asset} (h : a.IsNamed) (v : Volume) :
    v.placeOf a.resolved = a.resolved.parts.dropLast ++ [a.fileName] := by
  rw [Volume.placeOf_names h.absolute h.names, Asset.fileName, Path.name,
    List.getLast?_eq_some_getLast h.nonempty]
  exact (List.dropLast_concat_getLast h.nonempty).symm

/-- A file that is there is not the root. -/
lemma Volume.ne_root_of_isFile {v : Volume} {p : Path} (habs : p.isAbsolute = true)
    (hnames : ∀ name ∈ p.parts, IsName name) (hfile : v.isFile p = .ok true) : p.parts ≠ [] := by
  obtain ⟨content, hread⟩ := isFile_eq_true.mp hfile
  obtain ⟨place, hloc, hat⟩ := read_eq_ok.mp hread
  have hplace := locate_eq_placeOf hloc
  rw [placeOf_names habs hnames] at hplace
  intro hroot
  rw [hroot] at hplace
  subst hplace
  cases hat

/-! ### References to assets -/

/-- The name in a reference, encoded as it stands there. -/
def referenceName (r : Text) : Text := baseName (splitReference r).1

/-- The file that a reference means has the name in the reference, decoded. -/
lemma RewriteSettings.target_name (settings : RewriteSettings) {value : Text}
    (h : IsName (percentDecode (referenceName value))) :
    (settings.target value).name = percentDecode (referenceName value) := by
  have hname := baseName_percentDecode (t := (splitReference value).1) h.1.2.2
  have hplain : IsPlain (baseName (percentDecode (splitReference value).1)) := by
    rw [hname]
    exact h.1
  obtain ⟨read, hread⟩ := Path.exists_parts_ofText hplain
  obtain ⟨joined, hjoined⟩ := Path.join_concat (settings.working.join settings.directory) hread
  rw [hname] at hjoined
  exact Path.normalize_name hjoined h.2

/-- **A published reference has the name of the copy**: a reference to a file that is there becomes
the prefix of assets with the name in the reference and all that follows the path of the reference.
Decoded, this name is that of the copy just when it is a name, that is neither holds a slash nor
stands for a directory. -/
theorem AssetSearch.visit_fileName {settings : RewriteSettings} {search : AssetSearch}
    {name key : String} {attributes : Attributes} {value : Text} {v : Volume}
    (habs : settings.working.isAbsolute = true)
    (hworking : ∀ name ∈ settings.working.parts, IsPlain name)
    (hdirectory : ∀ name ∈ settings.directory.parts, IsPlain name)
    (hopen : search.failure = none)
    (hcandidate : assetCandidate? name attributes = some (key, value))
    (hstore : settings.store (settings.target value) = .ok true)
    (hfile : v.isFile (settings.target value) = .ok true) :
    (search.visit settings name attributes).1.get? key
        = some (settings.assetPrefix ++ referenceName value ++ (splitReference value).2) ∧
      ∃ asset ∈ (search.visit settings name attributes).2.assets,
        asset.resolved = settings.target value ∧ IsName asset.fileName ∧
          (percentDecode (referenceName value) = asset.fileName ↔
            IsName (percentDecode (referenceName value))) := by
  obtain ⟨habs, hnames⟩ := settings.target_names habs hworking hdirectory value
  have hroot := Volume.ne_root_of_isFile habs hnames hfile
  have hway := visits settings search name attributes
  generalize search.visit settings name attributes = result at hway ⊢
  cases hway with
  | passed h => simp [hopen, hcandidate] at h
  | stopped h hstop =>
      obtain ⟨-, rfl⟩ := Prod.mk.inj (Option.some.inj (hcandidate.symm.trans h))
      cases hstore.symm.trans hstop
  | missing h _ hmissing =>
      obtain ⟨-, rfl⟩ := Prod.mk.inj (Option.some.inj (hcandidate.symm.trans h))
      cases hstore.symm.trans hmissing
  | found h =>
      obtain ⟨rfl, rfl⟩ := Prod.mk.inj (Option.some.inj (hcandidate.symm.trans h))
      refine ⟨Attributes.get?_set _ _ _, ?_⟩
      obtain ⟨asset, hmem, hresolved⟩ := exists_addAsset search.assets
        ⟨value, settings.target value, publicReference settings.assetPrefix value⟩
      have hnamed : asset.IsNamed := by
        refine ⟨?_, ?_, ?_⟩ <;> rwa [hresolved]
      refine ⟨asset, hmem, hresolved, hnamed.fileName, fun h => h ▸ hnamed.fileName, fun h => ?_⟩
      rw [Asset.fileName, hresolved]
      exact (settings.target_name h).symm

/-- A disk with one image, in a directory. -/
def photoVolume : Volume :=
  ⟨⟨[(["img".toList], .directory), (["img".toList, "my photo.png".toList], .file [1])]⟩, []⟩

/-- How the references of a page in the root of this disk are rewritten. -/
def photoSettings : RewriteSettings :=
  ⟨[], "/a/".toList, ⟨.slash, []⟩, ⟨.relative, []⟩, photoVolume.isFile⟩

/-- A reference with encoded characters and a query. -/
theorem AssetSearch.visit_fileName_encoded :
    (start.visit photoSettings "img" [("src", "./img//my%20photo%2Epng?size=1/2".toList)]).1.get?
        "src" = some "/a/my%20photo%2Epng?size=1/2".toList ∧
      ∃ asset ∈ (start.visit photoSettings "img"
          [("src", "./img//my%20photo%2Epng?size=1/2".toList)]).2.assets,
        percentDecode "my%20photo%2Epng".toList = asset.fileName := by
  have hname : referenceName "./img//my%20photo%2Epng?size=1/2".toList
      = "my%20photo%2Epng".toList := by decide +kernel
  obtain ⟨hpublished, asset, hmem, -, -, hdecoded⟩ := @visit_fileName photoSettings start "img"
    "src" [("src", "./img//my%20photo%2Epng?size=1/2".toList)]
    "./img//my%20photo%2Epng?size=1/2".toList photoVolume rfl (by decide) (by decide) rfl
    (by decide +kernel) (by decide +kernel) (by decide +kernel)
  rw [hname] at hdecoded hpublished
  refine ⟨hpublished.trans (by decide +kernel), asset, hmem, hdecoded.mpr (by decide +kernel)⟩

/-- With an encoded slash the reference has more than the name of the copy. -/
example :
    (AssetSearch.start.visit photoSettings "img" [("src", "img%2Fmy photo.png".toList)]).1
        = [("src", "/a/img%2Fmy photo.png".toList)] ∧
      (AssetSearch.start.visit photoSettings "img"
          [("src", "img%2Fmy photo.png".toList)]).2.assets.map Asset.fileName
        = ["my photo.png".toList] := by
  decide +kernel

end PageNotes
