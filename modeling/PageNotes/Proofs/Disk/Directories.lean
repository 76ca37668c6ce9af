import Mathlib.Data.List.Induction
import PageNotes.Proofs.Disk.Changes

/-!
Making directories one below another. Below a directory that is there, the directories along some
names are made up to the first name that is too long or stands for a file; whether some of them were
there before makes no difference in the end. That is what makes this operation commute with itself.

* `Disk.openNames`: the names along which directories can be made;
* `Disk.along`: the directories along names, as a change of the disk;
* `Volume.makeDirectory_along`: making a directory is that change, and succeeds when all names are
  open;
* `Volume.makeDirectory_ne_notFound`: no directory is missing in the end.
-/

namespace PageNotes

/-! ### Texts of paths -/

lemma length_utf8Encode_le {s t : Text} (h : s.Sublist t) :
    (utf8Encode s).length ≤ (utf8Encode t).length := by
  induction h with
  | slnil => exact Nat.le_refl _
  | cons c _ ih =>
      simp only [utf8Encode, List.flatMap_cons, List.length_append] at ih ⊢
      omega
  | cons_cons c _ ih =>
      simp only [utf8Encode, List.flatMap_cons, List.length_append] at ih ⊢
      omega

lemma length_utf8Encode_pos {t : Text} (h : t ≠ []) : 1 ≤ (utf8Encode t).length := by
  obtain ⟨c, cs, rfl⟩ := List.exists_cons_of_ne_nil h
  have hc : 1 ≤ (utf8Bytes c).length := by
    unfold utf8Bytes
    dsimp only
    split_ifs <;> simp
  simp only [utf8Encode, List.flatMap_cons, List.length_append]
  omega

lemma join_append (sep : Text) (parts more : List Text) :
    Text.join sep parts <+: Text.join sep (parts ++ more) := by
  induction parts with
  | nil => simp [Text.join]
  | cons part parts ih =>
      cases parts with
      | nil => cases more <;> simp [Text.join, List.append_assoc]
      | cons next parts => simpa [Text.join, List.append_assoc] using ih

namespace Path

/-- No null character and not too long. -/
def Fits (p : Path) : Prop :=
  p.hasNull = false ∧ (utf8Encode p.toText).length ≤ Disk.pathLimit

/-- A path fits if one below it does. -/
lemma Fits.of_append {root : PathRoot} {parts names : List Text} (hn : ∀ name ∈ names, IsName name)
    (h : Fits ⟨root, parts ++ names⟩) : Fits ⟨root, parts⟩ := by
  obtain ⟨hnull, hlen⟩ := h
  refine ⟨?_, Nat.le_trans ?_ hlen⟩
  · rw [hasNull, List.any_append, Bool.or_eq_false_iff] at hnull
    exact hnull.1
  · rw [toText, toText]
    dsimp only
    by_cases hparts : root = .relative ∧ parts = []
    · obtain ⟨rfl, rfl⟩ := hparts
      cases names with
      | nil => simp
      | cons name names =>
          rw [if_pos ⟨rfl, rfl⟩, if_neg (by simp)]
          have hname : 1 ≤ (utf8Encode name).length := length_utf8Encode_pos (hn name (by simp)).1.1
          have hsub : name.Sublist (Text.join ['/'] (name :: names)) := by
            have := join_append ['/'] [name] names
            rw [Text.join] at this
            exact this.sublist
          have hle := length_utf8Encode_le hsub
          simp only [List.nil_append, PathRoot.toText]
          have hone : (utf8Encode ['.']).length = 1 := by decide
          omega
    · have hboth : ¬(root = .relative ∧ parts ++ names = []) :=
        fun h => hparts ⟨h.1, (List.append_eq_nil_iff.mp h.2).1⟩
      rw [if_neg hparts, if_neg hboth]
      exact length_utf8Encode_le
        ((List.Sublist.refl _).append (join_append ['/'] parts names).sublist)

end Path

/-! ### Names below a place -/

namespace Disk

variable {d d' : Disk} {place : Place} {seen seen' : Place → Option Entry}

/-- A name that an entry may have. -/
def NameFits (name : Text) : Prop := (utf8Encode name).length ≤ nameLimit

instance (name : Text) : Decidable (NameFits name) :=
  inferInstanceAs (Decidable ((utf8Encode name).length ≤ nameLimit))

/-- Whether a file stands there. -/
def isFileEntry : Option Entry → Bool
  | some (.file _) => true
  | _ => false

/-- The names below a place along which directories can be made: those before the first that is too
long or stands for a file. -/
def openNames (seen : Place → Option Entry) (place : Place) : List Text → List Text
  | [] => []
  | name :: rest =>
    if NameFits name ∧ isFileEntry (seen (place ++ [name])) = false then
      name :: openNames seen (place ++ [name]) rest
    else []

/-- The directories along names below a place, the place included. -/
def along (place : Place) (names : List Text) (q : Place) : Option Entry :=
  if place <+: q ∧ q <+: place ++ names then some .directory else none

lemma openNames_isPrefix (seen : Place → Option Entry) (place : Place) (names : List Text) :
    openNames seen place names <+: names := by
  induction names generalizing place with
  | nil => exact List.prefix_rfl
  | cons name rest ih =>
      rw [openNames]
      split_ifs
      · exact (List.prefix_cons_inj name).mpr (ih _)
      · exact List.nil_prefix

/-- Open names depend on nothing but where files stand along them. -/
lemma openNames_congr {names : List Text}
    (h : ∀ q, place <+: q → q <+: place ++ names → isFileEntry (seen' q) = isFileEntry (seen q)) :
    openNames seen' place names = openNames seen place names := by
  induction names generalizing place with
  | nil => rfl
  | cons name rest ih =>
      have hhere := h (place ++ [name]) (by simp) (by simp)
      have hrest := @ih (place ++ [name]) fun q hq hq' =>
        h q ((List.prefix_append place [name]).trans hq) (by simpa using hq')
      rw [openNames, openNames, hhere, hrest]

/-- The same names are open where files stay files and none has come along the open names. -/
lemma openNames_later {names : List Text}
    (hfile : ∀ q, isFileEntry (seen q) = true → isFileEntry (seen' q) = true)
    (hopen : ∀ q, place <+: q → q <+: place ++ openNames seen place names →
      isFileEntry (seen' q) = false) :
    openNames seen' place names = openNames seen place names := by
  induction names generalizing place with
  | nil => rfl
  | cons name rest ih =>
      rw [openNames] at hopen ⊢
      rw [openNames]
      by_cases hname : NameFits name ∧ isFileEntry (seen (place ++ [name])) = false
      · rw [if_pos hname] at hopen ⊢
        have hhere := hopen (place ++ [name]) (by simp) (by simp)
        rw [if_pos ⟨hname.1, hhere⟩, ih fun q hq hq' =>
          hopen q ((List.prefix_append place [name]).trans hq) (by simpa using hq')]
      · rw [if_neg hname, if_neg]
        rintro ⟨hfits, hnone⟩
        refine hname ⟨hfits, Bool.eq_false_iff.mpr fun hthere => ?_⟩
        rw [hfile _ hthere] at hnone
        cases hnone

lemma openNames_append (seen : Place → Option Entry) (place : Place) (names more : List Text) :
    openNames seen place (names ++ more) =
      if openNames seen place names = names then names ++ openNames seen (place ++ names) more
      else openNames seen place names := by
  induction names generalizing place with
  | nil => simp [openNames]
  | cons name rest ih =>
      rw [List.cons_append, openNames, openNames]
      by_cases h : NameFits name ∧ isFileEntry (seen (place ++ [name])) = false
      · rw [if_pos h, if_pos h, ih]
        by_cases hrest : openNames seen (place ++ [name]) rest = rest
        · simp [hrest]
        · simp [hrest]
      · rw [if_neg h, if_neg h, if_neg (by simp)]

/-- Names are open up to one that does not fit or stands for a file. -/
lemma openNames_blocked {before after : List Text} {name : Text}
    (hopen : openNames seen place before = before)
    (h : ¬(NameFits name ∧ isFileEntry (seen (place ++ before ++ [name])) = false)) :
    openNames seen place (before ++ name :: after) = before := by
  rw [openNames_append, if_pos hopen, openNames, if_neg h, List.append_nil]

/-- Open names fit. -/
lemma fits_of_open {names : List Text} (h : openNames seen place names = names) :
    ∀ name ∈ names, NameFits name := by
  induction names generalizing place with
  | nil => simp
  | cons name rest ih =>
      rw [openNames] at h
      split_ifs at h with hname
      intro n hn
      rcases List.mem_cons.mp hn with rfl | hn
      · exact hname.1
      · exact ih (List.cons.inj h).2 n hn

/-- No file stands along open names. -/
lemma isFileEntry_of_open {names : List Text} (h : isFileEntry (seen place) = false) {q : Place}
    (hq : place <+: q) (hq' : q <+: place ++ openNames seen place names) :
    isFileEntry (seen q) = false := by
  induction names generalizing place q with
  | nil =>
      rw [openNames, List.append_nil] at hq'
      rwa [hq'.eq_of_length_le hq.length_le]
  | cons name rest ih =>
      obtain ⟨more, rfl⟩ := hq
      rw [openNames] at hq'
      split_ifs at hq' with hopen
      · cases more with
        | nil => rwa [List.append_nil]
        | cons next more =>
            rw [List.prefix_append_right_inj, List.cons_prefix_cons] at hq'
            obtain ⟨rfl, hmore⟩ := hq'
            have hsplit : place ++ next :: more = place ++ [next] ++ more := by simp
            rw [hsplit]
            exact ih hopen.2 (List.prefix_append _ _)
              ((List.prefix_append_right_inj _).mpr hmore)
      · rw [List.append_nil] at hq'
        rwa [hq'.eq_of_length_le (List.prefix_append _ _).length_le]

/-! ### Walking along names -/

/-- All places along names below a place are directories. -/
def AllDirectories (d : Disk) (place : Place) (names : List Text) : Prop :=
  ∀ q, place <+: q → q <+: place ++ names → d.find? q = some .directory

lemma AllDirectories.last {names : List Text} (h : d.AllDirectories place names) :
    d.find? (place ++ names) = some .directory :=
  h _ (List.prefix_append place names) List.prefix_rfl

lemma AllDirectories.cons {name : Text} {names : List Text} (hdir : d.find? place = some .directory)
    (h : d.AllDirectories (place ++ [name]) names) : d.AllDirectories place (name :: names) := by
  intro q hq hq'
  obtain ⟨more, rfl⟩ := hq
  cases more with
  | nil => simpa using hdir
  | cons next more =>
      rw [List.prefix_append_right_inj, List.cons_prefix_cons] at hq'
      obtain ⟨rfl, hmore⟩ := hq'
      have hsplit : place ++ next :: more = place ++ [next] ++ more := by simp
      rw [hsplit]
      exact h _ (List.prefix_append _ _) ((List.prefix_append_right_inj _).mpr hmore)

lemma AllDirectories.open {names : List Text} (h : d.AllDirectories place names)
    (hfits : ∀ name ∈ names, NameFits name) : openNames d.find? place names = names := by
  induction names generalizing place with
  | nil => rfl
  | cons name rest ih =>
      have hhere : d.find? (place ++ [name]) = some .directory := h _ (by simp) (by simp)
      have hrest : d.AllDirectories (place ++ [name]) rest := fun q hq hq' =>
        h q ((List.prefix_append place [name]).trans hq) (by simpa using hq')
      rw [openNames, if_pos ⟨hfits name (by simp), by rw [hhere]; rfl⟩,
        ih hrest fun n hn => hfits n (List.mem_cons_of_mem _ hn)]

/-- Directories that are all there are no change. -/
lemma AllDirectories.along {names : List Text} (h : d.AllDirectories place names) (q : Place) :
    (Disk.along place names q).or (d.find? q) = d.find? q := by
  rw [Disk.along]
  split_ifs with hq
  · rw [h q hq.1 hq.2]
    rfl
  · rfl

/-- Along names that fit one walks to the last, when those before it are directories. -/
lemma walk_allDirectories {names : List Text} (hnames : ∀ name ∈ names, IsName name)
    (hfits : ∀ name ∈ names, NameFits name) (h : d.AllDirectories place names) :
    d.walk place names = .ok (place ++ names) := by
  induction names generalizing place with
  | nil => simp [walk]
  | cons name rest ih =>
      have hdir : d.find? place = some .directory := h place List.prefix_rfl (by simp)
      have hstep := stepTo_name place (hnames name List.mem_cons_self)
      have henter : d.enter place name = .ok (place ++ [name]) :=
        enter_eq_ok.mpr ⟨hdir, hfits name (by simp), hstep.symm⟩
      have hrest : d.AllDirectories (place ++ [name]) rest := fun q hq hq' =>
        h q ((List.prefix_append place [name]).trans hq) (by simpa using hq')
      rw [walk, henter]
      dsimp only
      rw [ih (fun n hn => hnames n (List.mem_cons_of_mem _ hn))
        (fun n hn => hfits n (List.mem_cons_of_mem _ hn)) hrest, List.append_assoc,
        List.singleton_append]

lemma enter_missing {name : Text} (h : d.find? place = none) :
    d.enter place name = .error .notFound := by
  rw [enter, h]

lemma enter_file {entry : Entry} {name : Text} (h : d.find? place = some entry)
    (hne : entry ≠ .directory) : d.enter place name = .error .notDirectory := by
  rw [enter, h]
  cases entry with
  | directory => exact absurd rfl hne
  | file content => rfl

lemma enter_long {name : Text} (h : d.find? place = some .directory) (hname : ¬NameFits name) :
    d.enter place name = .error .nameTooLong := by
  rw [enter, h]
  exact if_pos (Nat.lt_of_not_le hname)

/-- How far one comes from a directory along names. -/
inductive Reaches (d : Disk) (place : Place) : List Text → Prop
  | all {names : List Text} (h : d.AllDirectories place names)
      (hfits : ∀ name ∈ names, NameFits name) : Reaches d place names
  | stops {before after : List Text} {name : Text} (h : d.AllDirectories place before)
      (hfits : ∀ name ∈ before, NameFits name)
      (hno : ¬(NameFits name ∧ d.find? (place ++ before ++ [name]) = some .directory)) :
      Reaches d place (before ++ name :: after)

lemma reaches (hdir : d.find? place = some .directory) (names : List Text) :
    d.Reaches place names := by
  induction names generalizing place with
  | nil =>
      refine .all (fun q hq hq' => ?_) (by simp)
      have hlen := hq'.eq_of_length_le (by simpa using hq.length_le)
      rw [hlen, List.append_nil]
      exact hdir
  | cons name rest ih =>
      by_cases hname : NameFits name ∧ d.find? (place ++ [name]) = some .directory
      · have hrest := ih hname.2
        generalize rest = names at hrest
        cases hrest with
        | all h hfits => exact .all (h.cons hdir) (by simpa using ⟨hname.1, hfits⟩)
        | @stops before after last h hfits hno =>
            rw [← List.cons_append]
            exact .stops (h.cons hdir) (by simpa using ⟨hname.1, hfits⟩) (by simpa using hno)
      · have hhere : d.AllDirectories place [] := fun q hq hq' => by
          rw [hq'.eq_of_length_le (by simpa using hq.length_le), List.append_nil]
          exact hdir
        exact Reaches.stops hhere (by simp) (by simpa using hname)

end Disk

namespace Volume

open Disk (NameFits isFileEntry openNames)

variable {v : Volume} {root : PathRoot} {base : List Text} {place : Place} {names : List Text}

/-- What a path below a place means. -/
lemma locate_below (hbase : v.locate ⟨root, base⟩ = .ok place)
    (hfits : Path.Fits ⟨root, base ++ names⟩) :
    v.locate ⟨root, base ++ names⟩ =
      match v.disk.walk place names with
      | .ok q => .ok q
      | .error cause => .error (.refused cause ⟨root, base ++ names⟩) := by
  obtain ⟨hnull, hlen⟩ := hfits
  obtain ⟨-, -, hwalk⟩ := locate_eq_ok.mp hbase
  have hall : v.disk.walk (v.startOf ⟨root, base⟩) (base ++ names) = v.disk.walk place names := by
    rw [Disk.walk_append, hwalk]
  have hstart : v.disk.walk
      (if Path.isAbsolute ⟨root, base ++ names⟩ then [] else v.working) (base ++ names) =
        v.disk.walk place names := hall
  cases hway : v.disk.walk place names with
  | ok q =>
      rw [hway] at hstart
      rw [locate, hnull, if_neg (by simp), if_neg (Nat.not_lt.mpr hlen), hstart]
  | error cause =>
      rw [hway] at hstart
      rw [locate, hnull, if_neg (by simp), if_neg (Nat.not_lt.mpr hlen), hstart]

/-- An error stays where the directory is not there. -/
lemma unlessThere_missing {p : Path} {e : DiskError} (he : e ≠ .nullCharacter)
    (h : v.isDirectory p ≠ .ok true) :
    ∃ e', v.unlessThere p e = .error e' ∧ e' ≠ .nullCharacter := by
  unfold unlessThere
  split
  · exact absurd rfl he
  · split
    · exact absurd ‹_› h
    · exact ⟨e, rfl, he⟩
    · rename_i e' hask
      refine ⟨e', rfl, ?_⟩
      rintro rfl
      rw [isDirectory, ask] at hask
      split at hask <;> simp_all

/-- An error is taken back where the directory is there. -/
lemma unlessThere_there {p : Path} {e : DiskError} (he : e ≠ .nullCharacter)
    (h : v.isDirectory p = .ok true) : v.unlessThere p e = .ok () := by
  unfold unlessThere
  split
  · exact absurd rfl he
  · rw [h]

/-- The making of a directory along names: those that are open are made, and it succeeds if these
are all. -/
structure MakesAlong (v : Volume) (place : Place) (names : List Text)
    (result : Except DiskError Unit × Volume) : Prop where
  working : result.2.working = v.working
  found : ∀ q, result.2.disk.find? q =
    (Disk.along place (openNames v.disk.find? place names) q).or (v.disk.find? q)
  succeeds : result.1 = .ok () ↔ openNames v.disk.find? place names = names
  noNull : result.1 ≠ .error .nullCharacter

/-- Nothing is made where all that is open is there. -/
lemma MakesAlong.unchanged {r : Except DiskError Unit}
    (h : v.disk.AllDirectories place (openNames v.disk.find? place names))
    (hr : r = .ok () ↔ openNames v.disk.find? place names = names)
    (hnull : r ≠ .error .nullCharacter) : MakesAlong v place names (r, v) where
  working := rfl
  found q := (h.along q).symm
  succeeds := hr
  noNull := hnull

/-- The making along some names and then along more. -/
lemma MakesAlong.trans {v' : Volume} {more : List Text} {result : Except DiskError Unit × Volume}
    (h : MakesAlong v place names (.ok (), v')) (hopen : openNames v.disk.find? place names = names)
    (hadds : Disk.AddsDirectories v.disk v'.disk)
    (h' : MakesAlong v' place (names ++ more) result) :
    MakesAlong v place (names ++ more) result := by
  have hsame : openNames v'.disk.find? place (names ++ more)
      = openNames v.disk.find? place (names ++ more) := by
    refine Disk.openNames_congr fun q _ _ => ?_
    rcases hadds q with hq | ⟨hnone, hdir⟩
    · rw [hq]
    · rw [hnone, hdir]
      rfl
  refine ⟨h'.working.trans h.working, fun q => ?_, hsame ▸ h'.succeeds, h'.noNull⟩
  rw [h'.found q, h.found q, hsame, hopen, Disk.openNames_append, if_pos hopen]
  -- the directories of the first part are among those of the whole
  by_cases hq : place <+: q ∧ q <+: place ++ names
  · have hq' : q <+: place ++ (names ++ openNames v.disk.find? (place ++ names) more) := by
      rw [← List.append_assoc]
      exact hq.2.trans (List.prefix_append _ _)
    rw [Disk.along, if_pos ⟨hq.1, hq'⟩]
    rfl
  · rw [Disk.along.eq_def place names q, if_neg hq]
    rfl

/-- Where the disk refuses to make the last directory, it is as before. -/
lemma makeLast_refused {p : Path} {e : DiskError} {before : List Text}
    (hone : v.makeOne p = .error e) (hmissing : ∀ q, e ≠ .refused .notFound q)
    (hnull : e ≠ .nullCharacter) (hnot : v.isDirectory p ≠ .ok true)
    (h : v.disk.AllDirectories place before)
    (hopen : openNames v.disk.find? place names = before) (hne : before ≠ names) :
    MakesAlong v place names (v.makeLast p) := by
  obtain ⟨e', he', hnull'⟩ := unlessThere_missing hnull hnot
  have hlast : v.makeLast p = (.error e', v) := by
    rw [makeLast, hone, ← he']
    split <;> simp_all
  rw [hlast]
  subst hopen
  exact .unchanged h (by simpa using hne) (by simpa using hnull')

/-- The same where the path means nothing. -/
lemma makeLast_unlocated {p : Path} {cause : DiskCause} {before : List Text}
    (hloc : v.locate p = .error (.refused cause p)) (hcause : cause ≠ .notFound)
    (h : v.disk.AllDirectories place before)
    (hopen : openNames v.disk.find? place names = before) (hne : before ≠ names) :
    MakesAlong v place names (v.makeLast p) := by
  have hone : v.makeOne p = .error (.refused cause p) := by rw [makeOne, hloc]
  refine makeLast_refused hone (by simp [hcause]) (by simp) ?_ h hopen hne
  rw [ne_eq, isDirectory_eq_true, hloc]
  simp

/-- The last directory is made where nothing stands. -/
lemma makeLast_made {p : Path} {before : List Text} {last : Text}
    (hloc : v.locate p = .ok (place ++ before ++ [last]))
    (hnone : v.disk.find? (place ++ before ++ [last]) = none)
    (h : v.disk.AllDirectories place before)
    (hopen : openNames v.disk.find? place (before ++ [last]) = before ++ [last]) :
    MakesAlong v place (before ++ [last]) (v.makeLast p) := by
  have hone := makeOne_eq_ok.mpr ⟨_, hloc, hnone, rfl⟩
  have hlast : v.makeLast p
      = (.ok (), v.withDisk (v.disk.put (place ++ before ++ [last]) .directory)) := by
    rw [makeLast, hone]
  rw [hlast]
  refine ⟨rfl, fun q => ?_, by simp [hopen], by simp⟩
  rw [hopen, withDisk_disk, Disk.find?_put _ (by simp), Disk.along]
  by_cases hq : q = place ++ before ++ [last]
  · subst hq
    simp
  · rw [if_neg hq]
    split_ifs with hbetween
    · obtain ⟨hbelow, habove⟩ := hbetween
      rw [← List.append_assoc, List.prefix_concat_iff] at habove
      rw [h q hbelow (habove.resolve_left hq)]
      rfl
    · rfl

/-- Making the last directory, when nothing is missing above it. -/
lemma makeLast_along (hbase : v.locate ⟨root, base⟩ = .ok place)
    (hdir : v.disk.find? place = some .directory) (hnames : ∀ name ∈ names, IsName name)
    (hfits : Path.Fits ⟨root, base ++ names⟩)
    (hmade : ∀ q, v.makeOne ⟨root, base ++ names⟩ ≠ .error (.refused .notFound q)) :
    MakesAlong v place names (v.makeLast ⟨root, base ++ names⟩) := by
  have hloc := locate_below hbase hfits
  have hreach := Disk.reaches hdir names
  cases hreach with
  | all h hnameFits =>
      rw [Disk.walk_allDirectories hnames hnameFits h] at hloc
      have hthere : v.isDirectory ⟨root, base ++ names⟩ = .ok true :=
        isDirectory_eq_true.mpr ⟨_, hloc, h.last⟩
      have hone : v.makeOne ⟨root, base ++ names⟩
          = .error (.refused .alreadyExists ⟨root, base ++ names⟩) := by
        rw [makeOne, hloc]
        dsimp only
        rw [h.last]
      have hopen := h.open hnameFits
      rw [makeLast, hone]
      dsimp only
      rw [unlessThere_there (by simp) hthere]
      exact .unchanged (hopen.symm ▸ h) (by simp [hopen]) (by simp)
  | @stops before after last h hbefore hno =>
      have hopen := h.open hbefore
      have hlast := Disk.stepTo_name (place ++ before) (hnames last (by simp))
      rw [Disk.walk_append, Disk.walk_allDirectories
        (fun n hn => hnames n (List.mem_append_left _ hn)) hbefore h] at hloc
      dsimp only at hloc
      rw [Disk.walk] at hloc
      by_cases hname : NameFits last
      · rw [Disk.enter_eq_ok.mpr ⟨h.last, hname, hlast.symm⟩] at hloc
        dsimp only at hloc
        cases hentry : v.disk.find? (place ++ before ++ [last]) with
        | none =>
            have hopens : openNames v.disk.find? place (before ++ [last]) = before ++ [last] := by
              rw [Disk.openNames_append, if_pos hopen, openNames,
                if_pos ⟨hname, by rw [hentry]; rfl⟩, openNames]
            cases after with
            | nil => exact makeLast_made hloc hentry h hopens
            | cons next rest =>
                rw [Disk.walk, Disk.enter_missing hentry] at hloc
                exact absurd (by rw [makeOne, hloc]) (hmade _)
        | some entry =>
            have hfile : entry ≠ .directory := fun hd => hno ⟨hname, hd ▸ hentry⟩
            have hblocked : openNames v.disk.find? place (before ++ last :: after) = before := by
              refine Disk.openNames_blocked hopen fun hcan => ?_
              rw [hentry] at hcan
              cases entry with
              | directory => exact hfile rfl
              | file content => exact Bool.noConfusion hcan.2
            cases after with
            | nil =>
                have hone : v.makeOne ⟨root, base ++ (before ++ [last])⟩ = .error
                    (.refused .alreadyExists ⟨root, base ++ (before ++ [last])⟩) := by
                  rw [makeOne, hloc]
                  dsimp only [Disk.walk]
                  rw [hentry]
                refine makeLast_refused hone (by simp) (by simp) ?_ h hblocked (by simp)
                · rw [ne_eq, isDirectory_eq_true, hloc]
                  rintro ⟨q, hq, hq'⟩
                  cases hq
                  exact hfile (Option.some.inj (hentry.symm.trans hq'))
            | cons next rest =>
                rw [Disk.walk, Disk.enter_file hentry hfile] at hloc
                exact makeLast_unlocated hloc (by simp) h hblocked (by simp)
      · rw [Disk.enter_long h.last hname] at hloc
        exact makeLast_unlocated hloc (by simp) h
          (Disk.openNames_blocked hopen fun hcan => hname hcan.1) (by simp)

/-- The last directory is not missing what it lies in when all above it are there. -/
lemma makeOne_ne_notFound (hbase : v.locate ⟨root, base⟩ = .ok place)
    {before : List Text} {last : Text} (hnames : ∀ name ∈ before, IsName name)
    (hnameFits : ∀ name ∈ before, NameFits name) (h : v.disk.AllDirectories place before)
    (hfits : Path.Fits ⟨root, base ++ (before ++ [last])⟩) (q : Path) :
    v.makeOne ⟨root, base ++ (before ++ [last])⟩ ≠ .error (.refused .notFound q) := by
  have hloc := locate_below hbase hfits
  rw [Disk.walk_append, Disk.walk_allDirectories hnames hnameFits h] at hloc
  dsimp only [Disk.walk] at hloc
  by_cases hlast : NameFits last
  · rw [Disk.enter_eq_ok.mpr ⟨h.last, hlast, rfl⟩] at hloc
    rw [makeOne, hloc]
    dsimp only
    split <;> simp
  · rw [Disk.enter_long h.last hlast] at hloc
    rw [makeOne, hloc]
    simp

/-- A directory that is there is not made. -/
lemma makeBelow_there {above : List Text}
    (hthere : v.isDirectory ⟨root, above.reverse⟩ = .ok true) :
    v.makeBelow root above = (.ok (), v) := by
  cases above with
  | nil =>
      rw [List.reverse_nil] at hthere
      rw [makeBelow, unlessThere_there (by simp) hthere]
  | cons name above =>
      obtain ⟨place, hloc, hdir⟩ := isDirectory_eq_true.mp hthere
      have hone : v.makeOne ⟨root, (name :: above).reverse⟩
          = .error (.refused .alreadyExists ⟨root, (name :: above).reverse⟩) := by
        rw [makeOne, hloc]
        dsimp only
        rw [hdir]
      rw [makeBelow, hone]
      dsimp only
      rw [unlessThere_there (by simp) hthere]

/-- Making a directory below one that is there is the making along its names. -/
lemma makeBelow_along (hbase : v.locate ⟨root, base⟩ = .ok place)
    (hdir : v.disk.find? place = some .directory) (hnames : ∀ name ∈ names, IsName name)
    (hfits : Path.Fits ⟨root, base ++ names⟩) :
    MakesAlong v place names (v.makeBelow root (base ++ names).reverse) := by
  -- from the last name up, as the directory above is only made when it is missing
  induction names using List.reverseRecOn with
  | nil =>
      rw [List.append_nil, makeBelow_there (isDirectory_eq_true.mpr
        ⟨place, by rwa [List.reverse_reverse], hdir⟩)]
      refine .unchanged (fun q hq hq' => ?_) (by simp [openNames]) (by simp)
      rw [openNames, List.append_nil] at hq'
      rw [hq'.eq_of_length_le hq.length_le]
      exact hdir
  | append_singleton init last ih =>
      have hinit : ∀ name ∈ init, IsName name := fun n hn => hnames n (List.mem_append_left _ hn)
      have hinitFits : Path.Fits ⟨root, base ++ init⟩ :=
        Path.Fits.of_append (fun n hn => hnames n (List.mem_append_right _ hn))
          (by rwa [List.append_assoc])
      have ih := ih hinit hinitFits
      have hrev : (base ++ (init ++ [last])).reverse = last :: (base ++ init).reverse := by simp
      have hpath : (⟨root, (last :: (base ++ init).reverse).reverse⟩ : Path)
          = ⟨root, base ++ (init ++ [last])⟩ := by simp
      have hway := makesBelow v root last (base ++ init).reverse
      rw [hpath] at hway
      rw [hrev]
      generalize v.makeBelow root (last :: (base ++ init).reverse) = result at hway ⊢
      cases hway with
      | direct h => exact makeLast_along hbase hdir hnames hfits h
      | stopped h habove =>
          rw [habove] at ih
          have hne : openNames v.disk.find? place init ≠ init := fun hopen => by
            simpa using ih.succeeds.mpr hopen
          have hsame := Disk.openNames_append v.disk.find? place init [last]
          rw [if_neg hne] at hsame
          refine ⟨ih.working, fun q => by rw [hsame]; exact ih.found q, ?_, ih.noNull⟩
          simp only [reduceCtorEq, false_iff, hsame]
          intro heq
          have hlen := (Disk.openNames_isPrefix v.disk.find? place init).length_le
          rw [heq, List.length_append, List.length_singleton] at hlen
          omega
      | @after _ v' h habove =>
          rw [habove] at ih
          have hopen := ih.succeeds.mp rfl
          have hadds := (makeBelow_adds v root (base ++ init).reverse).2
          rw [habove] at hadds
          have hall : v'.disk.AllDirectories place init := fun q hq hq' => by
            rw [ih.found q, hopen, Disk.along, if_pos ⟨hq, hq'⟩]
            rfl
          have hbase' := locate_mono ih.working hadds.keepsDirectories hbase
          have hmade := makeOne_ne_notFound hbase' hinit (Disk.fits_of_open hopen) hall hfits
          have hlast := makeLast_along hbase' (hadds.keepsDirectories _ hdir) hnames hfits hmade
          exact ih.trans hopen hadds hlast

lemma makeDirectory_along (hbase : v.locate ⟨root, base⟩ = .ok place)
    (hdir : v.disk.find? place = some .directory) (hnames : ∀ name ∈ names, IsName name)
    (hfits : Path.Fits ⟨root, base ++ names⟩) :
    MakesAlong v place names (v.makeDirectory ⟨root, base ++ names⟩) :=
  makeBelow_along hbase hdir hnames hfits

/-- A directory that is there is not made. -/
lemma makeDirectory_there {p : Path} (h : v.isDirectory p = .ok true) :
    v.makeDirectory p = (.ok (), v) :=
  makeBelow_there (by rwa [List.reverse_reverse])

/-- Nothing is made where a path does not fit. -/
lemma makeDirectory_unfit {p : Path} (h : ¬p.Fits) :
    ∃ e, v.makeDirectory p = (.error e, v) ∧ (e = .nullCharacter ↔ p.hasNull = true) := by
  obtain ⟨root, parts⟩ := p
  obtain ⟨e, hloc, hnull, hmissing⟩ : ∃ e, v.locate ⟨root, parts⟩ = .error e ∧
      (e = .nullCharacter ↔ Path.hasNull ⟨root, parts⟩ = true) ∧
        ∀ q, e ≠ .refused .notFound q := by
    rw [locate]
    by_cases hnull : Path.hasNull ⟨root, parts⟩ = true
    · exact ⟨.nullCharacter, by rw [if_pos hnull], by simp [hnull], by simp⟩
    · have hlen : Disk.pathLimit < (utf8Encode (Path.toText ⟨root, parts⟩)).length :=
        Nat.lt_of_not_le fun hle => h ⟨by simpa using hnull, hle⟩
      exact ⟨.refused .nameTooLong ⟨root, parts⟩, by rw [if_neg hnull, if_pos hlen],
        by simp [hnull], by simp⟩
  have hone : v.makeOne ⟨root, parts⟩ = .error e := by rw [makeOne, hloc]
  have hnot : v.isDirectory ⟨root, parts⟩ ≠ .ok true := by
    rw [ne_eq, isDirectory_eq_true, hloc]
    simp
  have hlast : ∃ e', v.unlessThere ⟨root, parts⟩ e = .error e' ∧
      (e' = .nullCharacter ↔ Path.hasNull ⟨root, parts⟩ = true) := by
    by_cases he : e = .nullCharacter
    · subst he
      exact ⟨.nullCharacter, rfl, hnull⟩
    · obtain ⟨e', he', hne⟩ := unlessThere_missing he hnot
      exact ⟨e', he', by simpa [hne] using fun hp => he (hnull.mpr hp)⟩
  obtain ⟨e', he', hnull'⟩ := hlast
  refine ⟨e', ?_, hnull'⟩
  cases hparts : parts.reverse with
  | nil =>
      rw [List.reverse_eq_nil_iff] at hparts
      subst hparts
      exact absurd ⟨rfl, by cases root <;> decide⟩ h
  | cons name above =>
      have hpath : (name :: above).reverse = parts := by rw [← hparts, List.reverse_reverse]
      rw [makeDirectory, hparts, makeBelow, hpath, hone]
      dsimp only
      split
      · simp_all
      · rename_i hne
        cases hne
        exact absurd rfl (hmissing _)
      · rename_i e'' _ heq
        cases heq
        rw [he']

/-! ### Names in a directory that is there -/

/-- What a name in a directory means does not depend on what else there is. -/
lemma locate_child_congr {v v' : Volume} (hw : v'.working = v.working) {p : Path} {name : Text}
    (hname : IsName name) (h : v.isDirectory p = .ok true) (h' : v'.isDirectory p = .ok true) :
    v'.locate (p.child name) = v.locate (p.child name) := by
  obtain ⟨place, hloc, hdir⟩ := isDirectory_eq_true.mp h
  obtain ⟨place', hloc', hdir'⟩ := isDirectory_eq_true.mp h'
  obtain rfl : place' = place := by
    rw [locate_eq_placeOf hloc', locate_eq_placeOf hloc, placeOf_eq hw]
  obtain ⟨-, -, hwalk⟩ := locate_eq_ok.mp hloc
  obtain ⟨-, -, hwalk'⟩ := locate_eq_ok.mp hloc'
  have henter : v'.disk.enter place' name = v.disk.enter place' name := by
    rw [Disk.enter, Disk.enter, hdir, hdir']
  have hstep : v'.disk.walk (v'.startOf p) (p.parts ++ [name])
      = v.disk.walk (v.startOf p) (p.parts ++ [name]) := by
    rw [Disk.walk_append, Disk.walk_append, hwalk, hwalk']
    dsimp only
    rw [Disk.walk, Disk.walk, henter]
    rfl
  have hchild : v'.disk.walk (if (p.child name).isAbsolute then [] else v'.working)
      (p.child name).parts = v.disk.walk (if (p.child name).isAbsolute then [] else v.working)
        (p.child name).parts := by
    rw [Path.child_eq p hname.1]
    exact hstep
  unfold locate
  rw [hchild]

/-- A name in a directory means the place below it that is called so, if it means any. -/
lemma locate_child_ok {v : Volume} {p : Path} {name : Text} (hname : IsName name) {place : Place}
    (h : v.locate (p.child name) = .ok place) : place = v.placeOf p ++ [name] := by
  rw [locate_eq_placeOf h, placeOf_child p hname]

/-! ### Directories that are missing -/

lemma unlessThere_ne_notFound {p : Path} {e : DiskError} (he : ∀ q, e ≠ .refused .notFound q)
    (q : Path) : v.unlessThere p e ≠ .error (.refused .notFound q) := by
  intro h
  unfold unlessThere at h
  split at h
  · cases h
  · split at h
    · cases h
    · exact he q (Except.error.inj h)
    · rename_i e' hask
      obtain rfl := Except.error.inj h
      rw [isDirectory, ask] at hask
      split at hask <;> simp_all

lemma makeLast_ne_notFound {p : Path} (hmade : ∀ q, v.makeOne p ≠ .error (.refused .notFound q))
    (q : Path) : (v.makeLast p).1 ≠ .error (.refused .notFound q) := by
  rw [makeLast]
  split
  · simp
  · exact absurd ‹_› (hmade _)
  · rename_i e hne _
    exact unlessThere_ne_notFound hne q

/-- A path at which a directory is missing fits. -/
lemma fits_of_notFound {p q : Path} (h : v.makeOne p = .error (.refused .notFound q)) :
    p.Fits := by
  by_contra hfits
  rw [makeOne, locate] at h
  by_cases hnull : p.hasNull = true
  · rw [if_pos hnull] at h
    cases h
  · have hlong : Disk.pathLimit < (utf8Encode p.toText).length :=
      Nat.lt_of_not_le fun hle => hfits ⟨by simpa using hnull, hle⟩
    rw [if_neg hnull, if_pos hlong] at h
    cases h

/-- Below a directory that is there no directory is missing. -/
lemma makeOne_below {parts : List Text} {name : Text}
    (hthere : v.isDirectory ⟨root, parts⟩ = .ok true)
    (hfits : Path.Fits ⟨root, parts ++ [name]⟩) (q : Path) :
    v.makeOne ⟨root, parts ++ [name]⟩ ≠ .error (.refused .notFound q) := by
  obtain ⟨place, hloc, hdir⟩ := isDirectory_eq_true.mp hthere
  have hbelow := locate_below hloc hfits
  rw [Disk.walk] at hbelow
  by_cases hname : NameFits name
  · rw [Disk.enter_eq_ok.mpr ⟨hdir, hname, rfl⟩] at hbelow
    rw [makeOne, hbelow]
    dsimp only [Disk.walk]
    split <;> simp
  · rw [Disk.enter_long hdir hname] at hbelow
    rw [makeOne, hbelow]
    simp

lemma makeBelow_ne_notFound (v : Volume) (root : PathRoot) (above : List Text) (q : Path) :
    (v.makeBelow root above).1 ≠ .error (.refused .notFound q) := by
  induction above generalizing v with
  | nil => exact unlessThere_ne_notFound (e := .refused .alreadyExists ⟨root, []⟩) (by simp) q
  | cons name above ih =>
      have hup := ih v
      have hthere := @makeBelow_ok v root above
      have hway := makesBelow v root name above
      generalize v.makeBelow root (name :: above) = result at hway ⊢
      rw [List.reverse_cons] at hway
      cases hway with
      | direct h => exact makeLast_ne_notFound h q
      | stopped _ habove =>
          rw [habove] at hup
          exact hup
      | after h habove =>
          rw [habove] at hthere
          exact makeLast_ne_notFound (makeOne_below (hthere rfl) (fits_of_notFound h)) q

/-- When a directory is made with all above it, none is missing. -/
lemma makeDirectory_ne_notFound (v : Volume) (p q : Path) :
    (v.makeDirectory p).1 ≠ .error (.refused .notFound q) :=
  makeBelow_ne_notFound v p.root p.parts.reverse q

end Volume

end PageNotes
