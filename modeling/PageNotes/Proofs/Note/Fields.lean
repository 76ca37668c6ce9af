import Mathlib.Logic.Function.Basic
import PageNotes.Note.Metadata
import PageNotes.Proofs.Text.Trim

/-!
The fields of a page. A page may declare a field several times; the field keeps the place of the
first declaration and takes the value of the last one. The moments that a page does not state, or
states as empty, are filled from a clock, which is read for the first of them alone.

* `Fields.set_keys`, `Fields.foldl_set`: values set one after another, as names with one value each;
* `readFields_eq`: the fields that a page declares;
* `fillReading`: filling the moments with a clock that is read when a moment is needed, and
  `fillReading_eq`: this is done with one moment, read once or not at all;
* `fillMoments_eq`: the fields with their moments;
* `Metadata.extract_declared`: the fields that are read from a page.
-/

namespace PageNotes

/-! ### Setting values -/

namespace Fields

/-- Names with the value that each has. -/
def ofKeys (keys : List Text) (value : Text → Text) : Fields := keys.map fun key => (key, value key)

variable {keys : List Text} {value : Text → Text}

lemma ofKeys_cons (key : Text) :
    ofKeys (key :: keys) value = (key, value key) :: ofKeys keys value := rfl

lemma keys_ofKeys : (ofKeys keys value).map Prod.fst = keys := by
  rw [ofKeys, List.map_map]
  exact List.map_id keys

lemma mem_ofKeys {key : Text} (h : key ∈ keys) : (key, value key) ∈ ofKeys keys value :=
  List.mem_map_of_mem h

lemma ofKeys_congr {other : Text → Text} (h : ∀ key ∈ keys, value key = other key) :
    ofKeys keys value = ofKeys keys other :=
  List.map_congr_left fun key hkey => by rw [h key hkey]

lemma get?_set_ne {key other : Text} (hne : other ≠ key) (fields : Fields) (value : Text) :
    (fields.set key value).get? other = fields.get? other := by
  have hkey : (other == key) = false := beq_eq_false_iff_ne.mpr hne
  induction fields with
  | nil => rw [set, get?, List.lookup_cons, hkey, get?]
  | cons head rest ih =>
      obtain ⟨name, old⟩ := head
      rw [set]
      split_ifs with hname
      · subst hname
        rw [get?, get?, List.lookup_cons, List.lookup_cons, hkey]
      · rw [get?] at ih
        rw [get?, get?, List.lookup_cons, List.lookup_cons, ih, get?]

lemma get?_ofKeys (key : Text) :
    (ofKeys keys value).get? key = if key ∈ keys then some (value key) else none := by
  induction keys with
  | nil => rfl
  | cons name keys ih =>
      rw [get?] at ih
      rw [get?, ofKeys_cons, List.lookup_cons, ih]
      by_cases hkey : key = name
      · subst hkey
        simp
      · have hne : (key == name) = false := beq_eq_false_iff_ne.mpr hkey
        simp [hne, hkey]

/-- A name whose value is set stays in its place, or comes last if it is new. -/
lemma set_ofKeys (hkeys : keys.Nodup) (key new : Text) :
    (ofKeys keys value).set key new
      = ofKeys (if key ∈ keys then keys else keys ++ [key]) (Function.update value key new) := by
  induction keys with
  | nil => simp [ofKeys, set]
  | cons name keys ih =>
      obtain ⟨hname, hkeys⟩ := List.nodup_cons.mp hkeys
      rw [ofKeys_cons, set]
      by_cases heq : name = key
      · -- the names behind it are others and keep their values
        subst heq
        rw [if_pos rfl, if_pos List.mem_cons_self, ofKeys_cons, Function.update_self]
        refine congrArg _ (ofKeys_congr fun other hother => ?_)
        rw [Function.update_of_ne]
        rintro rfl
        exact hname hother
      · have hmem : key ∈ name :: keys ↔ key ∈ keys := by simp [Ne.symm heq]
        rw [if_neg heq, ih hkeys]
        simp only [hmem]
        split_ifs <;> simp [ofKeys, Function.update_of_ne heq]

/-- One value set for several names, of which those that are new come last. -/
lemma foldl_set {stamp : Text} (hkeys : keys.Nodup) {names : List Text} (hnames : names.Nodup) :
    names.foldl (fun fields key => fields.set key stamp) (ofKeys keys value)
      = ofKeys (keys ++ names.filter (· ∉ keys))
          fun key => if key ∈ names then stamp else value key := by
  induction names generalizing keys value with
  | nil => simp
  | cons name names ih =>
      obtain ⟨hname, hnames⟩ := List.nodup_cons.mp hnames
      have hvalue : ∀ key, (if key ∈ names then stamp else Function.update value name stamp key)
          = if key ∈ name :: names then stamp else value key := by
        intro key
        by_cases hkey : key = name
        · subst hkey
          simp
        · simp [hkey]
      rw [List.foldl_cons, set_ofKeys hkeys]
      split_ifs with hold
      · rw [ih hkeys hnames, List.filter_cons_of_neg (by simpa using hold)]
        simp only [hvalue]
      · have hkeys' : (keys ++ [name]).Nodup := by
          rw [List.nodup_append]
          refine ⟨hkeys, by simp, fun a ha b hb => ?_⟩
          rintro rfl
          exact hold (List.mem_singleton.mp hb ▸ ha)
        have hothers : names.filter (· ∉ keys ++ [name]) = names.filter (· ∉ keys) := by
          refine List.filter_congr fun other hother => ?_
          have hne : other ≠ name := by
            rintro rfl
            exact hname hother
          simp [hne]
        rw [ih hkeys' hnames, hothers, List.filter_cons_of_pos (by simpa using hold),
          List.append_assoc, List.singleton_append]
        simp only [hvalue]

/-- A field is not filled when it has no value or an empty one. -/
lemma isNone_filled? (fields : Fields) (key : Text) :
    (fields.filled? key).isNone = decide ((fields.get? key).getD [] = []) := by
  rw [filled?]
  cases fields.get? key with
  | none => rfl
  | some value => cases value <;> rfl

end Fields

/-! ### Declarations -/

/-- The declarations of a page that count: those of a name that is neither empty nor ignored. -/
def countedDeclarations (ignoreList : List Text) (document : Forest) : List (Text × Text) :=
  ((forestElements document).filterMap declaration?).filter fun (name, _) =>
    name ≠ [] ∧ name ∉ ignoreList.map fun ignored => Text.lower (Text.strip ignored)

/-- The value in the last declaration of a field. -/
def lastDeclared? (declared : List (Text × Text)) (key : Text) : Option Text :=
  List.lookup key declared.reverse

/-- Sets the value that a declaration gives. -/
def Fields.declare (fields : Fields) (declaration : Text × Text) : Fields :=
  fields.set declaration.1 declaration.2

/-- The moments that no declaration states, or the last one states as empty. -/
def unstatedMoments (declared : List (Text × Text)) : List Text :=
  momentFields.filter fun key => (lastDeclared? declared key).getD [] = []

/-- The fields for some declarations: their names in the order of the first of each, and then the
moments not among them, all with the last value, but the moments that are not stated with that of a
clock. -/
def statedFields (declared : List (Text × Text)) (stamp : Text) : Fields :=
  let names := declared.map Prod.fst
  .ofKeys (names.eraseDups ++ momentFields.filter (· ∉ names)) fun key =>
    if key ∈ unstatedMoments declared then stamp else (lastDeclared? declared key).getD []

section Declared

variable {declared : List (Text × Text)}

lemma lastDeclared?_eq_none {key : Text} :
    lastDeclared? declared key = none ↔ key ∉ declared.map Prod.fst := by
  rw [lastDeclared?, List.lookup_eq_none_iff, List.mem_map]
  constructor
  · rintro h ⟨member, hmember, rfl⟩
    simpa using h member (List.mem_reverse.mpr hmember)
  · intro h member hmember
    refine bne_iff_ne.mpr ?_
    rintro rfl
    exact h ⟨member, List.mem_reverse.mp hmember, rfl⟩

lemma lastDeclared?_concat (name value key : Text) : lastDeclared? (declared ++ [(name, value)]) key
    = if key = name then some value else lastDeclared? declared key := by
  rw [lastDeclared?, List.reverse_concat, List.lookup_cons]
  by_cases hkey : key = name
  · simp [hkey]
  · have hne : (key == name) = false := beq_eq_false_iff_ne.mpr hkey
    rw [hne, if_neg hkey]
    rfl

lemma foldl_declared (declared : List (Text × Text)) : declared.foldl Fields.declare []
    = .ofKeys (declared.map Prod.fst).eraseDups fun key => (lastDeclared? declared key).getD [] := by
  induction declared using List.reverseRecOn with
  | nil => rfl
  | append_singleton declared last ih =>
      obtain ⟨name, value⟩ := last
      have hvalue : ∀ key, (lastDeclared? (declared ++ [(name, value)]) key).getD []
          = Function.update (fun key => (lastDeclared? declared key).getD []) name value key := by
        intro key
        rw [lastDeclared?_concat, Function.update_apply]
        split_ifs <;> rfl
      rw [List.foldl_append, ih, List.foldl_cons, List.foldl_nil, Fields.declare,
        Fields.set_ofKeys (nodup_eraseDups _), List.map_append, List.map_singleton,
        eraseDups_concat]
      simp only [hvalue, List.mem_eraseDups]

/-- The value that a field has after all declarations is the last one. -/
lemma get?_foldl_declared (key : Text) :
    (declared.foldl Fields.declare []).get? key = lastDeclared? declared key := by
  rw [foldl_declared, Fields.get?_ofKeys]
  split_ifs with hkey <;> rw [List.mem_eraseDups] at hkey
  · obtain ⟨value, hvalue⟩ := Option.ne_none_iff_exists'.mp fun h => lastDeclared?_eq_none.mp h hkey
    rw [hvalue, Option.getD_some]
  · exact (lastDeclared?_eq_none.mpr hkey).symm

end Declared

/-- Ignored names are compared as they are folded. -/
lemma mem_foldNames {names : List Text} {key : Text} (hkey : key ≠ []) :
    key ∈ foldNames names ↔ key ∈ names.map fun name => Text.lower (Text.strip name) := by
  rw [foldNames, List.mem_filterMap, List.mem_map]
  refine exists_congr fun name => and_congr_right fun _ => ?_
  split_ifs with hblank
  · have hnone : Text.lower (Text.strip name) = [] := by
      have hstrip := Text.trim_append_right [] (List.all_eq_true.mp hblank)
      rw [List.nil_append] at hstrip
      rw [Text.strip, hstrip]
      rfl
    rw [hnone]
    exact iff_of_false not_false hkey.symm
  · rw [Option.some_inj]

/-- The fields that a page declares. -/
lemma readFields_eq (ignoreList : List Text) (document : Forest) :
    readFields (foldNames ignoreList) document
      = (countedDeclarations ignoreList document).foldl Fields.declare [] := by
  rw [readFields, countedDeclarations, List.foldl_filter]
  congr 1
  funext fields declaration
  obtain ⟨name, value⟩ := declaration
  by_cases hname : name = []
  · simp [hname]
  · have hignored : name ∈ foldNames ignoreList ↔
        name ∈ ignoreList.map fun ignored => Text.lower (Text.strip ignored) := mem_foldNames hname
    by_cases hmem : name ∈ foldNames ignoreList
    · simp [hname, hmem, ← hignored]
    · simp [hname, hmem, ← hignored, Fields.declare]

/-! ### Moments -/

/-- Whether a field is to be filled. -/
abbrev Fields.lacks (fields : Fields) (key : Text) : Bool := (fields.filled? key).isNone

/-- The stamp of the moment that a clock shows. -/
def readStamp (now : Moment) : Except NoTimestamp Text := now.timestamp?.elim (.error {}) .ok

/-- The stamp for a field: the one that is kept, or else that of the next moment which the clock
shows. With it comes the number of readings. -/
def takeStamp (clock : ℕ → Moment) (readings : ℕ) (kept : Option Text) :
    Except NoTimestamp (Text × ℕ) :=
  match kept with
  | some stamp => .ok (stamp, readings)
  | none => (readStamp (clock readings)).map fun stamp => (stamp, readings + 1)

/-- The fields with some names are filled one after another. What they are filled with comes from a
clock, which shows a moment at each reading: it is read when the first field is to be filled, and
the stamp is kept for the others. With the fields comes the number of readings. -/
def fillReading (clock : ℕ → Moment) (readings : ℕ) (kept : Option Text) (fields : Fields) :
    List Text → Except NoTimestamp (Fields × ℕ)
  | [] => .ok (fields, readings)
  | key :: keys =>
    if fields.lacks key then
      match takeStamp clock readings kept with
      | .ok (stamp, readings) =>
        fillReading clock readings (some stamp) (fields.set key stamp) keys
      | .error e => .error e
    else fillReading clock readings kept fields keys

section Filling

variable {clock : ℕ → Moment} {readings : ℕ} {fields : Fields} {keys : List Text}

/-- A field that is set does not change which others are to be filled. -/
lemma filter_lacks_set {key : Text} (hkey : key ∉ keys) (fields : Fields) (stamp : Text) :
    keys.filter (fields.set key stamp).lacks = keys.filter fields.lacks := by
  refine List.filter_congr fun other hother => ?_
  have hne : other ≠ key := by
    rintro rfl
    exact hkey hother
  rw [Fields.lacks, Fields.lacks, Fields.isNone_filled?, Fields.isNone_filled?,
    Fields.get?_set_ne hne]

/-- With a stamp that is kept, the clock is not read. -/
lemma fillReading_some (hkeys : keys.Nodup) (stamp : Text) :
    fillReading clock readings (some stamp) fields keys
      = .ok ((keys.filter fields.lacks).foldl (fun fields key => fields.set key stamp) fields,
          readings) := by
  induction keys generalizing fields with
  | nil => rfl
  | cons key keys ih =>
      obtain ⟨hkey, hkeys⟩ := List.nodup_cons.mp hkeys
      rw [fillReading]
      split_ifs with hlacks
      · rw [takeStamp]
        dsimp only
        rw [ih hkeys, filter_lacks_set hkey, List.filter_cons_of_pos hlacks, List.foldl_cons]
      · rw [ih hkeys, List.filter_cons_of_neg hlacks]

/-- Without a stamp, the clock is read once if a field is to be filled, and else not at all. -/
lemma fillReading_none (hkeys : keys.Nodup) :
    fillReading clock readings none fields keys
      = if keys.filter fields.lacks = [] then .ok (fields, readings)
        else (readStamp (clock readings)).map fun stamp =>
          ((keys.filter fields.lacks).foldl (fun fields key => fields.set key stamp) fields,
            readings + 1) := by
  induction keys with
  | nil => rfl
  | cons key keys ih =>
      obtain ⟨hkey, hkeys⟩ := List.nodup_cons.mp hkeys
      rw [fillReading]
      split_ifs with hlacks hnone hnone
      · simp [List.filter_cons_of_pos hlacks] at hnone
      · rw [takeStamp]
        cases readStamp (clock readings) with
        | error e => rfl
        | ok stamp =>
            dsimp only [Except.map]
            rw [fillReading_some hkeys, filter_lacks_set hkey, List.filter_cons_of_pos hlacks,
              List.foldl_cons]
      · rw [ih hkeys, if_pos (by rwa [List.filter_cons_of_neg hlacks] at hnone)]
      · rw [ih hkeys, if_neg (by rwa [List.filter_cons_of_neg hlacks] at hnone),
          List.filter_cons_of_neg hlacks]

lemma fillMoments_eq (now : Moment) (fields : Fields) :
    fillMoments now fields = if missingMoments fields = [] then .ok fields
      else (readStamp now).map fun stamp =>
        (missingMoments fields).foldl (fun fields key => fields.set key stamp) fields := by
  rw [fillMoments, readStamp]
  cases now.timestamp? <;> rfl

/-- **The clock is read at most once**: filling the moments one after another is filling them with
the first moment that the clock shows. -/
lemma fillReading_eq (clock : ℕ → Moment) (fields : Fields) :
    fillReading clock 0 none fields momentFields
      = (fillMoments (clock 0) fields).map fun filled =>
          (filled, if missingMoments fields = [] then 0 else 1) := by
  have hmoments : momentFields.Nodup := by decide
  have hlacks : momentFields.filter fields.lacks = missingMoments fields := rfl
  rw [fillReading_none hmoments, hlacks, fillMoments_eq]
  by_cases hnone : missingMoments fields = []
  · simp only [hnone, if_true, Except.map]
  · simp only [hnone, if_false]
    cases readStamp (clock 0) <;> rfl

end Filling

/-- What is missing among the moments of a page is what it does not state. -/
lemma missingMoments_foldl (declared : List (Text × Text)) :
    missingMoments (declared.foldl Fields.declare []) = unstatedMoments declared := by
  refine List.filter_congr fun key _ => ?_
  rw [Fields.isNone_filled?, get?_foldl_declared]

/-- The moments that are not stated are filled in their places, or come last. -/
lemma foldl_unstatedMoments (declared : List (Text × Text)) (stamp : Text) :
    (unstatedMoments declared).foldl (fun fields key => fields.set key stamp)
      (declared.foldl Fields.declare []) = statedFields declared stamp := by
  have hmoments : momentFields.Nodup := by decide
  have hnames : (unstatedMoments declared).Nodup := hmoments.sublist List.filter_sublist
  have hnew : (unstatedMoments declared).filter (· ∉ (declared.map Prod.fst).eraseDups)
      = momentFields.filter (· ∉ declared.map Prod.fst) := by
    rw [unstatedMoments, List.filter_filter]
    refine List.filter_congr fun key _ => ?_
    simp only [List.mem_eraseDups]
    by_cases hkey : key ∈ declared.map Prod.fst
    · simp only [hkey, not_true, decide_false, Bool.false_and]
    · simp [hkey, lastDeclared?_eq_none.mpr hkey]
  rw [foldl_declared, Fields.foldl_set (nodup_eraseDups _) hnames, hnew]
  rfl

lemma fillMoments_declared (now : Moment) (declared : List (Text × Text)) :
    fillMoments now (declared.foldl Fields.declare [])
      = if unstatedMoments declared ≠ [] ∧ now.timestamp? = none then .error {}
        else .ok (statedFields declared (now.timestamp?.getD [])) := by
  rw [fillMoments, missingMoments_foldl, ← foldl_unstatedMoments]
  by_cases hnone : unstatedMoments declared = []
  · simp [hnone]
  · cases now.timestamp? <;> simp [hnone]

/-! ### The fields of a page -/

/-- **The fields of a page.** Their names are those of its declarations, trimmed and in lower case,
neither empty nor ignored, in the order in which they first come; moments not among them follow.
Each has the value of its last declaration, but the moments without a value have that of the clock.
There are no fields just when a moment is not stated and what the clock shows has no date. The
moments may be filled one after another: the clock is read once if one of them is not stated, and
else not at all. -/
theorem Metadata.extract_declared (ignoreList : List Text) (assetPrefix : Text)
    (clock : ℕ → Moment) (document : Forest) :
    let settings : MetadataSettings := ⟨foldNames ignoreList, assetPrefix⟩
    let declared := countedDeclarations ignoreList document
    (extract settings (clock 0) document).map Metadata.fields
        = (if unstatedMoments declared ≠ [] ∧ (clock 0).timestamp? = none then .error {}
          else .ok (statedFields declared ((clock 0).timestamp?.getD []))) ∧
      fillReading clock 0 none (readFields settings.ignored document) momentFields
        = (extract settings (clock 0) document).map fun m =>
            (m.fields, if unstatedMoments declared = [] then 0 else 1) := by
  dsimp only
  have hread := readFields_eq ignoreList document
  constructor
  · rw [← fillMoments_declared, ← hread, extract]
    cases fillMoments (clock 0) (readFields (foldNames ignoreList) document) <;> rfl
  · rw [fillReading_eq, hread, missingMoments_foldl, ← hread, extract]
    cases fillMoments (clock 0) (readFields (foldNames ignoreList) document) <;> rfl

/-- A name that comes again, a moment that is stated as empty, and one that is not stated. -/
example : statedFields
    [(['b'], ['1']), ("created".toList, []), (['a'], ['2']), (['b'], ['3'])] ['s']
      = [(['b'], ['3']), ("created".toList, ['s']), (['a'], ['2']), ("modified".toList, ['s'])] := by
  decide

end PageNotes
