import Mathlib.Tactic
import PageNotes.Settings.Reading

/-!
Errors of settings. Values are read one after another, and the first that is not read decides what
is wrong. Mostly the user is told what to mend; from four kinds of settings another error escapes:
a key that is no text, a list that is none, an infinite count, and a value that is needed as a text
and has an integer in it that is too long for one.

* `SettingKind.Takes`, `SettingKind.Stops`: the values that are read as settings of some kind, and
  those that give another error;
* `Config.setAll_error_iff`: settings one after another, up to the first that is not read;
* `SettingsEscape`: settings from which an error escapes;
* `Config.ofSettings_escapes`: from no others does one.
-/

namespace PageNotes

variable {members : Members} {name : String} {value : Value} {e : SettingsError}

/-! ### Kinds of settings -/

/-- What a value is read as. -/
inductive SettingKind where
  | list
  | flag
  | count
  | text
  deriving DecidableEq, Repr

/-- What the value of a setting is read as. -/
def SettingKind.ofName (name : String) : SettingKind :=
  match name with
  | "ignore_tags" | "ignore_meta" => .list
  | "unnest_tags" | "italics_to_alt" => .flag
  | "max_workers" => .count
  | _ => .text

/-- What the value with a key is read as. -/
def Value.settingKind (key : Value) : SettingKind := .ofName (String.ofList key.display)

/-- The word that a value is, in lower case and without the blanks around it. -/
def Value.word (value : Value) : String := String.ofList (Text.lower (Text.strip value.display))

namespace SettingKind

/-- The values that a setting of some kind may have. -/
inductive Takes : SettingKind → Value → Prop
  | items {value : Value} {items : List Value} (hitems : value.items? = some items)
      (hshort : ∀ item ∈ items, item.hasLongInteger = false) : Takes .list value
  | nothing : Takes .flag .null
  | bool (b : Bool) : Takes .flag (.bool b)
  | word {value : Value} (hshort : value.hasLongInteger = false)
      (hword : value.word ∈ trueWords ++ falseWords) : Takes .flag value
  | integer (n : ℤ) : Takes .count (.int n)
  | truncated {x : Binary64} {n : ℤ} (hx : x.truncate? = some n) : Takes .count (.float x)
  | digits {t : Text} {n : ℤ} (ht : readInteger 10 t = .ok n) : Takes .count (.text t)
  | text {value : Value} (hshort : value.hasLongInteger = false) : Takes .text value

/-- The values from which another error escapes than that the user has to mend them. -/
inductive Stops : SettingKind → Value → SettingsError → Prop
  | noItems {value : Value} (hitems : value.items? = none) : Stops .list value (.notList value)
  | longItem {value item : Value} {items : List Value} (hitems : value.items? = some items)
      (hitem : item ∈ items) (hlong : item.hasLongInteger = true) : Stops .list value .longInteger
  | longFlag {value : Value} (hlong : value.hasLongInteger = true) : Stops .flag value .longInteger
  | infinite (negative : Bool) : Stops .count (.float (.infinite negative)) .infiniteInteger
  | longCount {value : Value} (hcount : ∀ n, value ≠ .int n) (hlong : value.hasLongInteger = true) :
      Stops .count value .longInteger
  | longText {value : Value} (hlong : value.hasLongInteger = true) : Stops .text value .longInteger

/-- How a value is read as a setting of some kind; what it is read as is left out. -/
def read (kind : SettingKind) (name : String) (value : Value) : Except SettingsError Unit :=
  match kind with
  | list => (readList value).map fun _ => ()
  | flag => (readFlag name value).map fun _ => ()
  | count => (readCount name value).map fun _ => ()
  | text => if value.hasLongInteger then .error .longInteger else .ok ()

/-! ### One value -/

variable {kind : SettingKind}

lemma read_list (name : String) (value : Value) :
    list.read name value = match value.items? with
      | none => .error (.notList value)
      | some items => if items.any Value.hasLongInteger then .error .longInteger else .ok () := by
  rw [read, readList]
  cases value.items? with
  | none => rfl
  | some items =>
      dsimp only
      split <;> rfl

lemma read_flag (hother : ¬(value = .null ∨ ∃ b, value = .bool b)) (name : String) :
    flag.read name value =
      if value.hasLongInteger then .error .longInteger
      else if value.word ∈ trueWords ++ falseWords then .ok ()
      else .error (.invalid (.notBoolean name value)) := by
  have hread : readFlag name value =
      if value.hasLongInteger then .error .longInteger
      else if trueWords.contains value.word then .ok true
      else if falseWords.contains value.word then .ok false
      else .error (.invalid (.notBoolean name value)) := by
    cases value with
    | null => exact absurd (Or.inl rfl) hother
    | bool b => exact absurd (Or.inr ⟨b, rfl⟩) hother
    | _ => rfl
  rw [read, hread]
  simp only [List.mem_append, List.contains_iff_mem]
  by_cases hlong : value.hasLongInteger = true
  · simp [hlong, Except.map]
  · by_cases htrue : value.word ∈ trueWords
    · simp [hlong, htrue, Except.map]
    · by_cases hfalse : value.word ∈ falseWords <;> simp [hlong, htrue, hfalse, Except.map]

lemma read_count
    (hother : ¬((∃ n, value = .int n) ∨ (∃ x, value = .float x) ∨ ∃ t, value = .text t))
    (name : String) :
    count.read name value = .error
      (if value.hasLongInteger then .longInteger else .invalid (.notInteger name value)) := by
  cases value with
  | int n => exact absurd (Or.inl ⟨n, rfl⟩) hother
  | float x => exact absurd (Or.inr (Or.inl ⟨x, rfl⟩)) hother
  | text t => exact absurd (Or.inr (Or.inr ⟨t, rfl⟩)) hother
  | _ => rfl

/-- A value that a setting may have is read. -/
lemma read_of_takes (h : kind.Takes value) : kind.read name value = .ok () := by
  cases h with
  | items hitems hshort =>
      rw [read_list, hitems]
      simpa using hshort
  | nothing => rfl
  | bool b => rfl
  | word hshort hword =>
      rcases em (value = .null ∨ ∃ b, value = .bool b) with (rfl | ⟨b, rfl⟩) | hother
      · rfl
      · rfl
      · rw [read_flag hother, hshort, if_neg Bool.false_ne_true, if_pos hword]
  | integer n => rfl
  | @truncated x n hx =>
      cases x with
      | finite negative m e => rfl
      | infinite negative => cases hx
      | nan => cases hx
  | digits ht =>
      rw [read, readCount]
      simp only [ht]
      rfl
  | text hshort => simp [read, hshort]

/-- A value that stops the reading gives its error. -/
lemma read_of_stops (h : kind.Stops value e) : kind.read name value = .error e := by
  cases h with
  | noItems hitems => rw [read_list, hitems]
  | longItem hitems hitem hlong =>
      rw [read_list, hitems]
      exact if_pos (List.any_eq_true.mpr ⟨_, hitem, hlong⟩)
  | longFlag hlong =>
      have hother : ¬(value = .null ∨ ∃ b, value = .bool b) := by
        rintro (rfl | ⟨b, rfl⟩) <;> cases hlong
      rw [read_flag hother, if_pos hlong]
  | infinite negative => rfl
  | longCount hcount hlong =>
      have hother : ¬((∃ n, value = .int n) ∨ (∃ x, value = .float x) ∨ ∃ t, value = .text t) := by
        rintro (⟨n, rfl⟩ | ⟨x, rfl⟩ | ⟨t, rfl⟩)
        · exact hcount n rfl
        · cases hlong
        · cases hlong
      rw [read_count hother, if_pos hlong]
  | longText hlong => simp [read, hlong]

/-- A value is read, stops the reading, or is something for the user to mend. -/
lemma read_cases (kind : SettingKind) (name : String) (value : Value) :
    kind.Takes value ∨ (∃ e, kind.Stops value e) ∨
      ∃ reason, kind.read name value = .error (.invalid reason) := by
  cases kind with
  | list =>
      cases hitems : value.items? with
      | none => exact Or.inr (Or.inl ⟨_, .noItems hitems⟩)
      | some items =>
          by_cases hlong : ∃ item ∈ items, item.hasLongInteger = true
          · obtain ⟨item, hitem, hlong⟩ := hlong
            exact Or.inr (Or.inl ⟨_, .longItem hitems hitem hlong⟩)
          · exact Or.inl (.items hitems (by simpa using hlong))
  | flag =>
      rcases em (value = .null ∨ ∃ b, value = .bool b) with (rfl | ⟨b, rfl⟩) | hother
      · exact Or.inl .nothing
      · exact Or.inl (.bool b)
      · by_cases hlong : value.hasLongInteger = true
        · exact Or.inr (Or.inl ⟨_, .longFlag hlong⟩)
        · by_cases hword : value.word ∈ trueWords ++ falseWords
          · exact Or.inl (.word (by simpa using hlong) hword)
          · exact Or.inr (Or.inr ⟨_, by rw [read_flag hother, if_neg hlong, if_neg hword]⟩)
  | count =>
      rcases em ((∃ n, value = .int n) ∨ (∃ x, value = .float x) ∨ ∃ t, value = .text t) with
        (⟨n, rfl⟩ | ⟨x, rfl⟩ | ⟨t, rfl⟩) | hother
      · exact Or.inl (.integer n)
      · cases x with
        | finite negative m e => exact Or.inl (.truncated rfl)
        | infinite negative => exact Or.inr (Or.inl ⟨_, .infinite negative⟩)
        | nan => exact Or.inr (Or.inr ⟨_, rfl⟩)
      · cases ht : readInteger 10 t with
        | ok n => exact Or.inl (.digits ht)
        | error cause =>
            refine Or.inr (Or.inr ⟨.notInteger name (.text t), ?_⟩)
            rw [read, readCount]
            simp only [ht]
            rfl
      · by_cases hlong : value.hasLongInteger = true
        · exact Or.inr (Or.inl ⟨_, .longCount (fun n hn => hother (Or.inl ⟨n, hn⟩)) hlong⟩)
        · exact Or.inr (Or.inr ⟨_, by rw [read_count hother, if_neg hlong]⟩)
  | text =>
      by_cases hlong : value.hasLongInteger = true
      · exact Or.inr (Or.inl ⟨_, .longText hlong⟩)
      · exact Or.inl (.text (by simpa using hlong))

/-- A value that stops the reading is not one for the user to mend. -/
lemma Stops.ne_invalid (h : kind.Stops value e) (reason : InvalidSetting) :
    e ≠ .invalid reason := by
  cases h <;> nofun

/-- The values that are read are those which a setting of the kind may have. -/
lemma read_ok_iff : kind.read name value = .ok () ↔ kind.Takes value := by
  refine ⟨fun hread => ?_, read_of_takes⟩
  rcases read_cases kind name value with htakes | ⟨e, hstops⟩ | ⟨reason, hinvalid⟩
  · exact htakes
  · rw [read_of_stops hstops] at hread
    cases hread
  · rw [hinvalid] at hread
    cases hread

/-- The values that stop the reading are those from which an error escapes. -/
lemma read_escapes_iff :
    (kind.read name value = .error e ∧ ∀ reason, e ≠ .invalid reason) ↔ kind.Stops value e := by
  refine ⟨fun ⟨hread, hother⟩ => ?_, fun h => ⟨read_of_stops h, h.ne_invalid⟩⟩
  rcases read_cases kind name value with htakes | ⟨e', hstops⟩ | ⟨reason, hinvalid⟩
  · rw [read_of_takes htakes] at hread
    cases hread
  · rw [read_of_stops hstops] at hread
    cases hread
    exact hstops
  · rw [hinvalid] at hread
    cases hread
    exact absurd rfl (hother reason)

end SettingKind

/-! ### Settings one after another -/

namespace Config

/-- Whether a setting is read depends on its value alone. -/
lemma set_read (c : Config) (name : String) (value : Value) :
    (c.set name value).map (fun _ => ()) = (SettingKind.ofName name).read name value := by
  unfold Config.set SettingKind.ofName
  split <;> simp only [SettingKind.read]
  · cases readList value <;> rfl
  · cases readList value <;> rfl
  · cases readFlag "unnest_tags" value <;> rfl
  · cases readFlag "italics_to_alt" value <;> rfl
  · cases readCount "max_workers" value <;> rfl
  · cases value with
    | null => rfl
    | _ => dsimp only; split <;> rfl

/-- Settings give an error just when one of them does and those before it are read. -/
lemma setAll_error_iff (c : Config) (members : Members) :
    c.setAll members = .error e ↔
      ∃ before key value after, members = before ++ (key, value) :: after ∧
        (∀ member ∈ before, member.1.settingKind.Takes member.2) ∧
        key.settingKind.read (String.ofList key.display) value = .error e := by
  -- The settings put in by the first members do not matter for how the others are read.
  induction members generalizing c with
  | nil => simp [setAll]
  | cons member rest ih =>
      obtain ⟨key, value⟩ := member
      have hread := c.set_read (String.ofList key.display) value
      rw [setAll]
      cases hset : c.set (String.ofList key.display) value with
      | error cause =>
          rw [hset] at hread
          have hread : key.settingKind.read (String.ofList key.display) value = .error cause :=
            hread.symm
          dsimp only
          constructor
          · rintro ⟨⟩
            exact ⟨[], key, value, rest, rfl, nofun, hread⟩
          · rintro ⟨before, key', value', after, hsplit, htaken, hfirst⟩
            cases before with
            | nil =>
                obtain ⟨⟨rfl, rfl⟩, rfl⟩ := by simpa using hsplit
                rw [hread] at hfirst
                cases hfirst
                rfl
            | cons first before =>
                obtain ⟨rfl, rfl⟩ := List.cons_eq_cons.mp hsplit
                rw [SettingKind.read_of_takes (htaken _ List.mem_cons_self)] at hread
                cases hread
      | ok c' =>
          rw [hset] at hread
          have htakes : key.settingKind.Takes value := SettingKind.read_ok_iff.mp hread.symm
          dsimp only
          rw [ih c']
          constructor
          · rintro ⟨before, key', value', after, rfl, htaken, hfirst⟩
            refine ⟨(key, value) :: before, key', value', after, rfl, ?_, hfirst⟩
            exact List.forall_mem_cons.mpr ⟨htakes, htaken⟩
          · rintro ⟨before, key', value', after, hsplit, htaken, hfirst⟩
            cases before with
            | nil =>
                obtain ⟨⟨rfl, rfl⟩, rfl⟩ := by simpa using hsplit
                rw [SettingKind.read_of_takes htakes] at hfirst
                cases hfirst
            | cons first before =>
                obtain ⟨rfl, rfl⟩ := List.cons_eq_cons.mp hsplit
                exact ⟨before, key', value', after, rfl, (List.forall_mem_cons.mp htaken).2, hfirst⟩

end Config

/-! ### Names -/

lemma mapM_keyName_eq_none {keys : List Value} :
    keys.mapM keyName? = none ↔ ∃ key ∈ keys, key.isText = false := by
  induction keys with
  | nil => simp
  | cons key rest ih =>
      rw [List.mapM_cons]
      cases key with
      | text t =>
          cases hrest : rest.mapM keyName? with
          | none => simpa [keyName?, hrest, Value.isText] using ih.mp hrest
          | some names => simpa [keyName?, hrest, Value.isText] using ih
      | _ => simp [keyName?, Value.isText]

lemma mapM_keyName_eq_nil {keys : List Value} : keys.mapM keyName? = some [] ↔ keys = [] := by
  cases keys with
  | nil => simp
  | cons key rest =>
      rw [List.mapM_cons]
      refine iff_of_false ?_ (List.cons_ne_nil key rest)
      cases key with
      | text t => cases rest.mapM keyName? <;> simp [keyName?]
      | _ => simp [keyName?]

/-- The name of a setting is a text. -/
lemma isText_of_isSettingName {key : Value} (h : isSettingName key = true) : key.isText = true := by
  cases key with
  | text t => rfl
  | _ => cases h

/-- Members are refused as no names just when a key is no text. -/
lemma checkNames_eq_notName (members : Members) :
    checkNames members = .error .notName ↔ ∃ member ∈ members, member.1.isText = false := by
  have hunknown : (∃ key ∈ (members.map (·.1)).filter fun key => !isSettingName key,
      key.isText = false) ↔ ∃ member ∈ members, member.1.isText = false := by
    simp only [List.mem_filter, List.mem_map, Bool.not_eq_true']
    constructor
    · rintro ⟨_, ⟨⟨member, hmem, rfl⟩, -⟩, htext⟩
      exact ⟨member, hmem, htext⟩
    · rintro ⟨member, hmem, htext⟩
      refine ⟨member.1, ⟨⟨member, hmem, rfl⟩, ?_⟩, htext⟩
      by_contra hname
      rw [isText_of_isSettingName (by simpa using hname)] at htext
      cases htext
  rw [← hunknown, ← mapM_keyName_eq_none, checkNames]
  split
  · rename_i hnone
    exact iff_of_true rfl hnone
  · rename_i hnil
    rw [hnil]
    exact iff_of_false nofun nofun
  · rename_i names _ hsome
    rw [hsome]
    exact iff_of_false nofun nofun

/-- Members are names just when all of them are settings. -/
lemma checkNames_eq_ok (members : Members) :
    checkNames members = .ok () ↔ ∀ member ∈ members, isSettingName member.1 = true := by
  have hunknown : (members.map (·.1)).filter (fun key => !isSettingName key) = [] ↔
      ∀ member ∈ members, isSettingName member.1 = true := by
    simp [List.filter_eq_nil_iff]
  rw [← hunknown, ← mapM_keyName_eq_nil, checkNames]
  split
  · rename_i hnone
    simp [hnone]
  · rename_i hnil
    exact iff_of_true rfl hnil
  · rename_i names hnames hsome
    rw [hsome, Option.some_inj]
    exact iff_of_false nofun hnames

/-- What is refused otherwise is something for the user to mend. -/
lemma checkNames_error {members : Members} (h : checkNames members = .error e) :
    e = .notName ∨ ∃ reason, e = .invalid reason := by
  rw [checkNames] at h
  split at h <;> cases h
  · exact Or.inl rfl
  · exact Or.inr ⟨_, rfl⟩

/-! ### All settings -/

/-- Settings from which an error escapes: one with a key that is no text, or else the first whose
value is not read, if its value stops the reading. -/
inductive SettingsEscape (members : Members) : SettingsError → Prop
  | key {key value : Value} (hmem : (key, value) ∈ members) (htext : key.isText = false) :
      SettingsEscape members .notName
  | value {before after : Members} {key value : Value} {e : SettingsError}
      (hnames : ∀ member ∈ members, isSettingName member.1 = true)
      (hsplit : members = before ++ (key, value) :: after)
      (htaken : ∀ member ∈ before, member.1.settingKind.Takes member.2)
      (hstops : key.settingKind.Stops value e) : SettingsEscape members e

/-- An error that escapes is not one for the user to mend. -/
lemma SettingsEscape.ne_invalid (h : SettingsEscape members e) (reason : InvalidSetting) :
    e ≠ .invalid reason := by
  cases h with
  | key => nofun
  | value _ _ _ hstops => exact hstops.ne_invalid reason

/-- The error that escapes is the one that settings give. -/
lemma SettingsEscape.ofSettings (h : SettingsEscape members e) (v : Volume) :
    Config.ofSettings v members = .error e := by
  rw [Config.ofSettings, Config.ofMembers]
  cases h with
  | key hmem htext => rw [(checkNames_eq_notName members).mpr ⟨_, hmem, htext⟩]
  | value hnames hsplit htaken hstops =>
      have hset := (Config.setAll_error_iff {} members).mpr
        ⟨_, _, _, _, hsplit, htaken, SettingKind.read_of_stops hstops⟩
      rw [(checkNames_eq_ok members).mpr hnames]
      dsimp only
      rw [hset]

/-- An error that is not for the user to mend escapes. -/
lemma settingsEscape_of_error {v : Volume} (h : Config.ofSettings v members = .error e)
    (hother : ∀ reason, e ≠ .invalid reason) : SettingsEscape members e := by
  rw [Config.ofSettings, Config.ofMembers] at h
  cases hnames : checkNames members with
  | error cause =>
      rw [hnames] at h
      cases h
      obtain rfl | ⟨reason, rfl⟩ := checkNames_error hnames
      · obtain ⟨⟨key, value⟩, hmem, htext⟩ := (checkNames_eq_notName members).mp hnames
        exact .key hmem htext
      · exact absurd rfl (hother reason)
  | ok =>
      rw [hnames] at h
      dsimp only at h
      cases hset : Config.setAll {} members with
      | error cause =>
          rw [hset] at h
          cases h
          obtain ⟨before, key, value, after, hsplit, htaken, hread⟩ :=
            (Config.setAll_error_iff {} members).mp hset
          exact .value ((checkNames_eq_ok members).mp hnames) hsplit htaken
            (SettingKind.read_escapes_iff.mp ⟨hread, hother⟩)
      | ok c =>
          rw [hset] at h
          dsimp only at h
          rw [Config.check] at h
          split at h
          · cases h
            exact absurd rfl (hother _)
          · cases h

/-- Settings from which no error escapes are read, or the user is told what to mend. -/
lemma Config.ofSettings_uniform (h : ∀ e, ¬SettingsEscape members e) (v : Volume) :
    (∃ c, Config.ofSettings v members = .ok c) ∨
      ∃ reason, Config.ofSettings v members = .error (.invalid reason) := by
  cases hresult : Config.ofSettings v members with
  | ok c => exact Or.inl ⟨c, rfl⟩
  | error e =>
      refine Or.inr ?_
      by_contra hother
      refine h e (settingsEscape_of_error hresult fun reason hreason => hother ⟨reason, ?_⟩)
      rw [hreason]

/-- The settings of a run are read, or the user is told what to mend, just when no error escapes
from them; an error that escapes is the same on every disk. -/
theorem Config.ofSettings_escapes (v : Volume) (members : Members) :
    (((∃ c, Config.ofSettings v members = .ok c) ∨
        ∃ reason, Config.ofSettings v members = .error (.invalid reason)) ↔
      ∀ e, ¬SettingsEscape members e) ∧
    ∀ e, SettingsEscape members e → Config.ofSettings v members = .error e := by
  refine ⟨⟨?_, fun hnone => Config.ofSettings_uniform hnone v⟩, fun e h => h.ofSettings v⟩
  rintro (⟨c, hok⟩ | ⟨reason, hinvalid⟩) e h
  · rw [h.ofSettings v] at hok
    cases hok
  · rw [h.ofSettings v] at hinvalid
    exact h.ne_invalid reason (Except.error.inj hinvalid)

/-- A number in the place of a list of tags. -/
theorem Config.ofSettings_escapes_number :
    SettingsEscape [(.text "ignore_tags".toList, .int 5)] (.notList (.int 5)) ∧
      Config.ofSettings ⟨⟨[]⟩, []⟩ [(.text "ignore_tags".toList, .int 5)]
        = .error (.notList (.int 5)) := by
  have hescape : SettingsEscape [(.text "ignore_tags".toList, .int 5)] (.notList (.int 5)) :=
    .value (by decide) (List.nil_append _).symm nofun (.noItems rfl)
  exact ⟨hescape, (Config.ofSettings_escapes _ _).2 _ hescape⟩

/-- The least integer that is too long for a text. -/
example : SettingsEscape [(.text "link_prefix".toList, .int (10 ^ 4300))] .longInteger :=
  .value (by decide) (List.nil_append _).symm nofun (.longText (by decide +kernel))

end PageNotes
