import PageNotes.CommandLine.Arguments
import PageNotes.Proofs.Settings.Escapes
import PageNotes.Settings.Source

/-!
Settings from the environment and from the command line. The environment gives texts, and each
option gives its argument values of one kind, which is the one that its setting is read as. So
without a settings file no error escapes from settings.

* `OptionEffect.Gives`, `IsArgument`: the values of arguments;
* `Arguments.read_isArgument`: the arguments that words denote have such values;
* `SettingsSources.config_uniform`: without a settings file the user is told what to mend.
-/

namespace PageNotes

/-! ### Members with texts as keys -/

/-- A key is the same as a text just when it is that text. -/
lemma Value.sameKey_text {key : Value} {t : Text} :
    key.sameKey (.text t) = true ↔ key = .text t := by
  cases key with
  | text u =>
      rw [Value.text.injEq]
      exact decide_eq_true_iff
  | float x =>
      have hsame : (Value.float x).sameKey (.text t) = false := by cases x <;> rfl
      simp [hsame]
  | _ => exact iff_of_false Bool.false_ne_true nofun

namespace Members

variable {members new : Members} {member : Value × Value} {value : Value}

lemma mem_set_text {t : Text} (h : member ∈ members.set (.text t) value) :
    member ∈ members ∨ member = (.text t, value) := by
  induction members with
  | nil => exact Or.inr (List.mem_singleton.mp h)
  | cons first rest ih =>
      obtain ⟨key, old⟩ := first
      rw [set] at h
      split_ifs at h with hkey
      · rw [Value.sameKey_text.mp hkey] at h
        rcases List.mem_cons.mp h with rfl | hrest
        · exact Or.inr rfl
        · exact Or.inl (List.mem_cons_of_mem _ hrest)
      · rcases List.mem_cons.mp h with rfl | hrest
        · exact Or.inl List.mem_cons_self
        · exact (ih hrest).imp_left (List.mem_cons_of_mem _)

/-- Members put over others come from one of the two. -/
lemma mem_update (hkeys : ∀ member ∈ new, member.1.isText = true)
    (h : member ∈ members.update new) : member ∈ members ∨ member ∈ new := by
  induction new generalizing members with
  | nil => exact Or.inl h
  | cons first rest ih =>
      obtain ⟨key, value⟩ := first
      cases key with
      | text t =>
          rcases ih (fun m hm => hkeys m (List.mem_cons_of_mem _ hm)) h with hset | hrest
          · rcases mem_set_text hset with hold | rfl
            · exact Or.inl hold
            · exact Or.inr List.mem_cons_self
          · exact Or.inr (List.mem_cons_of_mem _ hrest)
      | _ => cases hkeys _ List.mem_cons_self

lemma mem_of_named? {name : String} (h : members.named? name = some value) :
    (.text name.toList, value) ∈ members := by
  rw [named?, get?, Option.map_eq_some_iff] at h
  obtain ⟨⟨key, found⟩, hfind, rfl⟩ := h
  have hkey := List.find?_some hfind
  rw [← Value.sameKey_text.mp hkey]
  exact List.mem_of_find?_eq_some hfind

end Members

/-! ### Options -/

/-- The values that an option may give to an argument. -/
inductive OptionEffect.Gives : OptionEffect → String → Value → Prop
  | text (argument : String) (t : Text) : Gives (.text argument) argument (.text t)
  | noText (argument : String) : Gives (.text argument) argument (.list [])
  | integer (argument : String) (n : ℤ) : Gives (.integer argument) argument (.int n)
  | noInteger (argument : String) : Gives (.integer argument) argument (.list [])
  | turn (argument : String) (b : Bool) : Gives (.turn argument) argument (.bool b)
  | raise (argument : String) (b : Bool) : Gives (.raise argument) argument (.bool b)
  | count (argument : String) (n : ℤ) : Gives (.count argument) argument (.int n)

/-- Whether an argument may have a value: it has none, it is the page, or an option gives it. -/
inductive IsArgument : Value × Value → Prop
  | nothing (argument : String) : IsArgument (.text argument.toList, .null)
  | page (t : Text) : IsArgument (.text "input_file".toList, .text t)
  | given {o : CommandOption} {argument : String} {value : Value} (ho : o ∈ commandOptions)
      (hgives : o.effect.Gives argument value) : IsArgument (.text argument.toList, value)

lemma mem_of_mem_optionNames {name : Text} {o : CommandOption} (h : (name, o) ∈ optionNames) :
    o ∈ commandOptions := by
  obtain ⟨o', ho, hname⟩ := List.mem_flatMap.mp h
  obtain ⟨_, -, heq⟩ := List.mem_map.mp hname
  obtain ⟨-, rfl⟩ := Prod.mk.inj heq
  exact ho

lemma mem_of_optionNamed? {name : Text} {o : CommandOption} (h : optionNamed? name = some o) :
    o ∈ commandOptions := by
  obtain ⟨before, after, hnames, -⟩ := List.lookup_eq_some_iff.mp h
  have hmem : (name, o) ∈ optionNames := by
    rw [hnames]
    simp
  exact mem_of_mem_optionNames hmem

lemma mem_of_namedOption? {word : Text} {o : GivenOption} (h : namedOption? word = some o) :
    o.option ∈ commandOptions := by
  rw [namedOption?] at h
  split at h
  · rename_i hnamed
    cases h
    exact mem_of_optionNamed? hnamed
  · split at h
    · obtain ⟨option, hnamed, rfl⟩ := Option.map_eq_some_iff.mp h
      exact mem_of_optionNamed? hnamed
    · cases h

lemma mem_of_mem_longOptions {word : Text} {o : GivenOption} (h : o ∈ longOptions word) :
    o.option ∈ commandOptions := by
  obtain ⟨⟨name, option⟩, hmem, rfl⟩ := List.mem_map.mp h
  exact mem_of_mem_optionNames (List.mem_of_mem_filter hmem)

lemma mem_of_mem_shortOptions {word : Text} {o : GivenOption} (h : o ∈ shortOptions word) :
    o.option ∈ commandOptions := by
  obtain ⟨⟨name, option⟩, hmem, hgiven⟩ := List.mem_filterMap.mp h
  dsimp only at hgiven
  split_ifs at hgiven <;> cases hgiven <;> exact mem_of_mem_optionNames hmem

/-- Whether a word is no option or one of the program. -/
def Word.IsKnown : Word → Prop
  | .option o => o.option ∈ commandOptions
  | _ => True

lemma readWord_isKnown {word : Text} {w : Word} (h : readWord word = .ok w) : w.IsKnown := by
  rw [readWord] at h
  split_ifs at h
  · rw [readHyphened] at h
    split at h
    · rename_i hnamed
      cases h
      exact mem_of_namedOption? hnamed
    · split at h
      · rename_i o hone
        cases h
        have hmem := List.mem_singleton_self o
        rw [← hone] at hmem
        split_ifs at hmem
        · exact mem_of_mem_longOptions hmem
        · exact mem_of_mem_shortOptions hmem
      · cases h
        split <;> trivial
      · cases h
  · cases h
    trivial

/-- The options among words are options of the program. -/
lemma readWords_isKnown {words : List Text} {ws : List Word} (h : readWords words = .ok ws) :
    ∀ w ∈ ws, w.IsKnown := by
  induction words generalizing ws with
  | nil =>
      cases h
      exact nofun
  | cons word rest ih =>
      rw [readWords] at h
      split_ifs at h
      · cases h
        refine List.forall_mem_cons.mpr ⟨trivial, fun w hw => ?_⟩
        obtain ⟨t, -, rfl⟩ := List.mem_map.mp hw
        trivial
      · split at h
        · rename_i hword hrest
          cases h
          exact List.forall_mem_cons.mpr ⟨readWord_isKnown hword, ih hrest⟩
        · cases h
        · cases h

lemma joinedOptions_mem {o : CommandOption} {t : Text} {options : List CommandOption}
    (ho : o ∈ commandOptions) (h : joinedOptions o t = .ok options) :
    ∀ o' ∈ options, o' ∈ commandOptions := by
  fun_induction joinedOptions o t generalizing options with
  | case1 => cases h
  | case2 o c next hnext =>
      cases h
      simp [ho, mem_of_optionNamed? hnext]
  | case3 => cases h
  | case4 o c rest hrest next hnext ih =>
      cases hjoined : joinedOptions next rest with
      | error cause =>
          rw [hjoined] at h
          cases h
      | ok more =>
          rw [hjoined] at h
          cases h
          exact List.forall_mem_cons.mpr ⟨ho, ih (mem_of_optionNamed? hnext) hjoined⟩
  | case5 => cases h

/-! ### Arguments -/

namespace CommandReading

variable {r r' : CommandReading} {o : CommandOption}

/-- Whether all arguments have values that they may have. -/
def IsRead (r : CommandReading) : Prop := ∀ member ∈ r.arguments, IsArgument member

lemma IsRead.set (hr : r.IsRead) {argument : String} {value : Value}
    (h : IsArgument (.text argument.toList, value)) : (r.set argument value).IsRead := by
  intro member hmem
  rcases Members.mem_set_text hmem with hold | rfl
  · exact hr member hold
  · exact h

lemma IsRead.plain (hr : r.IsRead) (t : Text) : (r.plain t).IsRead := by
  rw [CommandReading.plain]
  split
  · exact hr
  · exact hr.set (.page t)

lemma IsRead.separator (hr : r.IsRead) : r.separator.IsRead := by
  rw [CommandReading.separator]
  split
  · exact hr
  · exact hr

lemma IsRead.take (hr : r.IsRead) (ho : o ∈ commandOptions) {t : Text}
    (h : r.take o t = .ok r') : r'.IsRead := by
  rw [CommandReading.take] at h
  split at h
  · cases h
  · rename_i value hvalue
    rw [textValue] at hvalue
    split at h
    · rename_i argument heffect
      cases h
      refine hr.set (.given ho ?_)
      rw [heffect] at hvalue ⊢
      split at hvalue
      · cases hvalue
        exact .noText argument
      · cases hvalue
        exact .text argument t
    · rename_i argument heffect
      cases h
      refine hr.set (.given ho ?_)
      rw [heffect] at hvalue ⊢
      split at hvalue
      · cases hvalue
        exact .noInteger argument
      · dsimp only at hvalue
        split at hvalue
        · cases hvalue
          exact .integer argument _
        · cases hvalue
    · cases h
      exact hr

lemma IsRead.apply (hr : r.IsRead) (ho : o ∈ commandOptions) {name : Text}
    (h : r.apply o name = .ok r') : r'.IsRead := by
  rw [CommandReading.apply] at h
  split at h
  · rename_i argument heffect
    cases h
    exact hr.set (.given ho (heffect ▸ .turn argument _))
  · rename_i argument heffect
    cases h
    exact hr.set (.given ho (heffect ▸ .raise argument true))
  · rename_i argument heffect
    have hcount : ∀ n, IsArgument (.text argument.toList, .int n) := fun n =>
      .given ho (heffect ▸ .count argument n)
    split at h
    · cases h
      exact hr.set (hcount _)
    · cases h
      exact hr.set (hcount 1)
  · cases h
  · cases h
  · cases h
    exact hr
  · cases h
    exact hr

lemma IsRead.applyAll (hr : r.IsRead) {options : List CommandOption}
    (hoptions : ∀ o ∈ options, o ∈ commandOptions) (h : r.applyAll options = .ok r') :
    r'.IsRead := by
  induction options generalizing r with
  | nil =>
      cases h
      exact hr
  | cons o rest ih =>
      obtain ⟨ho, hrest⟩ := List.forall_mem_cons.mp hoptions
      rw [CommandReading.applyAll] at h
      split at h
      · rename_i r₁ happlied
        exact ih (hr.apply ho happlied) hrest h
      · cases h

lemma IsRead.takeJoined (hr : r.IsRead) {o : GivenOption} (ho : o.option ∈ commandOptions)
    {t : Text} (h : r.takeJoined o t = .ok r') : r'.IsRead := by
  rw [CommandReading.takeJoined] at h
  split_ifs at h
  · exact hr.take ho h
  · split at h
    · rename_i options hjoined
      exact hr.applyAll (joinedOptions_mem ho hjoined) h
    · cases h

/-- Words that are read one after another give arguments only values that they may have. -/
lemma IsRead.readAll {ws : List Word} (hr : r.IsRead) (hknown : ∀ w ∈ ws, w.IsKnown)
    (h : r.readAll ws = .ok r') : r'.IsRead := by
  fun_induction CommandReading.readAll r ws with
  | case1 r =>
      cases h
      exact hr
  | case2 r t rest ih => exact ih (hr.plain t) (List.forall_mem_cons.mp hknown).2 h
  | case3 r rest ih => exact ih hr.separator (List.forall_mem_cons.mp hknown).2 h
  | case4 r t rest ih => exact ih hr (List.forall_mem_cons.mp hknown).2 h
  | case5 r o name t rest r₁ htaken ih =>
      obtain ⟨ho, hrest⟩ := List.forall_mem_cons.mp hknown
      exact ih (hr.takeJoined ho htaken) hrest h
  | case7 r o name _ t rest r₁ htaken ih =>
      obtain ⟨ho, hrest⟩ := List.forall_mem_cons.mp hknown
      exact ih (hr.take ho htaken) (List.forall_mem_cons.mp hrest).2 h
  | case10 r o name rest _ r₁ happlied ih =>
      obtain ⟨ho, hrest⟩ := List.forall_mem_cons.mp hknown
      exact ih (hr.apply ho happlied) hrest h
  | case6 => cases h
  | case8 => cases h
  | case9 => cases h
  | case11 => cases h

end CommandReading

/-- Where no word is given, arguments have values that they may have. -/
lemma Arguments.standard_isRead : ({} : CommandReading).IsRead := by
  intro member hmem
  rcases List.mem_append.mp hmem with hnothing | hown
  · obtain ⟨argument, -, rfl⟩ := List.mem_map.mp hnothing
    exact .nothing argument
  · simp only [List.mem_cons, List.not_mem_nil, or_false] at hown
    have hraise : (⟨["--progress"], .raise "progress"⟩ : CommandOption) ∈ commandOptions := by
      decide
    have hcount : (⟨["-v", "--verbose"], .count "verbose"⟩ : CommandOption) ∈ commandOptions := by
      decide
    rcases hown with rfl | rfl | rfl
    · exact .given hraise (.raise "progress" false)
    · exact .nothing "log_file"
    · exact .given hcount (.count "verbose" 0)

/-- The arguments that words denote have values that they may have. -/
lemma Arguments.read_isArgument {words : List Text} {a : Arguments}
    (h : Arguments.read words = .ok a) : ∀ member ∈ a, IsArgument member := by
  rw [Arguments.read] at h
  split at h
  · cases h
  · rename_i ws hwords
    split at h
    · cases h
    · rename_i r hread
      split_ifs at h
      cases h
      exact Arguments.standard_isRead.readAll (readWords_isKnown hwords) hread

/-! ### Settings without a file -/

/-- Whether a member is a setting from which no error escapes. -/
def IsUniform (member : Value × Value) : Prop :=
  isSettingName member.1 = true ∧ ∀ e, ¬member.1.settingKind.Stops member.2 e

/-- From nothing, from a text and from no items no error escapes. -/
lemma SettingKind.not_stops_plain {kind : SettingKind} {value : Value} {e : SettingsError}
    (h : value = .null ∨ (∃ t, value = .text t) ∨ value = .list []) : ¬kind.Stops value e := by
  intro hstops
  have hshort : value.hasLongInteger = false := by
    rcases h with rfl | ⟨t, rfl⟩ | rfl <;> rfl
  have hitems : ∃ texts : List Text, value.items? = some (texts.map .text) := by
    rcases h with rfl | ⟨t, rfl⟩ | rfl
    · exact ⟨[], rfl⟩
    · exact ⟨Text.split ',' t, rfl⟩
    · exact ⟨[], rfl⟩
  obtain ⟨texts, hitems⟩ := hitems
  cases hstops with
  | noItems hnone =>
      rw [hitems] at hnone
      cases hnone
  | longItem hsome hitem hlong =>
      rw [hitems] at hsome
      cases hsome
      obtain ⟨t, -, rfl⟩ := List.mem_map.mp hitem
      cases hlong
  | longFlag hlong => simp [hshort] at hlong
  | infinite negative => simp at h
  | longCount _ hlong => simp [hshort] at hlong
  | longText hlong => simp [hshort] at hlong

lemma Environment.members_isUniform (e : Environment) : ∀ member ∈ e.members, IsUniform member := by
  intro member hmem
  obtain ⟨⟨setting, own⟩, hvariable, hvalue⟩ := List.mem_filterMap.mp hmem
  obtain ⟨t, -, rfl⟩ := Option.map_eq_some_iff.mp hvalue
  have hnames : ∀ entry ∈ settingVariables, isSettingName (.text entry.1.toList) = true := by
    decide +kernel
  have hname : isSettingName (.text setting.toList) = true := hnames (setting, own) hvariable
  exact ⟨hname, fun _ => SettingKind.not_stops_plain (Or.inr (Or.inl ⟨t, rfl⟩))⟩

/-- The option for an argument gives it values of the kind that its setting is read as. -/
lemma OptionEffect.Gives.not_stops {o : CommandOption} (ho : o ∈ commandOptions)
    {argument setting : String} (hsetting : (argument, setting) ∈ argumentSettings) {value : Value}
    (h : o.effect.Gives argument value) (e : SettingsError) :
    ¬(SettingKind.ofName setting).Stops value e := by
  have hkinds : ∀ o ∈ commandOptions, ∀ entry ∈ argumentSettings,
      (o.effect = .integer entry.1 → SettingKind.ofName entry.2 = .count) ∧
      (o.effect = .turn entry.1 → SettingKind.ofName entry.2 = .flag) ∧
      o.effect ≠ .raise entry.1 ∧ o.effect ≠ .count entry.1 := by decide +kernel
  obtain ⟨hcount, hflag, hraise, hcounts⟩ := hkinds o ho _ hsetting
  generalize heffect : o.effect = effect at *
  cases h with
  | text _ t => exact SettingKind.not_stops_plain (Or.inr (Or.inl ⟨t, rfl⟩))
  | noText => exact SettingKind.not_stops_plain (Or.inr (Or.inr rfl))
  | noInteger => exact SettingKind.not_stops_plain (Or.inr (Or.inr rfl))
  | integer _ n =>
      rw [hcount rfl]
      rintro (_ | _ | _ | _ | ⟨hother, -⟩)
      exact hother n rfl
  | turn =>
      rw [hflag rfl]
      rintro (_ | _ | ⟨⟨⟩⟩)
  | raise => exact absurd rfl hraise
  | count => exact absurd rfl hcounts

lemma givenArguments_isUniform {a : Arguments} (ha : ∀ member ∈ a, IsArgument member) :
    ∀ member ∈ givenArguments a, IsUniform member := by
  intro member hmem
  obtain ⟨⟨argument, setting⟩, hsetting, hgiven⟩ := List.mem_filterMap.mp hmem
  have hnames : ∀ entry ∈ argumentSettings, isSettingName (.text entry.2.toList) = true := by
    decide +kernel
  have hname : isSettingName (.text setting.toList) = true := hnames (argument, setting) hsetting
  dsimp only at hgiven
  split at hgiven
  · cases hgiven
  · cases hgiven
  · rename_i value hnone hnamed
    cases hgiven
    refine ⟨hname, fun e => ?_⟩
    rw [Value.settingKind, Value.display, String.ofList_toList]
    have hargument := ha _ (Members.mem_of_named? hnamed)
    generalize hmember : (Value.text argument.toList, value) = member at hargument
    cases hargument with
    | nothing => exact absurd (Prod.mk.inj hmember).2 hnone
    | page t => exact SettingKind.not_stops_plain (Or.inr (Or.inl ⟨t, (Prod.mk.inj hmember).2⟩))
    | given ho hgives =>
        obtain ⟨hname, rfl⟩ := Prod.mk.inj hmember
        obtain rfl := String.toList_inj.mp (Value.text.inj hname)
        exact hgives.not_stops ho hsetting e

lemma not_settingsEscape {members : Members} (h : ∀ member ∈ members, IsUniform member)
    (e : SettingsError) : ¬SettingsEscape members e := by
  intro hescape
  cases hescape with
  | key hmem htext =>
      rw [isText_of_isSettingName (h _ hmem).1] at htext
      cases htext
  | @value before after key value _ _ hsplit _ hstops =>
      have hmem : (key, value) ∈ members := by rw [hsplit]; simp
      exact (h _ hmem).2 e hstops

/-- Without a settings file no error escapes from the settings of a run, whatever the environment
and the command line say: they are read, or the user is told what to mend. -/
theorem SettingsSources.config_uniform {s : SettingsSources} {words : List Text}
    (hfile : s.file = none ∨ s.file = some []) (hread : Arguments.read words = .ok s.arguments) :
    (∃ c, s.config = .ok c) ∨ ∃ reason, s.config = .error (.invalid reason) := by
  have hloaded : s.loaded = .ok [] := by
    rw [loaded]
    rcases hfile with hnone | hempty
    · rw [hnone]
    · rw [hempty]
  have hmembers : ∀ member ∈ (Members.update [] s.holders.members).putArguments s.arguments,
      IsUniform member := by
    have hholders := s.holders.members_isUniform
    have hgiven := givenArguments_isUniform (Arguments.read_isArgument hread)
    intro member hmem
    rcases Members.mem_update (fun m hm => isText_of_isSettingName (hgiven m hm).1) hmem with
      hheld | hargument
    · rcases Members.mem_update (fun m hm => isText_of_isSettingName (hholders m hm).1) hheld with
        hnone | hheld
      · cases hnone
      · exact hholders member hheld
    · exact hgiven member hargument
  rw [config, hloaded]
  exact Config.ofSettings_uniform (not_settingsEscape hmembers) s.volume

end PageNotes
