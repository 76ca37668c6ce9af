import Mathlib
import PageNotes.Proofs.Settings.Setting
import PageNotes.Proofs.Yaml.DistinctKeys

/-!
Precedence among the sources of settings. Of each setting the command line says most, then the
environment, then the settings file, and the standard holds where none of them says anything. What
is said of one setting does not matter for another.

* `SettingsSources.said?`: the value that the sources say of a setting;
* `SettingsSources.valueOf_said`: it is what the setting is read from;
* `SettingsSources.config_precedence`: and nothing else matters for the setting.
-/

namespace PageNotes

/-! ### The sources -/

/-- A value unless it is nothing. -/
def Value.given? : Value → Option Value
  | .null => none
  | value => some value

/-- The value that an argument of the command line says of a setting. -/
def SettingsSources.argument? (s : SettingsSources) (f : Setting) : Option Value :=
  (s.arguments.named? f.argument).bind Value.given?

/-- The value that a variable of the environment says of a setting. -/
def SettingsSources.held? (s : SettingsSources) (f : Setting) : Option Value :=
  (s.holders.get? f.holder.toList).map .text

/-- The value that the sources say of a setting, where `loaded` stands in the settings file. -/
def SettingsSources.said? (s : SettingsSources) (loaded : Members) (f : Setting) : Option Value :=
  (s.argument? f).or ((s.held? f).or (loaded.named? f.name))

/-- The value of a setting where nothing is said. -/
def Setting.standard (f : Setting) : Value := ({} : Config).value f

variable {s : SettingsSources} {c : Config} {loaded : Members}

lemma Environment.members_eq (s : SettingsSources) :
    s.holders.members = Members.saying s.held? := by
  have hvariables : settingVariables = Setting.all.map fun f => (f.name, f.holder) := rfl
  rw [Environment.members, hvariables, List.filterMap_map, Members.saying]
  refine List.filterMap_congr fun f _ => ?_
  rw [SettingsSources.held?, Option.map_map]
  rfl

lemma givenArguments_eq (s : SettingsSources) :
    givenArguments s.arguments = Members.saying s.argument? := by
  have harguments : argumentSettings = Setting.all.map fun f => (f.argument, f.name) := rfl
  rw [givenArguments, harguments, List.filterMap_map, Members.saying]
  refine List.filterMap_congr fun f _ => ?_
  rw [SettingsSources.argument?, Function.comp_apply]
  dsimp only
  cases s.arguments.named? f.argument with
  | none => rfl
  | some value => cases value <;> rfl

/-! ### All settings -/

/-- A configuration is read from settings in which each key is a name. -/
lemma Config.ofSettings_eq_ok {v : Volume} {members : Members}
    (h : Config.ofSettings v members = .ok c) :
    (∀ member ∈ members, isSettingName member.1 = true) ∧
      Config.setAll {} members = .ok c ∧ c.fault? v = none := by
  rw [Config.ofSettings, Config.ofMembers] at h
  cases hnames : checkNames members with
  | error e =>
      rw [hnames] at h
      cases h
  | ok =>
      rw [hnames] at h
      dsimp only at h
      refine ⟨(checkNames_eq_ok members).mp hnames, ?_⟩
      cases hset : Config.setAll {} members with
      | error e =>
          rw [hset] at h
          cases h
      | ok c₁ =>
          rw [hset] at h
          dsimp only at h
          rw [Config.check] at h
          split at h
          · cases h
          · rename_i hfault
            cases h
            exact ⟨rfl, hfault⟩

namespace SettingsSources

lemma config_eq_ok (h : s.config = .ok c) :
    ∃ loaded, s.loaded = .ok loaded ∧ Config.ofSettings s.volume
      ((loaded.update (Members.saying s.held?)).update (Members.saying s.argument?)) = .ok c := by
  rw [config] at h
  split at h
  · cases h
  · rename_i loaded hloaded
    refine ⟨loaded, hloaded, ?_⟩
    rwa [Members.putArguments, Environment.members_eq, givenArguments_eq] at h

/-- Each setting is read from what the sources say of it. -/
lemma valueOf_said (h : s.config = .ok c) (hloaded : s.loaded = .ok loaded) (f : Setting) :
    f.kind.valueOf f.name f.standard (s.said? loaded f) = .ok (c.value f) := by
  obtain ⟨loaded', hloaded', hsettings⟩ := config_eq_ok h
  obtain rfl := Except.ok.inj (hloaded.symm.trans hloaded')
  obtain ⟨hnames, hset, -⟩ := Config.ofSettings_eq_ok hsettings
  have hdistinct := ((loaded_isDistinct hloaded).update (Members.saying s.held?)).update
    (Members.saying s.argument?)
  have hvalue := Config.setAll_value hdistinct hnames hset f
  rwa [Members.named?_update_saying, Members.named?_update_saying] at hvalue

/-- The settings of a run are read from what the sources say of each: the command line if it gives
the argument, or else the environment if it has the variable, or else the settings file if it has
the name. They are standard where no source says anything, and where nothing stands in the place of
a text. Sources that say the same of a setting give it the same value, whatever they say of
others. -/
theorem config_precedence (h : s.config = .ok c) :
    ∃ loaded, s.loaded = .ok loaded ∧
      (∀ f : Setting, f.kind.valueOf f.name f.standard (s.said? loaded f) = .ok (c.value f)) ∧
      ∀ {s' : SettingsSources} {c' : Config} {loaded' : Members}, s'.config = .ok c' →
        s'.loaded = .ok loaded' → ∀ f : Setting, s'.said? loaded' f = s.said? loaded f →
          c'.value f = c.value f := by
  obtain ⟨loaded, hloaded, -⟩ := config_eq_ok h
  refine ⟨loaded, hloaded, valueOf_said h hloaded, fun h' hloaded' f hsame => ?_⟩
  have hvalue := valueOf_said h' hloaded' f
  rw [hsame, valueOf_said h hloaded f] at hvalue
  exact (Except.ok.inj hvalue).symm

/-- A settings file, variables and arguments, each with a link prefix of its own. -/
def layered : SettingsSources where
  volume := ⟨⟨[(["c".toList], .file (utf8Encode "link_prefix: f\nmax_workers: 3".toList))]⟩, []⟩
  environment := []
  holders := [("RELATIVE_LINK_PATH".toList, "v".toList), ("RELATIVE_IMAGE_PATH".toList, "v".toList)]
  file := some "c".toList
  arguments := [(.text "link_prefix".toList, .text "a".toList),
    (.text "asset_prefix".toList, .null), (.text "unnest_tags".toList, .bool false)]

lemma layered_loaded : layered.loaded = .ok [(.text "link_prefix".toList, .text "f".toList),
    (.text "max_workers".toList, .int 3)] := by
  cbv

/-- The link prefix of the command line, the asset prefix of the environment, and the number of
workers of the file. -/
def layeredConfig : Config :=
  { linkPrefix := "a".toList, assetPrefix := "v".toList, workers := 3 }

/-- Each source is heard where none above it says anything. -/
theorem config_precedence_layered :
    layered.config = .ok layeredConfig ∧ ∃ loaded, layered.loaded = .ok loaded ∧
      loaded.named? Setting.linkPrefix.name = some (.text "f".toList) ∧
      ∀ f : Setting, f.kind.valueOf f.name f.standard (layered.said? loaded f)
        = .ok (layeredConfig.value f) := by
  have hconfig : layered.config = .ok layeredConfig := by
    rw [config, layered_loaded]
    cbv
  obtain ⟨loaded, hloaded, hvalue, -⟩ := config_precedence hconfig
  refine ⟨hconfig, loaded, hloaded, ?_, hvalue⟩
  rw [← Except.ok.inj (layered_loaded.symm.trans hloaded)]
  rfl

end SettingsSources

end PageNotes
