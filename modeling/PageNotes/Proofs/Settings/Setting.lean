import PageNotes.Proofs.Settings.Members

/-!
Settings one by one. Each has a name in settings files, a variable of the environment that holds it
and an argument of the command line; the tables of these agree. A value that is put in is read into
the field of its name and into no other, so among members in which no name stands twice each field
is told by the value with its name.

* `Setting`, `Config.value`: the settings, and the value of each;
* `Members.saying`: members that say of each setting what is to be said of it;
* `SettingKind.valueOf`: what a value is read as, or no value;
* `Config.set_value`, `Config.setAll_value`: one value, and all members.
-/

namespace PageNotes

/-- The settings of a run. -/
inductive Setting where
  | inputFolder
  | outputFolder
  | imageFolder
  | linkPrefix
  | assetPrefix
  | ignoreTags
  | ignoreMeta
  | organizingTag
  | unnestTags
  | italicsToAlt
  | workers
  deriving DecidableEq, Repr

namespace Setting

/-- The name in a settings file. -/
def name : Setting → String
  | inputFolder => "input_folder"
  | outputFolder => "output_folder"
  | imageFolder => "image_folder"
  | linkPrefix => "link_prefix"
  | assetPrefix => "asset_prefix"
  | ignoreTags => "ignore_tags"
  | ignoreMeta => "ignore_meta"
  | organizingTag => "organizing_tag"
  | unnestTags => "unnest_tags"
  | italicsToAlt => "italics_to_alt"
  | workers => "max_workers"

/-- The variable of the environment that holds the setting. -/
def holder : Setting → String
  | inputFolder => "INPUT_FOLDER"
  | outputFolder => "OUTPUT_FOLDER"
  | imageFolder => "IMAGE_FOLDER"
  | linkPrefix => "RELATIVE_LINK_PATH"
  | assetPrefix => "RELATIVE_IMAGE_PATH"
  | ignoreTags => "IGNORE_TAGS"
  | ignoreMeta => "IGNORE_META"
  | organizingTag => "ORGANIZING_TAG"
  | unnestTags => "UNNEST_TAGS"
  | italicsToAlt => "ITALICS_TO_ALT"
  | workers => "MAX_WORKERS"

/-- The argument of the command line. -/
def argument : Setting → String
  | inputFolder => "input_dir"
  | outputFolder => "output_dir"
  | imageFolder => "asset_dir"
  | linkPrefix => "link_prefix"
  | assetPrefix => "asset_prefix"
  | ignoreTags => "ignore_tags"
  | ignoreMeta => "ignore_meta"
  | organizingTag => "organizing_tag"
  | unnestTags => "unnest_tags"
  | italicsToAlt => "italics_to_alt"
  | workers => "workers"

/-- What the value of the setting is read as. -/
def kind (f : Setting) : SettingKind := .ofName f.name

/-- All settings, in the order in which they are listed. -/
def all : List Setting := [inputFolder, outputFolder, imageFolder, linkPrefix, assetPrefix,
  ignoreTags, ignoreMeta, organizingTag, unnestTags, italicsToAlt, workers]

lemma mem_all (f : Setting) : f ∈ all := by cases f <;> decide

/-- No two settings have one name. -/
lemma name_inj {f g : Setting} (h : f.name = g.name) : f = g :=
  List.inj_on_of_nodup_map (l := all) (by decide +kernel) (mem_all f) (mem_all g) h

lemma isSettingName_name (f : Setting) : isSettingName (.text f.name.toList) = true := by
  cases f <;> decide

/-- The keys that are names of settings are those of the settings. -/
lemma exists_name {key : Value} (h : isSettingName key = true) :
    ∃ f : Setting, key = .text f.name.toList := by
  cases key with
  | text t =>
      have hnames : settingNames = all.map name := rfl
      rw [isSettingName, List.contains_iff_mem, hnames] at h
      obtain ⟨f, -, hname⟩ := List.mem_map.mp h
      exact ⟨f, by rw [hname, String.toList_ofList]⟩
  | _ => cases h

end Setting

/-! ### Configurations -/

namespace Config

/-- The value of a setting. -/
def value (c : Config) : Setting → Value
  | .inputFolder => .text c.inputFolder
  | .outputFolder => .text c.outputFolder
  | .imageFolder => .text c.imageFolder
  | .linkPrefix => .text c.linkPrefix
  | .assetPrefix => .text c.assetPrefix
  | .ignoreTags => .texts c.ignoreTags
  | .ignoreMeta => .texts c.ignoreMeta
  | .organizingTag => .textOrNull c.organizingTag
  | .unnestTags => .bool c.unnestTags
  | .italicsToAlt => .bool c.italicsToAlt
  | .workers => .int c.workers

end Config

lemma Value.texts_inj {s t : List Text} (h : Value.texts s = Value.texts t) : s = t :=
  List.map_injective_iff.mpr (fun _ _ heq => Value.text.inj heq) (Value.list.inj h)

lemma Value.textOrNull_inj {s t : Option Text} (h : Value.textOrNull s = Value.textOrNull t) :
    s = t := by
  cases s <;> cases t <;> cases h <;> rfl

/-- A configuration is given by the values of its settings. -/
lemma Config.eq_of_value {c c' : Config} (h : ∀ f, c.value f = c'.value f) : c = c' := by
  obtain ⟨⟩ := c
  obtain ⟨⟩ := c'
  simp only [Config.mk.injEq]
  exact ⟨Value.text.inj (h .inputFolder), Value.text.inj (h .outputFolder),
    Value.text.inj (h .imageFolder), Value.text.inj (h .linkPrefix),
    Value.text.inj (h .assetPrefix),
    Value.texts_inj (h .ignoreTags), Value.texts_inj (h .ignoreMeta),
    Value.textOrNull_inj (h .organizingTag), Value.bool.inj (h .unnestTags),
    Value.bool.inj (h .italicsToAlt), Value.int.inj (h .workers)⟩

/-! ### Members -/

namespace Members

/-- The members that say of each setting what is to be said of it. -/
def saying (say : Setting → Option Value) : Members :=
  Setting.all.filterMap fun f => (say f).map fun value => (.text f.name.toList, value)

variable {say : Setting → Option Value} {members : Members} {f : Setting}

lemma mem_saying {member : Value × Value} :
    member ∈ saying say ↔
      ∃ f value, say f = some value ∧ (.text f.name.toList, value) = member := by
  simp [saying, Setting.mem_all]

lemma saying_names (say : Setting → Option Value) :
    ∀ member ∈ saying say, isSettingName member.1 = true := by
  intro member hmem
  obtain ⟨f, value, -, rfl⟩ := mem_saying.mp hmem
  exact f.isSettingName_name

lemma saying_isDistinct (say : Setting → Option Value) : (saying say).IsDistinct := by
  have hnames : Setting.all.Pairwise fun f g => f.name ≠ g.name := by decide +kernel
  refine List.pairwise_filterMap.mpr (hnames.imp fun {f g} hfg first hfirst second hsecond => ?_)
  obtain ⟨value, -, rfl⟩ := Option.map_eq_some_iff.mp hfirst
  obtain ⟨value', -, rfl⟩ := Option.map_eq_some_iff.mp hsecond
  rw [Bool.eq_false_iff, Ne, Value.sameKey_text, Value.text.injEq, String.toList_inj]
  exact hfg

/-- What is said of a setting stands under its name. -/
lemma named?_saying (say : Setting → Option Value) (f : Setting) :
    (saying say).named? f.name = say f := by
  cases hsay : say f with
  | some value => exact (saying_isDistinct say).get? (mem_saying.mpr ⟨f, value, hsay, rfl⟩)
  | none =>
      refine get?_eq_none fun member hmem => ?_
      obtain ⟨g, value, hg, rfl⟩ := mem_saying.mp hmem
      rw [Bool.eq_false_iff, Ne, Value.sameKey_text, Value.text.injEq, String.toList_inj]
      rintro hname
      rw [Setting.name_inj hname, hsay] at hg
      cases hg

/-- Where nothing more is said of a setting, the members tell its value. -/
lemma named?_update_saying (members : Members) (say : Setting → Option Value) (f : Setting) :
    (members.update (saying say)).named? f.name = (say f).or (members.named? f.name) := by
  rw [← named?_saying say f]
  exact get?_update (saying_isDistinct say) fun member hmem =>
    isText_of_isSettingName (saying_names say member hmem)

end Members

/-- The settings by name are what a configuration says of each. -/
lemma Config.members_eq (c : Config) : c.members = Members.saying fun f => some (c.value f) := rfl

/-! ### Reading -/

/-- The text that a value is read as; there is none where nothing stands. -/
def readText (value : Value) : Except SettingsError (Option Text) :=
  match value with
  | .null => .ok none
  | value => if value.hasLongInteger then .error .longInteger else .ok (some value.display)

/-- What the value of a setting is read as. Where there is none the setting is as before, and so it
is where nothing stands in the place of a text. -/
def SettingKind.valueOf (kind : SettingKind) (name : String) (before : Value) :
    Option Value → Except SettingsError Value
  | none => .ok before
  | some value => match kind with
    | list => (readList value).map .texts
    | flag => (readFlag name value).map .bool
    | count => (readCount name value).map .int
    | text => (readText value).map fun t => t.elim before .text

/-- A value that is read as a setting is one that the setting may have. -/
lemma SettingKind.takes_of_valueOf {kind : SettingKind} {name : String}
    {before value result : Value} (h : kind.valueOf name before (some value) = .ok result) :
    kind.Takes value := by
  have hread : kind.read name value = .ok () := by
    cases kind with
    | list | flag | count =>
        obtain ⟨read, hread, -⟩ := exists_of_map_eq_ok h
        rw [SettingKind.read, hread]
        rfl
    | text =>
        obtain ⟨read, hread, -⟩ := exists_of_map_eq_ok h
        rw [readText.eq_def] at hread
        split at hread
        · rfl
        · split at hread
          · cases hread
          · rename_i hshort
            rw [SettingKind.read, if_neg hshort]
  exact SettingKind.read_ok_iff.mp hread

namespace Config

variable {c c' : Config} {f : Setting} {value : Value} {members : Members}

lemma set_text (c : Config) {name : String} (h : SettingKind.ofName name = .text) (value : Value) :
    c.set name value = (readText value).map fun t => t.elim c (c.setText name) := by
  rw [Config.set.eq_def]
  split
  iterate 5 exact absurd h (by decide)
  cases value with
  | null => rfl
  | _ =>
      dsimp only [readText]
      split <;> rfl

/-- A value that is put in is read into its setting. -/
lemma set_value (c : Config) (f : Setting) (value : Value) :
    (c.set f.name value).map (Config.value · f)
      = f.kind.valueOf f.name (c.value f) (some value) := by
  cases f with
  | ignoreTags | ignoreMeta =>
      change ((readList value).map _).map _ = (readList value).map _
      cases readList value <;> rfl
  | unnestTags | italicsToAlt =>
      change ((readFlag _ value).map _).map _ = (readFlag _ value).map _
      cases readFlag _ value <;> rfl
  | workers =>
      change ((readCount _ value).map _).map _ = (readCount _ value).map _
      cases readCount _ value <;> rfl
  | _ =>
      rw [set_text c (by decide)]
      change _ = (readText value).map _
      rcases readText value with e | ⟨_ | t⟩ <;> rfl

/-- A value that is put in changes no other setting. -/
lemma set_value_of_ne (h : c.set f.name value = .ok c') {g : Setting} (hne : g ≠ f) :
    c'.value g = c.value g := by
  cases f with
  | ignoreTags | ignoreMeta | unnestTags | italicsToAlt | workers =>
      obtain ⟨x, -, rfl⟩ := exists_of_map_eq_ok h
      cases g <;> first | rfl | exact absurd rfl hne
  | _ =>
      rw [set_text c (by decide)] at h
      obtain ⟨_ | t, -, rfl⟩ := exists_of_map_eq_ok h
      · rfl
      · cases g <;> first | rfl | exact absurd rfl hne

/-- Among members in which no name stands twice, each setting is told by the value with its name. -/
lemma setAll_value (hdistinct : members.IsDistinct)
    (hnames : ∀ member ∈ members, isSettingName member.1 = true)
    (h : c.setAll members = .ok c') (f : Setting) :
    f.kind.valueOf f.name (c.value f) (members.named? f.name) = .ok (c'.value f) := by
  induction members generalizing c with
  | nil =>
      cases h
      rfl
  | cons first rest ih =>
      obtain ⟨key, value⟩ := first
      have hrest : Members.IsDistinct rest := List.Pairwise.of_cons hdistinct
      obtain ⟨hname, hothers⟩ := List.forall_mem_cons.mp hnames
      obtain ⟨g, rfl⟩ := Setting.exists_name hname
      rw [setAll, Value.display, String.ofList_toList] at h
      split at h
      · rename_i c₁ hset
        have hlater := ih hrest hothers h
        rw [Members.named?, Members.get?_cons_text]
        split_ifs with hfg
        · obtain rfl := Setting.name_inj (String.toList_inj.mp hfg)
          have hnone : Members.named? rest g.name = none := hdistinct.get?_rest
          rw [hnone] at hlater
          rw [← set_value, hset, ← hlater]
          rfl
        · have hne : f ≠ g := by
            rintro rfl
            exact hfg rfl
          rwa [← set_value_of_ne hset hne]
      · cases h

end Config

end PageNotes
