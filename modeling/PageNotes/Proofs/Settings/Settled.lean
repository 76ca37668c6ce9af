import PageNotes.Proofs.Settings.Precedence
import PageNotes.Proofs.Text.Caseless
import PageNotes.Proofs.Text.Slug

/-!
Configurations are read back as themselves. What a list is read as has items in lower case, without
blanks around them and not empty, and such items are read as themselves; so are truth values,
integers and texts. A configuration that was accepted is therefore the one that its own settings by
name give.

* `IsListItem`: the items of lists; `isListItem_lower_strip`, `readList_texts`;
* `Config.IsSettled`: the lists of a configuration have such items; `Config.set_isSettled`,
  `Config.setAll_isSettled`: one value, and all members;
* `Config.IsSettled.valueOf`: the settings are read as themselves;
* `Config.ofSettings_members`: the configuration is.
-/

namespace PageNotes

/-! ### Items of lists -/

/-- An item of a list: a text in lower case, without blanks around it and not empty. -/
structure IsListItem (t : Text) : Prop where
  ne : t ≠ []
  strip : Text.strip t = t
  lower : Text.lower t = t

lemma isListItem_lower_strip {t : Text} (h : Text.strip t ≠ []) :
    IsListItem (Text.lower (Text.strip t)) where
  ne := fun hnil => h (Text.lower_eq_nil_iff.mp hnil)
  strip := by
    have hstrip : Text.strip (Text.strip t) = Text.strip t :=
      Text.trim_eq_self (Text.strip_head t) (Text.strip_last t)
    rw [Text.strip, ← Text.lower_trim isCaseless_isBlank]
    exact congrArg Text.lower hstrip
  lower := Text.lower_eq_self_of_forms fun _ => Text.lowerForm_of_mem_lowerAfter

/-- What a list is read as has items of lists. -/
lemma isListItem_of_readList {value : Value} {items : List Text} (h : readList value = .ok items) :
    ∀ t ∈ items, IsListItem t := by
  rw [readList] at h
  split at h
  · cases h
  · split at h
    · cases h
    · cases h
      intro t ht
      obtain ⟨u, hu, rfl⟩ := List.mem_map.mp ht
      obtain ⟨hmem, hne⟩ := List.mem_filter.mp hu
      obtain ⟨item, -, rfl⟩ := List.mem_map.mp hmem
      exact isListItem_lower_strip (by simpa using hne)

/-- A list of such items is read as itself. -/
lemma readList_texts {items : List Text} (h : ∀ t ∈ items, IsListItem t) :
    readList (.texts items) = .ok items := by
  have hshort : (items.map Value.text).any Value.hasLongInteger = false := by
    rw [List.any_eq_false]
    intro value hvalue
    obtain ⟨t, -, rfl⟩ := List.mem_map.mp hvalue
    exact Bool.false_ne_true
  have hself (f : Text → Text) (hf : ∀ t ∈ items, f t = t) : items.map f = items :=
    (List.map_congr_left hf).trans (List.map_id items)
  have hstripped : (items.map Value.text).map (fun item => Text.strip item.display) = items := by
    rw [List.map_map]
    exact hself _ fun t ht => (h t ht).strip
  have hkept : items.filter (fun t => !t.isEmpty) = items :=
    List.filter_eq_self.mpr fun t ht => by simpa using (h t ht).ne
  rw [Value.texts, readList, Value.items?]
  dsimp only
  rw [hshort, hstripped, hkept, hself _ fun t ht => (h t ht).lower]
  rfl

/-! ### Configurations -/

namespace Config

variable {c c' : Config} {f : Setting} {value : Value} {members : Members} {v : Volume}

/-- The lists of a configuration have items of lists. -/
def IsSettled (c : Config) : Prop :=
  ∀ f items, c.value f = .texts items → ∀ t ∈ items, IsListItem t

lemma standard_isSettled : ({} : Config).IsSettled := by
  intro f items h
  cases f with
  | ignoreTags | ignoreMeta =>
      rw [← Value.texts_inj h]
      exact nofun
  | _ => cases h

/-- A value that is put in leaves a configuration settled. -/
lemma set_isSettled (hc : c.IsSettled) (h : c.set f.name value = .ok c') : c'.IsSettled := by
  intro g items hitems
  by_cases hg : g = f
  · subst hg
    have hvalue := c.set_value g value
    rw [h] at hvalue
    change Except.ok (c'.value g) = _ at hvalue
    rw [hitems] at hvalue
    cases hkind : g.kind with
    | list =>
        rw [hkind] at hvalue
        obtain ⟨read, hread, hsame⟩ := exists_of_map_eq_ok hvalue.symm
        rw [← Value.texts_inj hsame]
        exact isListItem_of_readList hread
    | flag | count =>
        rw [hkind] at hvalue
        obtain ⟨read, -, hsame⟩ := exists_of_map_eq_ok hvalue.symm
        cases hsame
    | text =>
        rw [hkind] at hvalue
        obtain ⟨_ | t, -, hsame⟩ := exists_of_map_eq_ok hvalue.symm
        · exact hc g items hsame
        · cases hsame
  · rw [set_value_of_ne h hg] at hitems
    exact hc g items hitems

/-- Values that are put in one after another leave a configuration settled. -/
lemma setAll_isSettled (hc : c.IsSettled)
    (hnames : ∀ member ∈ members, isSettingName member.1 = true)
    (h : c.setAll members = .ok c') : c'.IsSettled := by
  induction members generalizing c with
  | nil =>
      cases h
      exact hc
  | cons first rest ih =>
      obtain ⟨key, value⟩ := first
      obtain ⟨hname, hothers⟩ := List.forall_mem_cons.mp hnames
      obtain ⟨f, rfl⟩ := Setting.exists_name hname
      rw [setAll, Value.display, String.ofList_toList] at h
      split at h
      · rename_i c₁ hset
        exact ih (set_isSettled hc hset) hothers h
      · cases h

/-- The settings of a settled configuration are read as themselves. -/
lemma IsSettled.valueOf (hc : c.IsSettled) (f : Setting) :
    f.kind.valueOf f.name f.standard (some (c.value f)) = .ok (c.value f) := by
  cases f with
  | ignoreTags =>
      change (readList (.texts c.ignoreTags)).map _ = _
      rw [readList_texts (hc .ignoreTags _ rfl)]
      rfl
  | ignoreMeta =>
      change (readList (.texts c.ignoreMeta)).map _ = _
      rw [readList_texts (hc .ignoreMeta _ rfl)]
      rfl
  | organizingTag =>
      change (readText (.textOrNull c.organizingTag)).map _ = .ok (Value.textOrNull c.organizingTag)
      cases c.organizingTag <;> rfl
  | _ => rfl

/-- The settings of a settled configuration by name give the configuration. -/
lemma IsSettled.setAll (hc : c.IsSettled) : Config.setAll {} c.members = .ok c := by
  cases hset : Config.setAll {} c.members with
  | error e =>
      obtain ⟨before, key, value, after, hsplit, -, hread⟩ :=
        (setAll_error_iff {} c.members).mp hset
      have hmem : (key, value) ∈ c.members := by
        rw [hsplit]
        simp
      rw [members_eq] at hmem
      obtain ⟨f, value, hvalue, heq⟩ := Members.mem_saying.mp hmem
      cases heq
      cases hvalue
      have htakes : f.kind.Takes (c.value f) := SettingKind.takes_of_valueOf (hc.valueOf f)
      rw [Value.settingKind, Value.display, String.ofList_toList] at hread
      rw [← Setting.kind, SettingKind.read_of_takes htakes] at hread
      cases hread
  | ok c' =>
      refine congrArg _ (eq_of_value fun f => ?_)
      rw [members_eq] at hset
      have hvalue := setAll_value (Members.saying_isDistinct _) (Members.saying_names _) hset f
      rw [Members.named?_saying] at hvalue
      exact Except.ok.inj (hvalue.symm.trans (hc.valueOf f))

/-- A configuration that was accepted is accepted again from its own settings by name, and is the
same. -/
theorem ofSettings_members (h : Config.ofSettings v members = .ok c) :
    Config.ofSettings v c.members = .ok c := by
  obtain ⟨hnames, hset, hfault⟩ := ofSettings_eq_ok h
  have hsettled := setAll_isSettled standard_isSettled hnames hset
  have hown : checkNames c.members = .ok () :=
    (checkNames_eq_ok _).mpr (Members.saying_names fun f => some (c.value f))
  rw [ofSettings, ofMembers, hown]
  dsimp only
  rw [hsettled.setAll]
  dsimp only
  rw [check, hfault]

/-- A list with commas, a truth value and an integer, all written as texts. -/
def written : Members := [(.text "ignore_tags".toList, .text "Draft,ΟΔΟΣ ,".toList),
  (.text "unnest_tags".toList, .text "YES".toList), (.text "max_workers".toList, .text " 3".toList)]

/-- What the texts are read as. -/
def ofWritten : Config :=
  { ignoreTags := ["draft".toList, "οδος".toList], unnestTags := true, workers := 3 }

theorem ofSettings_members_written : Config.ofSettings ⟨⟨[]⟩, []⟩ written = .ok ofWritten ∧
    Config.ofSettings ⟨⟨[]⟩, []⟩ ofWritten.members = .ok ofWritten := by
  have haccepted : Config.ofSettings ⟨⟨[]⟩, []⟩ written = .ok ofWritten := by cbv
  exact ⟨haccepted, ofSettings_members haccepted⟩

end Config

end PageNotes
