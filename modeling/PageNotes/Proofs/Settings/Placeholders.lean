import PageNotes.Proofs.Settings.Precedence
import PageNotes.Proofs.Text.Parts

/-!
Placeholders that are left. A placeholder for a variable that is not set stays in its place when
variables are put in. No folder of a run has one, as settings with such folders are refused;
prefixes, tags and lists keep those of what is said of them.

* `placeholderText`, `mem_placeholders`: the placeholders that stand in a text;
* `Environment.substitute_append_placeholder`: a placeholder stays for a variable that is not set;
* `Environment.LeavesOpen`: texts with such a placeholder;
* `SettingsSources.written`, `SettingsSources.loaded_eq`: the settings file before variables are put
  in;
* `SettingsSources.config_open_iff`: the settings of a run that have such texts.
-/

namespace PageNotes

/-! ### Placeholders in a text -/

/-- The names that a variable in a placeholder may have. -/
def IsVariableName (name : Text) : Prop :=
  name.head?.any isVariableStart = true ∧ ∀ c ∈ name, isVariableChar c = true

/-- The placeholder for a variable. -/
def placeholderText (name : Text) : Text := '$' :: '\x7b' :: (name ++ ['\x7d'])

variable {name t u : Text}

lemma placeholderAt?_eq_some :
    placeholderAt? t = some name ↔ IsVariableName name ∧ placeholderText name <+: t := by
  constructor
  · intro h
    rw [placeholderAt?.eq_def] at h
    split at h
    · rename_i u
      dsimp only at h
      split_ifs at h with hname
      obtain rfl := Option.some.inj h
      obtain ⟨hstart, hend⟩ := Bool.and_eq_true_iff.mp hname
      refine ⟨⟨hstart, fun c hc => List.mem_takeWhile_imp hc⟩, ?_⟩
      obtain ⟨rest, hrest⟩ := List.head?_eq_some_iff.mp (of_decide_eq_true hend)
      refine ⟨rest, ?_⟩
      have hsplit := List.take_append_drop (u.takeWhile isVariableChar).length u
      rw [Text.take_takeWhile_length, hrest] at hsplit
      conv_rhs => rw [← hsplit]
      simp [placeholderText]
    · cases h
  · rintro ⟨⟨hstart, hchars⟩, rest, rfl⟩
    have hmark : isVariableChar '\x7d' = false := by decide
    have htake : (name ++ '\x7d' :: rest).takeWhile isVariableChar = name := by
      rw [List.takeWhile_append_of_pos hchars, List.takeWhile_cons_of_neg (by simp [hmark]),
        List.append_nil]
    simp only [placeholderText, List.cons_append, List.append_assoc, List.nil_append,
      placeholderAt?]
    rw [htake, List.drop_left]
    simp [hstart]

/-- A text has placeholders for the variables whose placeholders are parts of it. -/
lemma mem_placeholders :
    name ∈ placeholders t ↔ IsVariableName name ∧ placeholderText name <:+: t := by
  induction t with
  | nil => simp [placeholders, placeholderText]
  | cons c t ih =>
      rw [List.infix_cons_iff, and_or_left, ← placeholderAt?_eq_some, ← ih, placeholders]
      split
      · rename_i found hfound
        rw [hfound, List.mem_cons, Option.some_inj, eq_comm]
      · rename_i hnone
        simp [hnone]

lemma findPlaceholder?_eq_head? (t : Text) : findPlaceholder? t = (placeholders t).head? := by
  induction t with
  | nil => rfl
  | cons c t ih =>
      rw [findPlaceholder?, placeholders]
      split
      · rfl
      · exact ih

/-- No dollar sign stands inside a placeholder. -/
lemma dollar_notMem (h : IsVariableName name) : '$' ∉ '\x7b' :: (name ++ ['\x7d']) := by
  have hdollar : isVariableChar '$' = false := by decide
  simp only [List.mem_cons, List.mem_append, List.not_mem_nil, or_false]
  rintro (hmark | hname | hmark)
  · exact absurd hmark (by decide)
  · rw [h.2 _ hname] at hdollar
    cases hdollar
  · exact absurd hmark (by decide)

/-- No placeholder lies across a dollar sign. -/
lemma placeholderAt?_append (c : Char) (t u : Text) :
    placeholderAt? (c :: t ++ '$' :: u) = placeholderAt? (c :: t) := by
  refine Option.ext fun name => ?_
  rw [placeholderAt?_eq_some, placeholderAt?_eq_some]
  refine and_congr_right fun hname => ⟨fun h => ?_, fun h => h.trans (List.prefix_append _ _)⟩
  rcases List.prefix_or_prefix_of_prefix h (List.prefix_append (c :: t) ('$' :: u)) with
    hinside | ⟨rest, hrest⟩
  · exact hinside
  · rw [← hrest, List.prefix_append_right_inj] at h
    cases rest with
    | nil => exact ⟨[], by rw [List.append_nil, ← hrest, List.append_nil]⟩
    | cons d rest =>
        obtain ⟨rfl, -⟩ := List.cons_prefix_cons.mp h
        obtain ⟨-, htail⟩ := List.cons_eq_cons.mp hrest
        exact absurd (htail ▸ by simp) (dollar_notMem hname)

/-! ### Variables that are put in -/

namespace Environment

variable (e : Environment)

/-- What is filled in is not longer than the text. -/
lemma fill_length_le {c : Char} {n : ℕ} {new : Text} (h : e.fill (c :: t) = some (n + 1, new)) :
    n ≤ t.length := by
  rw [fill] at h
  split at h
  · rename_i name hname
    obtain ⟨value, -, heq⟩ := Option.map_eq_some_iff.mp h
    have hlength := (placeholderAt?_eq_some.mp hname).2.length_le
    simp only [placeholderText, List.length_cons, List.length_append, List.length_nil] at hlength
    have hn := congrArg Prod.fst heq
    dsimp only at hn
    omega
  · cases h

/-- Nothing is put in across a dollar sign; `skip` characters belong to what was found before. -/
lemma replaceFound_append {skip : ℕ} (h : skip ≤ t.length) (u : Text) :
    Text.replaceFound (fun _ => e.fill) true skip (t ++ '$' :: u)
      = Text.replaceFound (fun _ => e.fill) true skip t ++ e.substitute ('$' :: u) := by
  induction t generalizing skip with
  | nil =>
      obtain rfl := Nat.le_zero.mp h
      rfl
  | cons c t ih =>
      cases skip with
      | succ skip =>
          rw [List.cons_append, Text.replaceFound, Text.replaceFound, Text.replaceFound_const false,
            Text.replaceFound_const false]
          exact ih (Nat.le_of_succ_le_succ h)
      | zero =>
          have hfill : e.fill (c :: t ++ '$' :: u) = e.fill (c :: t) := by
            rw [fill, placeholderAt?_append, fill]
          rw [List.cons_append] at hfill ⊢
          rw [Text.replaceFound, Text.replaceFound, hfill]
          split
          · rename_i n new hfound
            rw [Text.replaceFound_const false, Text.replaceFound_const false,
              ih (e.fill_length_le hfound), List.append_assoc]
          · rw [Text.replaceFound_const false, Text.replaceFound_const false, ih (Nat.zero_le _),
              List.cons_append]

variable {e}

lemma substitute_cons {c : Char} (h : e.fill (c :: t) = none) :
    e.substitute (c :: t) = c :: e.substitute t := by
  rw [substitute, Text.replaceFound, h]
  dsimp only
  rw [Text.replaceFound_const false, substitute]

lemma fill_of_ne {c : Char} (h : c ≠ '$') (t : Text) : e.fill (c :: t) = none := by
  rw [fill]
  split
  · rename_i name hname
    have hhead := (List.cons_prefix_cons.mp (placeholderAt?_eq_some.mp hname).2).1
    exact absurd hhead.symm h
  · rfl

/-- A stretch without dollar sign stays as it is. -/
lemma substitute_append (h : '$' ∉ t) (u : Text) : e.substitute (t ++ u) = t ++ e.substitute u := by
  induction t with
  | nil => rfl
  | cons c t ih =>
      obtain ⟨hc, ht⟩ := List.ne_and_not_mem_of_not_mem_cons h
      rw [List.cons_append, substitute_cons (fill_of_ne (Ne.symm hc) _), ih ht, List.cons_append]

/-- The placeholder of a variable that is not set stays where it is. -/
theorem substitute_append_placeholder (hname : IsVariableName name) (hunset : e.get? name = none)
    (t u : Text) : e.substitute (t ++ (placeholderText name ++ u))
      = e.substitute t ++ (placeholderText name ++ e.substitute u) := by
  have hfill : e.fill (placeholderText name ++ u) = none := by
    rw [fill, placeholderAt?_eq_some.mpr ⟨hname, List.prefix_append _ u⟩]
    dsimp only
    rw [hunset, Option.map_none]
  rw [placeholderText, List.cons_append] at hfill ⊢
  calc e.substitute (t ++ '$' :: ('\x7b' :: (name ++ ['\x7d']) ++ u))
      = e.substitute t ++ e.substitute ('$' :: ('\x7b' :: (name ++ ['\x7d']) ++ u)) :=
        e.replaceFound_append (Nat.zero_le _) _
    _ = e.substitute t ++ '$' :: ('\x7b' :: (name ++ ['\x7d']) ++ e.substitute u) := by
        rw [substitute_cons hfill, substitute_append (dollar_notMem hname)]

variable (e) in
/-- A text with a placeholder for a variable that is not set. -/
def LeavesOpen (t : Text) : Prop := ∃ name ∈ placeholders t, e.get? name = none

/-- What is left open stays so when variables are put in. -/
lemma LeavesOpen.substitute (h : e.LeavesOpen t) : e.LeavesOpen (e.substitute t) := by
  obtain ⟨name, hmem, hunset⟩ := h
  obtain ⟨hname, before, after, rfl⟩ := mem_placeholders.mp hmem
  refine ⟨name, mem_placeholders.mpr ⟨hname, ?_⟩, hunset⟩
  rw [List.append_assoc, substitute_append_placeholder hname hunset, ← List.append_assoc]
  exact List.infix_append _ _ _

/-- Without variables nothing is put in. -/
lemma substitute_nil (t : Text) : Environment.substitute [] t = t := by
  induction t with
  | nil => rfl
  | cons c t ih =>
      have hfill : Environment.fill [] (c :: t) = none := by
        rw [fill]
        split <;> rfl
      rw [substitute_cons hfill, ih]

end Environment

/-! ### Settings files as they are written -/

mutual

/-- Without variables a value stays as it is. -/
lemma Value.substitute_nil (value : Value) : value.substitute [] = value := by
  cases value with
  | text t => rw [Value.substitute, Environment.substitute_nil]
  | list items => rw [Value.substitute, Value.substituteAll_nil items]
  | mapping members => rw [Value.substitute, Value.substituteMembers_nil members]
  | _ => rfl

lemma Value.substituteAll_nil (items : List Value) : Value.substituteAll [] items = items := by
  cases items with
  | nil => rfl
  | cons item rest =>
      rw [Value.substituteAll, Value.substitute_nil item, Value.substituteAll_nil rest]

lemma Value.substituteMembers_nil (members : Members) :
    Value.substituteMembers [] members = members := by
  cases members with
  | nil => rfl
  | cons member rest =>
      obtain ⟨key, value⟩ := member
      rw [Value.substituteMembers, Value.substitute_nil value, Value.substituteMembers_nil rest]

end

section Substitution

variable (e : Environment) (members : Members)

lemma Members.named?_substitute (name : String) :
    Members.named? (Value.substituteMembers e members) name
      = (members.named? name).map (Value.substitute e) := by
  rw [Members.named?, Members.named?, Members.get?, Members.get?, Value.substituteMembers_eq,
    List.find?_map, Option.map_map, Option.map_map]
  rfl

lemma sectionOf_substitute : sectionOf (Value.substituteMembers e members)
    = (sectionOf members).map (Value.substituteMembers e) := by
  rw [sectionOf, sectionOf, Members.named?_substitute]
  cases members.named? settingsSection with
  | none => rfl
  | some value => cases value <;> rfl

end Substitution

/-- The settings in the file as they are written there, placeholders included. -/
def SettingsSources.written (s : SettingsSources) : Except SettingsError Members :=
  { s with environment := [] }.loaded

lemma settingsOfText_eq (e : Environment) (t : Text) :
    settingsOfText e t = (settingsOfText [] t).map (Value.substituteMembers e) := by
  rw [settingsOfText, settingsOfText]
  split
  · rfl
  · rename_i value endless hread
    split_ifs
    · rfl
    · cases value <;> rfl
    · cases value with
      | mapping members =>
          dsimp only
          rw [Value.substituteMembers_nil, sectionOf_substitute]
      | _ => rfl

/-- The settings of a run come from those in the file by putting variables in. -/
lemma SettingsSources.loaded_eq (s : SettingsSources) :
    s.loaded = s.written.map (Value.substituteMembers s.environment) := by
  rw [written, loaded, loaded]
  dsimp only
  split
  · rfl
  · rfl
  · rw [loadSettings, loadSettings]
    split
    · rfl
    · rfl
    · split
      · rfl
      · exact settingsOfText_eq _ _

/-! ### Texts of settings -/

/-- The texts in the value of a setting: the text itself, or the items of a list. -/
def Value.settingTexts : Value → List Text
  | .text t => [t]
  | .list items => items.map Value.display
  | _ => []

/-- The texts that a value is read as. -/
def SettingKind.texts : SettingKind → Value → List Text
  | .list, value => (readList value).toOption.getD []
  | .text, .null => []
  | .text, value => [value.display]
  | _, _ => []

/-- The folders among the settings. -/
def Setting.isFolder : Setting → Bool
  | .inputFolder | .outputFolder | .imageFolder => true
  | _ => false

lemma Setting.standard_closed (f : Setting) :
    ∀ t ∈ f.standard.settingTexts, placeholders t = [] := by
  cases f <;> decide

lemma settingTexts_texts (ts : List Text) : (Value.texts ts).settingTexts = ts := by
  rw [Value.texts, Value.settingTexts, List.map_map]
  exact List.map_id ts

/-- The texts that are said of a setting are those that it has, but for standard ones. -/
lemma SettingKind.mem_texts_of_valueOf {kind : SettingKind} {name : String} {before value : Value}
    {said : Option Value} (h : kind.valueOf name before said = .ok value) {P : Text → Prop}
    (hbefore : ∀ t ∈ before.settingTexts, ¬P t) :
    (∃ t ∈ value.settingTexts, P t) ↔ ∃ v, said = some v ∧ ∃ t ∈ kind.texts v, P t := by
  have hnone : ¬∃ t ∈ before.settingTexts, P t := fun ⟨t, hmem, ht⟩ => hbefore t hmem ht
  cases said with
  | none =>
      cases h
      exact iff_of_false hnone nofun
  | some v =>
      simp only [Option.some.injEq, exists_eq_left']
      cases kind with
      | list =>
          obtain ⟨ts, hread, rfl⟩ := exists_of_map_eq_ok h
          rw [settingTexts_texts, texts, hread]
          rfl
      | flag | count =>
          obtain ⟨x, -, rfl⟩ := exists_of_map_eq_ok h
          rfl
      | text =>
          obtain ⟨t, hread, rfl⟩ := exists_of_map_eq_ok h
          cases v with
          | null =>
              cases hread
              exact iff_of_false hnone (by simp [texts])
          | _ =>
              dsimp only [readText] at hread
              split_ifs at hread
              cases hread
              rfl

/-- In the folders of settings in which nothing is wrong no placeholder is left. -/
lemma Config.folder_closed {c : Config} {v : Volume} (h : c.fault? v = none) {f : Setting}
    (hf : f.isFolder = true) : ∀ t ∈ (c.value f).settingTexts, placeholders t = [] := by
  rw [fault?] at h
  split at h
  · cases h
  · rename_i hfolders
    have hclosed : ∀ folder ∈ c.folders, placeholders folder.2 = [] := by
      intro folder hmem
      have hfault := List.findSome?_eq_none_iff.mp hfolders folder hmem
      dsimp only at hfault
      rw [folderFault?] at hfault
      split_ifs at hfault
      rwa [Option.map_eq_none_iff, findPlaceholder?_eq_head?, List.head?_eq_none_iff] at hfault
    simp only [folders, List.forall_mem_cons, List.not_mem_nil, false_implies, implies_true,
      and_true] at hclosed
    obtain ⟨hinput, houtput, himage⟩ := hclosed
    cases f with
    | inputFolder => exact List.forall_mem_singleton.mpr hinput
    | outputFolder => exact List.forall_mem_singleton.mpr houtput
    | imageFolder => exact List.forall_mem_singleton.mpr himage
    | _ => cases hf

namespace SettingsSources

variable {s : SettingsSources} {c : Config}

/-- A run may have settings with a placeholder for a variable that is not set, though never in a
folder: a setting has such a text just when it is read from one in what the sources say of it. In
particular a text that is said only in the settings file keeps all that is left open in it. -/
theorem config_open_iff (h : s.config = .ok c) :
    ∃ written, s.written = .ok written ∧
      (∀ f : Setting, (∃ t ∈ (c.value f).settingTexts, s.environment.LeavesOpen t) ↔
        f.isFolder = false ∧
          ∃ value, s.said? (Value.substituteMembers s.environment written) f = some value ∧
            ∃ t ∈ f.kind.texts value, s.environment.LeavesOpen t) ∧
      ∀ f : Setting, f.kind = .text → s.argument? f = none → s.held? f = none →
        ∀ t, written.named? f.name = some (.text t) → s.environment.LeavesOpen t →
          c.value f = .text (s.environment.substitute t) ∧
            s.environment.LeavesOpen (s.environment.substitute t) := by
  obtain ⟨loaded, hloaded, hsettings⟩ := config_eq_ok h
  have hvalue := valueOf_said h hloaded
  rw [loaded_eq] at hloaded
  obtain ⟨written, hwritten, rfl⟩ := exists_of_map_eq_ok hloaded
  refine ⟨written, hwritten, fun f => ?_, fun f hkind hargument hheld t ht hopen => ?_⟩
  · cases hfolder : f.isFolder with
    | true =>
        -- Settings with any placeholder in a folder do not pass the check.
        have hclosed := Config.folder_closed (Config.ofSettings_eq_ok hsettings).2.2 hfolder
        refine iff_of_false (fun ⟨t, hmem, name, hname, _⟩ => ?_) (fun hnot => nomatch hnot.1)
        rw [hclosed t hmem] at hname
        cases hname
    | false =>
        rw [SettingKind.mem_texts_of_valueOf (hvalue f)]
        · exact (and_iff_right rfl).symm
        · rintro t hmem ⟨name, hname, -⟩
          rw [f.standard_closed t hmem] at hname
          cases hname
  · refine ⟨?_, hopen.substitute⟩
    have hread := hvalue f
    rw [said?, hargument, hheld, Members.named?_substitute, ht, hkind] at hread
    exact (Except.ok.inj hread).symm

/-- A settings file with a link prefix in which a variable stands that is not set. -/
def unsetPrefix : SettingsSources where
  volume := ⟨⟨[(["c".toList], .file (utf8Encode "link_prefix: $\x7bS\x7d".toList))]⟩, []⟩
  environment := []
  holders := []
  file := some "c".toList

/-- The link prefix of the file. -/
def unsetPrefixConfig : Config := { linkPrefix := "$\x7bS\x7d".toList }

/-- Such a file is taken, and its link prefix is left open. -/
theorem config_open_iff_prefix :
    unsetPrefix.config = .ok unsetPrefixConfig ∧
      unsetPrefix.environment.LeavesOpen unsetPrefixConfig.linkPrefix := by
  have hloaded : unsetPrefix.loaded = .ok [(.text "link_prefix".toList,
      .text "$\x7bS\x7d".toList)] := by
    cbv
  have hconfig : unsetPrefix.config = .ok unsetPrefixConfig := by
    rw [config, hloaded]
    cbv
  obtain ⟨written, hwritten, -, hkept⟩ := config_open_iff hconfig
  obtain rfl := Except.ok.inj (hwritten.symm.trans hloaded)
  obtain ⟨hvalue, hopen⟩ := hkept .linkPrefix rfl rfl rfl _ rfl ⟨['S'], by decide, rfl⟩
  rw [← Value.text.inj hvalue] at hopen
  exact ⟨hconfig, hopen⟩

end SettingsSources

end PageNotes
