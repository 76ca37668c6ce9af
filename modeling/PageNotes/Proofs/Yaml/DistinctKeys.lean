import PageNotes.Proofs.Settings.Members

/-!
Keys of YAML mappings. In no mapping that a YAML text denotes does a key stand twice, at whatever
depth: the members that a mapping takes from others are put into it one after another, and so are
its own. Variables are put into values and not into keys, so this holds of the settings in a file.

* `Yaml.Node.value_isKeyed`, `Yaml.memberValues_isKeyed`: the values of nodes;
* `Value.IsKeyed.substitute`: variables in the place of placeholders;
* `SettingsSources.loaded_isDistinct`: the settings in a file.
-/

namespace PageNotes

/-! ### Nodes -/

namespace Yaml

lemma Found.map_both_eq_ok {α β γ : Type} {a : Found α} {b : Found β} {f : α × β → γ} {r : γ}
    (h : (a.both b).map f = .ok r) : ∃ x y, a = .ok x ∧ b = .ok y ∧ f (x, y) = r := by
  cases a with
  | error e => cases b <;> cases h
  | ok x =>
      cases b with
      | error e => cases h
      | ok y => exact ⟨x, y, rfl, rfl, Except.ok.inj h⟩

lemma isScalar_of_scalarValue {kind : Kind} {t : Text} {value : Value}
    (h : scalarValue kind t = .ok value) : value.isScalar = true := by
  cases kind with
  | text | null =>
      cases h
      rfl
  | bool | int | float =>
      obtain ⟨x, -, rfl⟩ := exists_of_map_eq_ok h
      rfl
  | timestamp =>
      rw [scalarValue, readTimestamp] at h
      split at h
      · cases h
      · split at h <;>
        · obtain ⟨x, -, rfl⟩ := exists_of_map_eq_ok h
          rfl
  | list | mapping | merge | default | unknown => cases h

/-- A scalar node has a scalar value. -/
lemma Node.isScalar_of_value {depth : ℕ} {kind : Kind} {t : Text} {value : Value}
    (h : (Node.scalar kind t).value depth = .ok value) : value.isScalar = true := by
  have hscalar : (scalarValue kind t).mapError (depth, ·) = .ok value → value.isScalar = true := by
    intro hvalue
    cases hkind : scalarValue kind t with
    | error e => simp [hkind, Except.mapError] at hvalue
    | ok v =>
        rw [hkind] at hvalue
        cases hvalue
        exact isScalar_of_scalarValue hkind
  cases kind with
  | list | mapping => simp [Node.value] at h
  | _ => exact hscalar (by simpa only [Node.value] using h)

mutual

/-- In no mapping inside the value of a node does a key stand twice. -/
lemma Node.value_isKeyed {depth : ℕ} {node : Node} {value : Value}
    (h : node.value depth = .ok value) : value.IsKeyed := by
  match node with
  | .scalar _ _ => exact .scalar (Node.isScalar_of_value h)
  | .sequence kind items =>
      cases kind with
      | list =>
          rw [Node.value] at h
          obtain ⟨values, hitems, rfl⟩ := exists_of_map_eq_ok h
          exact .list (itemValues_isKeyed hitems)
      | _ => simp [Node.value] at h
  | .mapping kind members =>
      cases kind with
      | mapping =>
          rw [Node.value] at h
          obtain ⟨own, hmembers, rfl⟩ := exists_of_map_eq_ok h
          obtain ⟨hkeys, hvalues⟩ := memberValues_isKeyed hmembers
          exact .mapping hkeys hvalues
      | _ => simp [Node.value] at h
  | .enclosing =>
      rw [Node.value] at h
      cases h
      exact .scalar rfl

lemma itemValues_isKeyed {depth : ℕ} {items : List Node} {values : List Value}
    (h : itemValues depth items = .ok values) : ∀ value ∈ values, value.IsKeyed := by
  match items with
  | [] =>
      rw [itemValues] at h
      cases h
      exact nofun
  | item :: rest =>
      rw [itemValues] at h
      obtain ⟨value, values, hitem, hrest, rfl⟩ := Found.map_both_eq_ok h
      exact List.forall_mem_cons.mpr ⟨Node.value_isKeyed hitem, itemValues_isKeyed hrest⟩

lemma memberValues_isKeyed {depth : ℕ} {nodes : List (Node × Node)} {members : Members}
    (h : memberValues depth nodes = .ok members) :
    members.IsDistinct ∧ ∀ member ∈ members, member.2.IsKeyed := by
  rw [memberValues] at h
  obtain ⟨taken, own, htaken, hown, rfl⟩ := Found.map_both_eq_ok h
  have hempty : Members.IsDistinct [] := List.Pairwise.nil
  refine ⟨(hempty.update taken).update own, ?_⟩
  exact Members.forall_mem_update
    (Members.forall_mem_update nofun (takenMembers_isKeyed htaken)) (ownMembers_isKeyed hown)

lemma takenMembers_isKeyed {depth : ℕ} {nodes : List (Node × Node)} {members : Members}
    (h : takenMembers depth nodes = .ok members) : ∀ member ∈ members, member.2.IsKeyed := by
  match nodes with
  | [] =>
      rw [takenMembers] at h
      cases h
      exact nofun
  | (key, source) :: rest =>
      rw [takenMembers] at h
      obtain ⟨taken, more, htaken, hmore, rfl⟩ := Found.map_both_eq_ok h
      refine List.forall_mem_append.mpr ⟨?_, takenMembers_isKeyed hmore⟩
      split at htaken
      · exact sourceMembers_isKeyed htaken
      · cases htaken
        exact nofun

lemma sourceMembers_isKeyed {depth : ℕ} {node : Node} {members : Members}
    (h : sourceMembers depth node = .ok members) : ∀ member ∈ members, member.2.IsKeyed := by
  match node with
  | .mapping _ nodes =>
      rw [sourceMembers] at h
      exact (memberValues_isKeyed h).2
  | .sequence _ items =>
      rw [sourceMembers] at h
      exact laterMembers_isKeyed h
  | .enclosing =>
      rw [sourceMembers] at h
      cases h
      exact nofun
  | .scalar _ _ => simp [sourceMembers] at h

lemma laterMembers_isKeyed {depth : ℕ} {items : List Node} {members : Members}
    (h : laterMembers depth items = .ok members) : ∀ member ∈ members, member.2.IsKeyed := by
  match items with
  | [] =>
      rw [laterMembers] at h
      cases h
      exact nofun
  | .mapping _ nodes :: rest =>
      rw [laterMembers] at h
      obtain ⟨own, more, hown, hmore, rfl⟩ := Found.map_both_eq_ok h
      exact List.forall_mem_append.mpr ⟨laterMembers_isKeyed hmore, (memberValues_isKeyed hown).2⟩
  | .scalar _ _ :: _ | .sequence _ _ :: _ | .enclosing :: _ =>
      simp [laterMembers] at h

lemma ownMembers_isKeyed {depth : ℕ} {nodes : List (Node × Node)} {members : Members}
    (h : ownMembers depth nodes = .ok members) : ∀ member ∈ members, member.2.IsKeyed := by
  match nodes with
  | [] =>
      rw [ownMembers] at h
      cases h
      exact nofun
  | (key, node) :: rest =>
      rw [ownMembers] at h
      obtain ⟨own, more, hown, hmore, rfl⟩ := Found.map_both_eq_ok h
      refine List.forall_mem_append.mpr ⟨?_, ownMembers_isKeyed hmore⟩
      split at hown
      · cases hown
        exact nofun
      · obtain ⟨k, value, -, hvalue, rfl⟩ := Found.map_both_eq_ok hown
        exact List.forall_mem_singleton.mpr (Node.value_isKeyed hvalue)

end

/-- In no mapping inside the value of a text does a key stand twice. -/
lemma read_isKeyed {t : Text} {value : Value} {endless : Bool} (h : read t = .ok (value, endless)) :
    value.IsKeyed := by
  rw [read] at h
  split at h
  · cases h
  · split at h
    · rename_i hvalue
      cases h
      exact Node.value_isKeyed hvalue
    · cases h

end Yaml

/-! ### Variables in values -/

section Substitution

variable (e : Environment)

lemma Value.substituteAll_eq (items : List Value) :
    Value.substituteAll e items = items.map (Value.substitute e) := by
  induction items with
  | nil => rfl
  | cons item rest ih => rw [Value.substituteAll, ih, List.map_cons]

lemma Value.substituteMembers_eq (members : Members) :
    Value.substituteMembers e members = members.map (Prod.map id (Value.substitute e)) := by
  induction members with
  | nil => rfl
  | cons member rest ih => rw [Value.substituteMembers, ih, List.map_cons, Prod.map_apply, id]

lemma Members.IsDistinct.substitute {members : Members} (h : members.IsDistinct) :
    Members.IsDistinct (Value.substituteMembers e members) := by
  rw [Value.substituteMembers_eq]
  exact List.pairwise_map.mpr h

/-- Variables in the place of placeholders leave the keys as they are. -/
lemma Value.IsKeyed.substitute {value : Value} (h : value.IsKeyed) :
    (value.substitute e).IsKeyed := by
  induction h with
  | @scalar value h =>
      cases value with
      | list | mapping => cases h
      | text t => exact .scalar rfl
      | _ => exact .scalar h
  | list _ ih =>
      rw [Value.substitute, Value.substituteAll_eq]
      exact .list (List.forall_mem_map.mpr ih)
  | mapping hkeys _ ih =>
      rw [Value.substitute]
      refine .mapping (hkeys.substitute e) ?_
      rw [Value.substituteMembers_eq]
      exact List.forall_mem_map.mpr ih

end Substitution

/-! ### Settings files -/

lemma Value.IsKeyed.members {members : Members} (h : (Value.mapping members).IsKeyed) :
    members.IsDistinct ∧ ∀ member ∈ members, member.2.IsKeyed := by
  cases h with
  | scalar h => cases h
  | mapping hkeys h => exact ⟨hkeys, h⟩

lemma sectionOf_isDistinct {members own : Members} (h : (Value.mapping members).IsKeyed)
    (hown : sectionOf members = .ok own) : own.IsDistinct := by
  rw [sectionOf] at hown
  split at hown
  · cases hown
    exact h.members.1
  · rename_i hnamed
    cases hown
    exact (h.members.2 _ (Members.mem_of_named? hnamed)).members.1
  · cases hown

lemma settingsOfText_isDistinct {e : Environment} {t : Text} {loaded : Members}
    (h : settingsOfText e t = .ok loaded) : loaded.IsDistinct := by
  rw [settingsOfText] at h
  split at h
  · cases h
  · rename_i value endless hread
    split at h
    · cases h
      exact List.Pairwise.nil
    · split at h
      · split at h
        · cases h
        · have hkeyed := (Yaml.read_isKeyed hread).substitute e
          rw [Value.substitute] at hkeyed
          exact sectionOf_isDistinct hkeyed h
      · cases h

/-- Among the settings in a file no key stands twice. -/
lemma SettingsSources.loaded_isDistinct {s : SettingsSources} {loaded : Members}
    (h : s.loaded = .ok loaded) : loaded.IsDistinct := by
  rw [SettingsSources.loaded] at h
  split at h
  · cases h
    exact List.Pairwise.nil
  · cases h
    exact List.Pairwise.nil
  · rw [loadSettings] at h
    split at h
    · cases h
    · cases h
    · split at h
      · cases h
      · exact settingsOfText_isDistinct h

end PageNotes
