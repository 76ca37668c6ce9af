import PageNotes.Proofs.Settings.Sources

/-!
Mappings in which no key stands twice. Putting members over others keeps a mapping so, and what is
found under a text then is what was put over, or else what was there before.

* `Members.IsDistinct`: no key stands twice; `IsDistinct.set`, `IsDistinct.update`;
* `Members.get?_set`, `Members.get?_update`: what is found under a text;
* `Value.IsKeyed`: in no mapping inside a value does a key stand twice.
-/

namespace PageNotes

lemma exists_of_map_eq_ok {ε α β : Type} {a : Except ε α} {f : α → β} {r : β}
    (h : a.map f = .ok r) : ∃ x, a = .ok x ∧ f x = r := by
  cases a with
  | error e => cases h
  | ok x => exact ⟨x, rfl, Except.ok.inj h⟩

namespace Members

variable {members new : Members} {key value : Value} {t u : Text}

/-- No key stands twice among members. -/
def IsDistinct (members : Members) : Prop :=
  members.Pairwise fun first second => first.1.sameKey second.1 = false

/-! ### Looking up -/

lemma get?_cons (key value : Value) (rest : Members) (wanted : Value) :
    get? ((key, value) :: rest) wanted
      = if key.sameKey wanted = true then some value else rest.get? wanted := by
  rw [get?, List.find?_cons]
  dsimp only
  split <;> rename_i hsame <;> simp [hsame, get?]

lemma get?_cons_text (t u : Text) (value : Value) (rest : Members) :
    get? ((.text t, value) :: rest) (.text u)
      = if t = u then some value else rest.get? (.text u) := by
  simp only [get?_cons, Value.sameKey_text, Value.text.injEq]

/-- Under a text that is no key nothing is found. -/
lemma get?_eq_none (h : ∀ member ∈ members, member.1.sameKey (.text t) = false) :
    members.get? (.text t) = none := by
  rw [get?, List.find?_eq_none.mpr fun member hmem => by simp [h member hmem]]
  rfl

lemma IsDistinct.get?_rest {rest : Members} (h : IsDistinct ((.text t, value) :: rest)) :
    rest.get? (.text t) = none := by
  refine get?_eq_none fun member hmem => ?_
  have hother := (List.pairwise_cons.mp h).1 member hmem
  rw [Bool.eq_false_iff, Ne, Value.sameKey_text]
  intro hkey
  rw [hkey, Value.sameKey_text.mpr rfl] at hother
  cases hother

/-- What stands under a text is found there if no key stands twice. -/
lemma IsDistinct.get? (h : members.IsDistinct) (hmem : (.text t, value) ∈ members) :
    members.get? (.text t) = some value := by
  induction members with
  | nil => cases hmem
  | cons first rest ih =>
      obtain ⟨key, old⟩ := first
      obtain ⟨hkey, hrest⟩ := List.pairwise_cons.mp h
      rw [get?_cons]
      rcases List.mem_cons.mp hmem with heq | hmem
      · obtain ⟨rfl, rfl⟩ := Prod.mk.inj heq
        exact if_pos (Value.sameKey_text.mpr rfl)
      · rw [hkey _ hmem, if_neg Bool.false_ne_true, ih hrest hmem]

/-- What was put under a text is found there, and nothing else is found elsewhere. -/
lemma get?_set (members : Members) (t u : Text) (value : Value) :
    (members.set (.text t) value).get? (.text u)
      = if t = u then some value else members.get? (.text u) := by
  induction members with
  | nil => exact get?_cons_text t u value []
  | cons first rest ih =>
      obtain ⟨key, old⟩ := first
      rw [set]
      by_cases hkey : key.sameKey (.text t) = true
      · rw [if_pos hkey, Value.sameKey_text.mp hkey, get?_cons_text, get?_cons_text]
        split_ifs <;> rfl
      · rw [if_neg hkey, get?_cons, get?_cons, ih]
        by_cases htu : t = u
        · simp [← htu, hkey]
        · rw [if_neg htu, if_neg htu]

/-- Among distinct members put over others, the new one is found if there is one. -/
lemma get?_update (hnew : new.IsDistinct) (htext : ∀ member ∈ new, member.1.isText = true) :
    (members.update new).get? (.text t) = (new.get? (.text t)).or (members.get? (.text t)) := by
  induction new generalizing members with
  | nil => rfl
  | cons first rest ih =>
      obtain ⟨key, value⟩ := first
      have hrest : IsDistinct rest := List.Pairwise.of_cons hnew
      obtain ⟨hfirst, hothers⟩ := List.forall_mem_cons.mp htext
      cases key with
      | text u =>
          have hset : (members.update ((.text u, value) :: rest)).get? (.text t)
              = ((members.set (.text u) value).update rest).get? (.text t) := rfl
          rw [hset, ih hrest hothers, get?_set, get?_cons_text]
          by_cases htu : u = t
          · subst htu
            simp [hnew.get?_rest]
          · simp [htu]
      | _ => cases hfirst

/-! ### Putting over -/

/-- A key among members with one more is the new one or an old one. -/
lemma exists_key_of_mem_set {member : Value × Value} (h : member ∈ members.set key value) :
    member.1 = key ∨ ∃ old ∈ members, old.1 = member.1 := by
  induction members with
  | nil => exact Or.inl (by rw [List.mem_singleton.mp h])
  | cons first rest ih =>
      obtain ⟨k, old⟩ := first
      rw [set] at h
      split_ifs at h
      · rcases List.mem_cons.mp h with rfl | hrest
        · exact Or.inr ⟨_, List.mem_cons_self, rfl⟩
        · exact Or.inr ⟨_, List.mem_cons_of_mem _ hrest, rfl⟩
      · rcases List.mem_cons.mp h with rfl | hrest
        · exact Or.inr ⟨_, List.mem_cons_self, rfl⟩
        · refine (ih hrest).imp_right ?_
          rintro ⟨m, hm, hkey⟩
          exact ⟨m, List.mem_cons_of_mem _ hm, hkey⟩

lemma IsDistinct.set (h : members.IsDistinct) : (members.set key value).IsDistinct := by
  induction members with
  | nil => exact List.pairwise_singleton _ _
  | cons first rest ih =>
      obtain ⟨k, old⟩ := first
      obtain ⟨hfirst, hrest⟩ := List.pairwise_cons.mp h
      rw [Members.set]
      split_ifs with hkey
      · exact List.pairwise_cons.mpr ⟨hfirst, hrest⟩
      · refine List.pairwise_cons.mpr ⟨fun member hmem => ?_, ih hrest⟩
        rcases exists_key_of_mem_set hmem with hnew | ⟨m, hm, hold⟩
        · rw [hnew]
          simpa using hkey
        · rw [← hold]
          exact hfirst m hm

lemma IsDistinct.update (h : members.IsDistinct) (new : Members) :
    (members.update new).IsDistinct := by
  induction new generalizing members with
  | nil => exact h
  | cons first rest ih => exact ih h.set

/-- What holds of all values among members holds of them with one more value of that kind. -/
lemma forall_mem_set {P : Value → Prop} (h : ∀ member ∈ members, P member.2) (hvalue : P value) :
    ∀ member ∈ members.set key value, P member.2 := by
  induction members with
  | nil => exact List.forall_mem_singleton.mpr hvalue
  | cons first rest ih =>
      obtain ⟨k, old⟩ := first
      obtain ⟨hfirst, hrest⟩ := List.forall_mem_cons.mp h
      rw [set]
      split_ifs
      · exact List.forall_mem_cons.mpr ⟨hvalue, hrest⟩
      · exact List.forall_mem_cons.mpr ⟨hfirst, ih hrest⟩

lemma forall_mem_update {P : Value → Prop} (h : ∀ member ∈ members, P member.2)
    (hnew : ∀ member ∈ new, P member.2) : ∀ member ∈ members.update new, P member.2 := by
  induction new generalizing members with
  | nil => exact h
  | cons first rest ih =>
      obtain ⟨hfirst, hrest⟩ := List.forall_mem_cons.mp hnew
      exact ih (forall_mem_set h hfirst) hrest

end Members

/-! ### Values -/

/-- In no mapping inside a value does a key stand twice. -/
inductive Value.IsKeyed : Value → Prop
  | scalar {value : Value} (h : value.isScalar = true) : IsKeyed value
  | list {items : List Value} (h : ∀ item ∈ items, IsKeyed item) : IsKeyed (.list items)
  | mapping {members : Members} (hkeys : members.IsDistinct)
      (h : ∀ member ∈ members, IsKeyed member.2) : IsKeyed (.mapping members)

end PageNotes
