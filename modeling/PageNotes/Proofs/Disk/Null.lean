import PageNotes.Proofs.Disk.Changes

/-!
Paths with a null character. No operation on a disk takes such a path, and none speaks of null
characters where there is none.

* `Volume.read_null`, `Volume.write_null`, `Volume.copy_null`: reading, writing and copying;
* `Volume.makeDirectory_null`: making a directory with all that it lies in.
-/

namespace PageNotes

namespace Path

variable {p : Path}

lemma hasNull_parent (h : p.parent.hasNull = true) : p.hasNull = true := by
  rw [hasNull, List.any_eq_true] at h ⊢
  obtain ⟨name, hmem, hname⟩ := h
  exact ⟨name, List.dropLast_subset _ hmem, hname⟩

lemma hasNull_append {root : PathRoot} {parts more : List Text} :
    hasNull ⟨root, parts ++ more⟩ = true ↔
      hasNull ⟨root, parts⟩ = true ∨ hasNull ⟨root, more⟩ = true := by
  rw [hasNull, List.any_append, Bool.or_eq_true, hasNull, hasNull]

/-- A path without null characters has a name without any. -/
lemma name_noNull (h : p.hasNull = false) : '\x00' ∉ p.name := by
  rw [hasNull, List.any_eq_false] at h
  rw [name]
  cases hlast : p.parts.getLast? with
  | none => simp
  | some name => simpa using h name (List.mem_of_getLast? hlast)

end Path

namespace Volume

variable {v : Volume} {p q : Path}

/-! ### Files -/

lemma locate_null : v.locate p = .error .nullCharacter ↔ p.hasNull = true := by
  rw [locate]
  by_cases hnull : p.hasNull = true
  · simp [hnull]
  · by_cases hlong : Disk.pathLimit < (utf8Encode p.toText).length
    · simp [hnull, hlong]
    · simp only [hnull, hlong, if_false, Bool.false_eq_true]
      split <;> simp

lemma read_null : v.read p = .error .nullCharacter ↔ p.hasNull = true := by
  rw [← locate_null (v := v), read, entry]
  cases v.locate p with
  | error e => simp
  | ok place =>
      dsimp only
      cases v.disk.find? place with
      | none => simp
      | some entry => cases entry <;> simp

lemma write_null {content : Bytes} :
    v.write p content = .error .nullCharacter ↔ p.hasNull = true := by
  rw [← locate_null (v := v), write]
  cases v.locate p with
  | error e => simp
  | ok place =>
      dsimp only
      cases v.disk.find? place with
      | none => simp
      | some entry => cases entry <;> simp

lemma sameEntry_null {e : DiskError} :
    v.sameEntry p q = .error e ↔
      e = .nullCharacter ∧ (p.hasNull = true ∨ q.hasNull = true) := by
  rw [← locate_null (v := v), ← locate_null (v := v), sameEntry]
  cases v.locate p with
  | error a =>
      cases a with
      | nullCharacter => simp [eq_comm]
      | refused | sameFile =>
          cases v.locate q with
          | error b => cases b <;> simp [eq_comm]
          | ok place => simp
  | ok place =>
      cases v.locate q with
      | error b => cases b <;> simp [eq_comm]
      | ok place' => simp

lemma copy_null :
    v.copy p q = .error .nullCharacter ↔ p.hasNull = true ∨ q.hasNull = true := by
  rw [copy]
  cases hsame : v.sameEntry p q with
  | error e =>
      obtain ⟨rfl, hnull⟩ := sameEntry_null.mp hsame
      simp [hnull]
  | ok same =>
      have hneither : ¬(p.hasNull = true ∨ q.hasNull = true) := fun hnull => by
        rw [sameEntry_null.mpr ⟨rfl, hnull⟩] at hsame
        simp at hsame
      rw [not_or] at hneither
      cases same with
      | true => simp [hneither]
      | false =>
          dsimp only
          cases hread : v.read p with
          | error e =>
              have hother : e ≠ .nullCharacter := fun he =>
                hneither.1 (read_null.mp (he ▸ hread))
              simp [hneither, hother]
          | ok content => simp [write_null, hneither]

/-! ### Directories -/

/-- An error that is not about null characters is not taken back for one that is. -/
lemma unlessThere_null {e : DiskError} :
    v.unlessThere p e = .error .nullCharacter ↔ e = .nullCharacter := by
  cases e with
  | nullCharacter => simp [unlessThere]
  | refused | sameFile =>
      rw [unlessThere]
      · cases hthere : v.isDirectory p with
        | ok there => cases there <;> simp
        | error a =>
            have hother : a ≠ .nullCharacter := by
              rintro rfl
              rw [isDirectory, ask] at hthere
              split at hthere <;> simp at hthere
            simp [hother]
      · simp

lemma makeOne_null : v.makeOne p = .error .nullCharacter ↔ p.hasNull = true := by
  rw [← locate_null (v := v), makeOne]
  cases v.locate p with
  | error e => simp
  | ok place =>
      dsimp only
      cases v.disk.find? place <;> simp

lemma makeLast_null : (v.makeLast p).1 = .error .nullCharacter ↔ p.hasNull = true := by
  cases hnull : p.hasNull with
  | true => simp [makeLast, makeOne_null.mpr hnull, unlessThere]
  | false =>
      rw [makeLast]
      split
      · simp
      · simp
      · rename_i e _ hmade
        have hother : e ≠ .nullCharacter := fun he => by
          rw [he, makeOne_null, hnull] at hmade
          simp at hmade
        simp [unlessThere_null, hother]

lemma makeBelow_null {root : PathRoot} {above : List Text} :
    (v.makeBelow root above).1 = .error .nullCharacter ↔
      Path.hasNull ⟨root, above.reverse⟩ = true := by
  induction above generalizing v with
  | nil => simp [makeBelow, unlessThere_null, Path.hasNull]
  | cons name above ih =>
      have hway := makesBelow v root name above
      generalize v.makeBelow root (name :: above) = result at hway ⊢
      cases hway with
      | direct => exact makeLast_null
      | after => exact makeLast_null
      | @stopped q e v' h habove =>
          -- a path whose directory is looked for has no null character, nor have those above it
          have hnull : ¬Path.hasNull ⟨root, (name :: above).reverse⟩ = true := fun hnull => by
            rw [makeOne_null.mpr hnull] at h
            simp at h
          have hother : ¬(v.makeBelow root above).1 = .error .nullCharacter := fun hup => by
            rw [List.reverse_cons, Path.hasNull_append] at hnull
            exact hnull (Or.inl (ih.mp hup))
          rw [habove] at hother
          exact iff_of_false hother hnull

lemma makeDirectory_null : (v.makeDirectory p).1 = .error .nullCharacter ↔ p.hasNull = true := by
  have h : (v.makeBelow p.root p.parts.reverse).1 = .error .nullCharacter ↔
      Path.hasNull ⟨p.root, p.parts.reverse.reverse⟩ = true := makeBelow_null
  rwa [List.reverse_reverse] at h

end Volume

end PageNotes
