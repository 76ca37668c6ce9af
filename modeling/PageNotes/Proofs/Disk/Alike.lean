import PageNotes.Proofs.Disk.Directories

/-!
Volumes that look alike. Making a directory asks what stands where and never what is in a file, so
it goes the same way on two volumes that differ in the contents of some files alone.

* `Volume.Alike`: the same view of the disk from the same directory;
* `Volume.Alike.makeDirectory`: a directory is made on both or on none.
-/

namespace PageNotes

namespace Volume

variable {v v' : Volume} {p : Path} {hidden : List Place}

/-- The same view of the disk from the same directory. -/
structure Alike (hidden : List Place) (v v' : Volume) : Prop where
  working : v'.working = v.working
  view : ∀ q, v'.disk.view hidden q = v.disk.view hidden q

/-! ### Steps of making a directory -/

/-- A directory whose own is missing is made after it. -/
lemma makeBelow_missing {root : PathRoot} {name : Text} {above : List Text} {q : Path}
    (h : v.makeOne ⟨root, (name :: above).reverse⟩ = .error (.refused .notFound q)) :
    v.makeBelow root (name :: above) = match v.makeBelow root above with
      | (.error e, v') => (.error e, v')
      | (.ok (), v') => v'.makeLast ⟨root, (name :: above).reverse⟩ := by
  rw [Volume.makeBelow, h]
  rfl

/-- A directory whose own is not missing is made at once. -/
lemma makeBelow_direct {root : PathRoot} {name : Text} {above : List Text}
    (h : ∀ q, v.makeOne ⟨root, (name :: above).reverse⟩ ≠ .error (.refused .notFound q)) :
    v.makeBelow root (name :: above) = v.makeLast ⟨root, (name :: above).reverse⟩ := by
  have hway := makesBelow v root name above
  generalize v.makeBelow root (name :: above) = result at hway ⊢
  cases hway with
  | direct => rfl
  | stopped hq | after hq => exact absurd hq (h _)

/-! ### Steps on volumes that look alike -/

namespace Alike

lemma isDirectory (h : Alike hidden v v') (p : Path) : v'.isDirectory p = v.isDirectory p :=
  ask_congr h.working (fun q _ => h.view q) fun _ _ => rfl

lemma unlessThere (h : Alike hidden v v') (p : Path) (e : DiskError) :
    v'.unlessThere p e = v.unlessThere p e := by
  unfold Volume.unlessThere
  rw [h.isDirectory]

/-- A directory that is made on one is made on the other. -/
lemma makeOne (h : Alike hidden v v') (p : Path) :
    (∃ cause, v.makeOne p = .error cause ∧ v'.makeOne p = .error cause) ∨
      ∃ made made', v.makeOne p = .ok made ∧ v'.makeOne p = .ok made' ∧
        Alike hidden made made' := by
  have hlocate : v'.locate p = v.locate p := locate_congr h.working fun q _ => h.view q
  cases hloc : v.locate p with
  | error cause => exact Or.inl ⟨cause, by rw [Volume.makeOne, hloc],
      by rw [Volume.makeOne, hlocate, hloc]⟩
  | ok place =>
      cases hentry : v.disk.find? place with
      | none =>
          have hentry' : v'.disk.find? place = none := by
            rw [← Disk.view_eq_none, h.view, Disk.view_eq_none, hentry]
          have hroot : place ≠ [] := Disk.ne_root_of_find? (d := v.disk) (by simp [hentry])
          refine Or.inr ⟨_, _, makeOne_eq_ok.mpr ⟨place, hloc, hentry, rfl⟩,
            makeOne_eq_ok.mpr ⟨place, hlocate.trans hloc, hentry', rfl⟩, h.working, fun q => ?_⟩
          rw [withDisk_disk, withDisk_disk, Disk.view_put hroot (Or.inl rfl),
            Disk.view_put hroot (Or.inl rfl), h.view]
      | some entry =>
          obtain ⟨entry', hentry'⟩ : ∃ entry', v'.disk.find? place = some entry' := by
            rw [← Option.ne_none_iff_exists', ne_eq, ← Disk.view_eq_none, h.view,
              Disk.view_eq_none, hentry]
            simp
          refine Or.inl ⟨.refused .alreadyExists p, ?_, ?_⟩
          · rw [Volume.makeOne, hloc]
            dsimp only
            rw [hentry]
          · rw [Volume.makeOne, hlocate, hloc]
            dsimp only
            rw [hentry']

lemma makeLast (h : Alike hidden v v') (p : Path) :
    (v'.makeLast p).1 = (v.makeLast p).1 ∧
      Alike hidden (v.makeLast p).2 (v'.makeLast p).2 := by
  rw [Volume.makeLast, Volume.makeLast]
  rcases h.makeOne p with ⟨cause, hmade, hmade'⟩ | ⟨made, made', hmade, hmade', halike⟩
  · rw [hmade, hmade']
    split
    case h_1 hmade => cases hmade
    case h_2 => exact ⟨rfl, h⟩
    case h_3 => exact ⟨h.unlessThere p _, h⟩
  · rw [hmade, hmade']
    exact ⟨rfl, halike⟩

lemma makeBelow (h : Alike hidden v v') (root : PathRoot) (above : List Text) :
    (v'.makeBelow root above).1 = (v.makeBelow root above).1 ∧
      Alike hidden (v.makeBelow root above).2 (v'.makeBelow root above).2 := by
  induction above generalizing v v' with
  | nil =>
      rw [Volume.makeBelow, Volume.makeBelow, h.unlessThere]
      exact ⟨rfl, h⟩
  | cons name above ih =>
      by_cases hmissing : ∃ q, v.makeOne ⟨root, (name :: above).reverse⟩
          = .error (.refused .notFound q)
      · obtain ⟨q, hq⟩ := hmissing
        have hq' : v'.makeOne ⟨root, (name :: above).reverse⟩ = .error (.refused .notFound q) := by
          rcases h.makeOne ⟨root, (name :: above).reverse⟩ with
            ⟨cause, hone, hone'⟩ | ⟨_, _, hone, -⟩
          · rw [hone', ← hone, hq]
          · rw [hq] at hone
            cases hone
        obtain ⟨hresult, hup⟩ := ih h
        rw [makeBelow_missing hq, makeBelow_missing hq']
        cases hmade : v.makeBelow root above with
        | mk result made =>
            cases hmade' : v'.makeBelow root above with
            | mk result' made' =>
                rw [hmade, hmade'] at hresult hup
                dsimp only at hresult hup
                subst hresult
                cases result' with
                | error e => exact ⟨rfl, hup⟩
                | ok => exact hup.makeLast _
      · have hdirect : ∀ q, v.makeOne ⟨root, (name :: above).reverse⟩
            ≠ .error (.refused .notFound q) := fun q hq => hmissing ⟨q, hq⟩
        have hdirect' : ∀ q, v'.makeOne ⟨root, (name :: above).reverse⟩
            ≠ .error (.refused .notFound q) := fun q hq => by
          rcases h.makeOne ⟨root, (name :: above).reverse⟩ with
            ⟨cause, hone, hone'⟩ | ⟨_, _, -, hone', -⟩
          · exact hdirect q (by rw [hone, ← hone', hq])
          · rw [hq] at hone'
            cases hone'
        rw [makeBelow_direct hdirect, makeBelow_direct hdirect']
        exact h.makeLast _

/-- A directory is made on both or on none. -/
lemma makeDirectory (h : Alike hidden v v') (p : Path) :
    (v'.makeDirectory p).1 = (v.makeDirectory p).1 ∧
      Alike hidden (v.makeDirectory p).2 (v'.makeDirectory p).2 :=
  h.makeBelow p.root p.parts.reverse

end Alike

end Volume

end PageNotes
