import Mathlib.Data.List.TakeWhile
import Mathlib.Tactic.Common
import PageNotes.Path.Basic

/-!
Names: what may stand between the slashes of a path. A path that was read from a text has names
that mean something (`IsPlain`), and once `..` has been resolved from the root down every name
stands for an entry of a directory (`IsName`).

* `Text.split_append_cons`, `Text.split_join_flatMap`, `cut_append`: splitting and cutting a text
  that is put together;
* `Path.ofText_plain`: the names of a path that was read are plain;
* `Path.normalize_names`: a normalised absolute path of plain names has names alone;
* `Path.ofText_toText`: a path that was read is read back from its text, hence
  `Path.ofText_toText_inj`;
* `Path.child_eq`: a name below a directory.
-/

namespace PageNotes

/-- A name that is neither left out of paths nor cut by them. -/
def IsPlain (name : Text) : Prop := name ≠ [] ∧ name ≠ ['.'] ∧ '/' ∉ name

/-- A plain name that stands for an entry and not for the directory above. -/
def IsName (name : Text) : Prop := IsPlain name ∧ name ≠ ['.', '.']

instance (name : Text) : Decidable (IsPlain name) :=
  inferInstanceAs (Decidable (name ≠ [] ∧ name ≠ ['.'] ∧ '/' ∉ name))

instance (name : Text) : Decidable (IsName name) :=
  inferInstanceAs (Decidable (IsPlain name ∧ name ≠ ['.', '.']))

/-! ### Splitting at a character -/

namespace Text

/-- No piece has the character that was split at. -/
lemma split_notMem (sep : Char) (t : Text) : ∀ piece ∈ split sep t, sep ∉ piece := by
  induction t with
  | nil => simp [split]
  | cons c t ih =>
      rw [split]
      split_ifs with h
      · simpa using ih
      · cases hs : split sep t with
        | nil => simpa using Ne.symm h
        | cons first pieces =>
            rw [hs] at ih
            simp only [List.mem_cons, forall_eq_or_imp] at ih ⊢
            exact ⟨by simpa [Ne.symm h] using ih.1, ih.2⟩

/-- A text without the character is one piece. -/
lemma split_of_notMem {sep : Char} {t : Text} (h : sep ∉ t) : split sep t = [t] := by
  induction t with
  | nil => rfl
  | cons c t ih =>
      rw [List.mem_cons, not_or] at h
      rw [split, if_neg (Ne.symm h.1), ih h.2]

/-- A text is one piece just when it does not have the character. -/
lemma split_eq_singleton_iff {sep : Char} {t : Text} : split sep t = [t] ↔ sep ∉ t :=
  ⟨fun h => split_notMem sep t t (h ▸ List.mem_singleton_self t), split_of_notMem⟩

/-- The pieces on the two sides of an occurrence of the character. -/
lemma split_append_cons (sep : Char) (a b : Text) :
    split sep (a ++ sep :: b) = split sep a ++ split sep b := by
  induction a with
  | nil => simp [split]
  | cons c a ih =>
      rw [List.cons_append, split, split, ih]
      split_ifs with hc
      · rfl
      · obtain ⟨piece, pieces, hpieces⟩ := List.exists_cons_of_ne_nil (split_ne_nil sep a)
        rw [hpieces]
        rfl

/-- Texts that are joined are split each on its own. -/
lemma split_join_flatMap (sep : Char) {pieces : List Text} (hne : pieces ≠ []) :
    split sep (join [sep] pieces) = pieces.flatMap (split sep) := by
  induction pieces with
  | nil => exact absurd rfl hne
  | cons piece pieces ih =>
      cases pieces with
      | nil => rw [join, List.flatMap_singleton]
      | cons next pieces =>
          rw [join, List.append_assoc, List.singleton_append, split_append_cons,
            ih (List.cons_ne_nil _ _), ← List.flatMap_cons]
          exact List.cons_ne_nil _ _

/-- Pieces that each are one piece. -/
lemma flatMap_split_of_notMem {sep : Char} {pieces : List Text}
    (h : ∀ piece ∈ pieces, sep ∉ piece) : pieces.flatMap (split sep) = pieces := by
  have hone : ∀ piece ∈ pieces, split sep piece = [piece] := fun piece hpiece =>
    split_of_notMem (h piece hpiece)
  rw [List.flatMap_def, List.map_congr_left hone, ← List.flatMap_def, List.flatMap_singleton']

/-- Splitting gives back the pieces that were joined. -/
lemma split_join {sep : Char} {pieces : List Text} (hne : pieces ≠ [])
    (h : ∀ piece ∈ pieces, sep ∉ piece) : split sep (join [sep] pieces) = pieces := by
  rw [split_join_flatMap sep hne, flatMap_split_of_notMem h]

end Text

/-! ### Cutting at a character -/

/-- A text is cut at the first occurrence of the character. -/
lemma cut_append {sep : Char} {path tail : Text} (hpath : sep ∉ path)
    (htail : ∀ c ∈ tail.head?, c = sep) :
    Text.cut sep (path ++ tail) = (path, tail.head?.map fun _ => tail.tail) := by
  induction path with
  | nil =>
      cases tail with
      | nil => rfl
      | cons c tail =>
          obtain rfl := htail c rfl
          rw [List.nil_append, Text.cut, if_pos rfl]
          rfl
  | cons c path ih =>
      rw [List.mem_cons, not_or] at hpath
      rw [List.cons_append, Text.cut, if_neg (Ne.symm hpath.1), ih hpath.2]

lemma cut_of_notMem {sep : Char} {t : Text} (h : sep ∉ t) : Text.cut sep t = (t, none) := by
  have hnone : ∀ c ∈ ([] : Text).head?, c = sep := by simp
  have hcut := cut_append h hnone
  rwa [List.append_nil] at hcut

lemma cut_append_cons {sep : Char} {t : Text} (h : sep ∉ t) (rest : Text) :
    Text.cut sep (t ++ sep :: rest) = (t, some rest) :=
  cut_append h fun _ hc => (Option.some.inj hc).symm

/-- Every text is cut in this way. -/
lemma exists_cut (sep : Char) (t : Text) :
    ∃ path tail, t = path ++ tail ∧ sep ∉ path ∧ ∀ c ∈ tail.head?, c = sep := by
  refine ⟨t.takeWhile (· ≠ sep), t.dropWhile (· ≠ sep), List.takeWhile_append_dropWhile.symm,
    fun hmem => ?_, fun c hc => ?_⟩
  · simpa using List.mem_takeWhile_imp hmem
  · have hstop := List.head?_dropWhile_not (fun d => decide (d ≠ sep)) t
    rw [hc] at hstop
    simpa using hstop

namespace Path

/-! ### Paths that were read -/

/-- A path that was read has plain names. -/
lemma ofText_plain (t : Text) : ∀ name ∈ (ofText t).parts, IsPlain name := by
  intro name hname
  rw [ofText, List.mem_filter] at hname
  obtain ⟨hmem, hkept⟩ := hname
  simp only [Bool.and_eq_true, Bool.not_eq_true', List.isEmpty_eq_false_iff, ne_eq,
    decide_eq_true_eq] at hkept
  exact ⟨hkept.1, hkept.2, Text.split_notMem '/' t name hmem⟩

/-- A text with no slash at its start is read as a relative path. -/
lemma rootOfText_relative {t : Text} (h : t.head? ≠ some '/') : PathRoot.ofText t = .relative := by
  rw [PathRoot.ofText.eq_def]
  split <;> simp_all

lemma filter_plain {parts : List Text} (h : ∀ name ∈ parts, IsPlain name) :
    (parts.filter fun part => !part.isEmpty && part ≠ ['.']) = parts := by
  rw [List.filter_eq_self]
  intro name hname
  obtain ⟨hnil, hdot, -⟩ := h name hname
  simp [hnil, hdot]

/-- The text of plain names does not start with a slash. -/
lemma join_head {parts : List Text} (h : ∀ name ∈ parts, IsPlain name) :
    (Text.join ['/'] parts).head? ≠ some '/' := by
  cases parts with
  | nil => simp [Text.join]
  | cons name rest =>
      obtain ⟨hnil, -, hslash⟩ := h name (by simp)
      obtain ⟨c, cs, rfl⟩ := List.exists_cons_of_ne_nil hnil
      have hc : c ≠ '/' := fun hc => hslash (by simp [hc])
      cases rest with
      | nil => simpa [Text.join] using hc
      | cons next rest => simpa [Text.join] using hc

/-- The root of a text that is written as a root and plain names. -/
lemma rootOfText_append (root : PathRoot) {t : Text} (h : t.head? ≠ some '/') :
    PathRoot.ofText (root.toText ++ t) = root := by
  cases root with
  | relative => exact rootOfText_relative h
  | slash =>
      cases t with
      | nil => rfl
      | cons c t =>
          have hc : c ≠ '/' := by simpa using h
          simp [PathRoot.toText, PathRoot.ofText, hc]
  | doubleSlash =>
      cases t with
      | nil => rfl
      | cons c t =>
          have hc : c ≠ '/' := by simpa using h
          simp [PathRoot.toText, PathRoot.ofText, hc]

/-- The pieces of a text that is written as a root and plain names. -/
lemma splitOfText_append (root : PathRoot) {parts : List Text} (h : ∀ name ∈ parts, IsPlain name) :
    (Text.split '/' (root.toText ++ Text.join ['/'] parts)).filter
      (fun part => !part.isEmpty && part ≠ ['.']) = parts := by
  have key : (Text.split '/' (Text.join ['/'] parts)).filter
      (fun part => !part.isEmpty && part ≠ ['.']) = parts := by
    cases parts with
    | nil => simp [Text.join, Text.split]
    | cons name rest =>
        rw [Text.split_join (by simp) fun q hq => (h q hq).2.2, filter_plain h]
  cases root <;> simpa [PathRoot.toText, Text.split] using key

/-- A path of plain names is read back from its text. -/
lemma ofText_toText {p : Path} (h : ∀ name ∈ p.parts, IsPlain name) : ofText p.toText = p := by
  obtain ⟨root, parts⟩ := p
  rw [toText]
  split_ifs with hdot
  · obtain ⟨hroot, hparts⟩ := hdot
    dsimp only at hroot hparts
    subst hroot hparts
    rfl
  · rw [ofText, rootOfText_append root (join_head h), splitOfText_append root h]

/-- Paths that were read are equal when their texts are. -/
lemma ofText_toText_inj {p q : Path} (hp : ∀ name ∈ p.parts, IsPlain name)
    (hq : ∀ name ∈ q.parts, IsPlain name) (h : p.toText = q.toText) : p = q := by
  rw [← ofText_toText hp, h, ofText_toText hq]

/-! ### Names below a directory -/

/-- A plain name is read as itself. -/
lemma ofText_name {name : Text} (h : IsPlain name) : ofText name = ⟨.relative, [name]⟩ := by
  have := ofText_toText (p := ⟨.relative, [name]⟩) (by simpa using h)
  simpa [toText, PathRoot.toText, Text.join] using this

/-- The path of a plain name below a directory. -/
lemma child_eq (p : Path) {name : Text} (h : IsPlain name) :
    p.child name = ⟨p.root, p.parts ++ [name]⟩ := by
  rw [child, ofText_name h, join, if_neg (by simp [isAbsolute])]

/-- The directory of a name below it. -/
lemma parent_child (p : Path) {name : Text} (h : IsPlain name) : (p.child name).parent = p := by
  rw [child_eq p h, parent, List.dropLast_concat]

/-! ### Normal paths -/

/-- What is left of names when `..` is resolved from the root down. -/
lemma mem_resolveParts {above parts : List Text} (habove : ['.', '.'] ∉ above) :
    ∀ name ∈ resolveParts true above parts,
      (name ∈ above ∨ name ∈ parts) ∧ name ≠ ['.', '.'] := by
  induction parts generalizing above with
  | nil =>
      intro name hname
      rw [resolveParts, List.mem_reverse] at hname
      exact ⟨Or.inl hname, fun h => habove (h ▸ hname)⟩
  | cons part rest ih =>
      intro name hname
      rw [resolveParts.eq_def] at hname
      dsimp only at hname
      by_cases hpart : part = ['.', '.']
      · rw [if_pos hpart] at hname
        cases above with
        | nil =>
            obtain ⟨hmem, hne⟩ := ih (by simp) name hname
            exact ⟨Or.inr (List.mem_cons_of_mem _ (by simpa using hmem)), hne⟩
        | cons last higher =>
            rw [List.mem_cons, not_or] at habove
            dsimp only at hname
            rw [if_neg (Ne.symm habove.1)] at hname
            obtain ⟨hmem, hne⟩ := ih habove.2 name hname
            exact ⟨hmem.imp (List.mem_cons_of_mem _) (List.mem_cons_of_mem _), hne⟩
      · rw [if_neg hpart] at hname
        obtain ⟨hmem, hne⟩ := ih (by simpa [Ne.symm hpart] using habove) name hname
        refine ⟨?_, hne⟩
        rcases hmem with hmem | hmem
        · rcases List.mem_cons.mp hmem with rfl | hmem
          · exact Or.inr List.mem_cons_self
          · exact Or.inl hmem
        · exact Or.inr (List.mem_cons_of_mem _ hmem)

/-- A normalised absolute path of plain names has names alone. -/
lemma normalize_names {p : Path} (habs : p.isAbsolute = true) (h : ∀ name ∈ p.parts, IsPlain name) :
    ∀ name ∈ p.normalize.parts, IsName name := by
  intro name hname
  rw [normalize, habs] at hname
  obtain ⟨hmem, hne⟩ := mem_resolveParts (by simp) name hname
  exact ⟨h name (by simpa using hmem), hne⟩

/-- The names of a path as it is seen from a directory. -/
lemma join_plain {p q : Path} (hp : ∀ name ∈ p.parts, IsPlain name)
    (hq : ∀ name ∈ q.parts, IsPlain name) : ∀ name ∈ (p.join q).parts, IsPlain name := by
  intro name hname
  rw [join] at hname
  split_ifs at hname
  · exact hq name hname
  · rcases List.mem_append.mp hname with hname | hname
    · exact hp name hname
    · exact hq name hname

lemma join_isAbsolute {p q : Path} (h : p.isAbsolute = true) : (p.join q).isAbsolute = true := by
  rw [join]
  split_ifs with hq
  · exact hq
  · exact h

lemma parent_plain {p : Path} (h : ∀ name ∈ p.parts, IsPlain name) :
    ∀ name ∈ p.parent.parts, IsPlain name :=
  fun name hname => h name (List.dropLast_subset p.parts hname)

end Path

end PageNotes
