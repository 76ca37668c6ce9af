import PageNotes.Reference.PageLink
import PageNotes.Proofs.Path.Names
import PageNotes.Proofs.Text.Slug

/-!
Links to pages lead to the notes of these pages. The name of a file is cut at its last point in two
ways, one for names in texts and one for names of paths, which differ only in names that start with
points; for the name of a page both give what stands before its ending.

* `Path.name_ofText`: the last name of a path that is read from a text;
* `stem_ofText`: the two ways to cut the name of a page agree;
* `pageLink_noteName`: the new target of a link is the name of the note of the page.
-/

namespace PageNotes

/-! ### Ends of texts -/

namespace Text

/-- The last piece of a text. -/
lemma getLast?_split (sep : Char) (t : Text) :
    (split sep t).getLast? = some (takeEnd (· ≠ sep) t) := by
  induction t with
  | nil => rfl
  | cons c t ih =>
      rw [split]
      split_ifs with hc
      · have hnext := takeEnd_append_cons (p := (· ≠ sep)) (c := c) (by simp [hc]) [] t
        rw [List.nil_append] at hnext
        rw [hnext, List.getLast?_cons, ih, Option.getD_some]
      by_cases hmem : sep ∈ t
      · -- the last piece is one of the rest
        obtain ⟨a, b, rfl⟩ := List.append_of_mem hmem
        have hsep : decide (sep ≠ sep) = false := by simp
        have hend := takeEnd_append_cons (p := (· ≠ sep)) hsep a b
        rw [hend] at ih
        rw [← List.cons_append, takeEnd_append_cons (p := (· ≠ sep)) hsep (c :: a) b, ← ih]
        cases hsplit : split sep (a ++ sep :: b) with
        | nil => exact absurd hsplit (split_ne_nil sep _)
        | cons piece pieces =>
            cases pieces with
            | nil =>
                have hone := split_notMem sep (a ++ sep :: b)
                have hjoin := join_split sep (a ++ sep :: b)
                rw [hsplit, join] at hjoin
                rw [hsplit, hjoin] at hone
                exact absurd (by simp) (hone _ List.mem_cons_self)
            | cons next pieces => rw [List.getLast?_cons_cons, List.getLast?_cons_cons]
      · rw [split_of_notMem hmem, takeEnd_eq_self]
        · rfl
        · intro d hd
          rw [decide_eq_true_eq]
          rintro rfl
          rcases List.mem_cons.mp hd with rfl | hd
          · exact hc rfl
          · exact hmem hd

end Text

/-! ### The name of a page -/

lemma slash_notMem_baseName (t : Text) : '/' ∉ baseName t := by
  intro hmem
  have hno := List.mem_takeWhile_imp (List.mem_reverse.mp hmem)
  simp at hno

/-- A path that is read from a text ends with what stands behind the last slash. -/
lemma Path.exists_parts_ofText {t : Text} (h : IsPlain (baseName t)) :
    ∃ before, (Path.ofText t).parts = before ++ [baseName t] := by
  have hlast := Text.getLast?_split '/' t
  obtain ⟨before, hsplit⟩ := List.getLast?_eq_some_iff.mp hlast
  have hkept := @Path.filter_plain [baseName t] (by simpa using h)
  rw [baseName] at hkept ⊢
  rw [Path.ofText, hsplit, List.filter_append, hkept]
  exact ⟨_, rfl⟩

/-- The last name of a path that is read from a text stands behind the last slash. -/
lemma Path.name_ofText {t : Text} (h : IsPlain (baseName t)) :
    (Path.ofText t).name = baseName t := by
  obtain ⟨before, hparts⟩ := Path.exists_parts_ofText h
  rw [Path.name, hparts, List.getLast?_concat, Option.getD_some]

section Ending

variable {letters : Text} (hne : letters ≠ []) (hplain : ∀ c ∈ letters, c ≠ '.' ∧ c ≠ '/')

include hplain

lemma baseName_append (t : Text) : baseName (t ++ '.' :: letters) = baseName t ++ '.' :: letters :=
  Text.takeEnd_append t fun d hd => by
    rw [decide_eq_true_eq]
    rcases List.mem_cons.mp hd with rfl | hd
    · decide
    · exact (hplain d hd).2

lemma takeEnd_point (t : Text) : Text.takeEnd (· ≠ '.') (t ++ '.' :: letters) = letters := by
  rw [Text.takeEnd_append_cons (by decide), Text.takeEnd_eq_self]
  exact fun d hd => decide_eq_true_eq.mpr (hplain d hd).1

include hne

/-- The name of a path is cut before its ending, unless nothing stands there. -/
lemma cutName_append (t : Text) : (Path.cutName (t ++ '.' :: letters)).1
    = if t.isEmpty then '.' :: letters else t := by
  have hstem : (t ++ '.' :: letters).take
      ((t ++ '.' :: letters).length - letters.length - 1) = t := by
    refine List.take_left' ?_
    rw [List.length_append, List.length_cons]
    omega
  have hlength : letters.length ≠ (t ++ '.' :: letters).length := by
    rw [List.length_append, List.length_cons]
    omega
  rw [Path.cutName, takeEnd_point hplain t, hstem, List.isEmpty_eq_false_iff.mpr hne,
    decide_eq_false hlength, Bool.false_or, Bool.or_false]
  cases t with
  | nil => rfl
  | cons c t => rfl

/-- A name in a text is cut before its ending, unless nothing but points stands there. -/
lemma splitExtension_append {t : Text} (hslash : '/' ∉ t) :
    (splitExtension (t ++ '.' :: letters)).1
      = if t.all (· = '.') then t ++ '.' :: letters else t := by
  have hname : baseName (t ++ '.' :: letters) = t ++ '.' :: letters := by
    rw [baseName_append hplain, baseName, Text.takeEnd_eq_self]
    intro d hd
    rw [decide_eq_true_eq]
    rintro rfl
    exact hslash hd
  obtain ⟨first, rest, rfl⟩ := List.exists_cons_of_ne_nil hne
  have hfirst : (first = '.') = False := eq_false (hplain first List.mem_cons_self).1
  rw [splitExtension, hname]
  dsimp only
  by_cases hall : t.all (· = '.') = true
  · have hbody : (t ++ '.' :: first :: rest).dropWhile (· = '.') = first :: rest := by
      rw [List.dropWhile_append_of_pos (by simpa using hall)]
      simp [hfirst]
    have hno : (first :: rest).contains '.' = false := by
      rw [List.contains_eq_mem, decide_eq_false_iff_not]
      exact fun hmem => (hplain '.' hmem).1 rfl
    rw [hbody, hno, if_neg Bool.false_ne_true, if_pos hall]
  · have hbody : (t ++ '.' :: first :: rest).dropWhile (· = '.')
        = t.dropWhile (· = '.') ++ '.' :: first :: rest := by
      refine List.dropWhile_append.trans (if_neg ?_)
      rw [List.isEmpty_iff, List.dropWhile_eq_nil_iff]
      exact fun h => hall (List.all_eq_true.mpr h)
    have hpoint : (t.dropWhile (· = '.') ++ '.' :: first :: rest).contains '.' = true := by
      simp
    rw [hbody, hpoint, if_pos rfl, takeEnd_point hplain, if_neg hall]
    refine List.take_left' ?_
    rw [List.length_append, List.length_cons]
    omega

/-- The two ways to cut the name of a page agree, unless it starts with two points. -/
lemma stem_ofText {t : Text} (hdots : ¬['.', '.'] <+: baseName (t ++ '.' :: letters)) :
    (Path.ofText (t ++ '.' :: letters)).stem
      = (splitExtension (baseName (t ++ '.' :: letters))).1 := by
  have hname : IsPlain (baseName (t ++ '.' :: letters)) := by
    refine ⟨?_, ?_, slash_notMem_baseName _⟩
    · rw [baseName_append hplain]
      simp
    · rw [baseName_append hplain]
      intro h
      have hlength := congrArg List.length h
      rw [List.length_append, List.length_cons, List.length_singleton] at hlength
      exact hne (List.eq_nil_of_length_eq_zero (by omega))
  rw [Path.stem, Path.name_ofText hname]
  rw [baseName_append hplain] at hdots ⊢
  rw [cutName_append hne hplain, splitExtension_append hne hplain (slash_notMem_baseName t)]
  cases hb : baseName t with
  | nil => rfl
  | cons c rest =>
      rw [hb] at hdots
      rw [if_neg (by simp), if_neg]
      intro hall
      refine hdots ?_
      simp only [List.all_cons, Bool.and_eq_true, decide_eq_true_eq] at hall
      obtain ⟨rfl, hrest⟩ := hall
      rw [List.cons_append, List.cons_prefix_cons]
      refine ⟨rfl, ?_⟩
      cases rest with
      | nil => simp
      | cons d rest => simp at hrest; simp [hrest.1]

end Ending

/-! ### Links -/

/-- What is no letter is the lower-case form of itself alone. -/
lemma eq_of_toLower {c d : Char} (h : IsAscii c) (hlower : c.toLower = d)
    (hd : isAsciiLetter d = false) : c = d := by
  have hall : ∀ n < 0x80, isAsciiLetter (Char.ofNat n).toLower = false →
      Char.ofNat n = (Char.ofNat n).toLower := by decide +kernel
  have hc := hall c.toNat h
  rw [Char.ofNat_toNat, hlower] at hc
  exact hc hd

/-- The endings of pages: a point and letters. -/
lemma pageExtensions_shape : ∀ ending ∈ pageExtensions,
    ending.head? = some '.' ∧ ending.tail ≠ [] ∧ (∀ c ∈ ending, IsAscii c ∧ c ≠ 'k') ∧
      ∀ c ∈ ending.tail, c ≠ '.' ∧ c ≠ '/' ∧ c ≠ '%' := by
  have hshape : pageExtensions.all (fun ending =>
      ending.head? = some '.' && !ending.tail.isEmpty &&
        ending.all (fun c => decide (IsAscii c ∧ c ≠ 'k')) &&
          ending.tail.all fun c => decide (c ≠ '.' ∧ c ≠ '/' ∧ c ≠ '%')) = true := by
    decide +kernel
  intro ending hending
  have hending := List.all_eq_true.mp hshape ending hending
  simp only [Bool.and_eq_true, decide_eq_true_eq, List.all_eq_true, Bool.not_eq_true',
    List.isEmpty_eq_false_iff] at hending
  obtain ⟨⟨⟨hpoint, hfilled⟩, hascii⟩, hplain⟩ := hending
  exact ⟨hpoint, hfilled, hascii, hplain⟩

/-- A reference that names a page has the ending of one, in some case. -/
lemma exists_pageEnding {path : Text} (h : namesPage path = true) :
    ∃ t letters, path = t ++ '.' :: letters ∧ letters ≠ [] ∧
      ('.' :: letters).map Char.toLower ∈ pageExtensions ∧
      ∀ c ∈ letters, (c ≠ '.' ∧ c ≠ '/') ∧ IsAscii c ∧ c ≠ '%' := by
  rw [namesPage, List.any_eq_true] at h
  obtain ⟨ending, hending, hsuffix⟩ := h
  obtain ⟨hpoint, hfilled, hascii, hplain⟩ := pageExtensions_shape ending hending
  obtain ⟨t, after, rfl, hlower, hafter⟩ :=
    Text.exists_ending_of_lower hascii (List.isSuffixOf_iff_suffix.mp hsuffix)
  subst hlower
  cases after with
  | nil => cases hpoint
  | cons c letters =>
      have hc : c = '.' :=
        eq_of_toLower (hafter c List.mem_cons_self) (Option.some.inj hpoint) (by decide)
      subst hc
      refine ⟨t, letters, rfl, by simpa using hfilled, hending, fun d hd => ?_⟩
      have hd' := hplain d.toLower (List.mem_map_of_mem hd)
      refine ⟨⟨?_, ?_⟩, hafter d (List.mem_cons_of_mem _ hd), ?_⟩
      · rintro rfl
        exact hd'.1 rfl
      · rintro rfl
        exact hd'.2.1 rfl
      · rintro rfl
        exact hd'.2.2 rfl

/-- A reference is cut where its query or its fragment starts. -/
lemma splitReference_eq {path rest : Text} (hpath : ∀ c ∈ path, c ≠ '?' ∧ c ≠ '#')
    (hrest : ∀ c ∈ rest.head?, c = '?' ∨ c = '#') :
    splitReference (path ++ rest) = (path, rest) := by
  have hplain : ∀ c ∈ path, (c ≠ '?' && c ≠ '#') = true := by simpa using hpath
  have hstop : rest.takeWhile (fun c => c ≠ '?' && c ≠ '#') = [] ∧
      rest.dropWhile (fun c => c ≠ '?' && c ≠ '#') = rest := by
    cases rest with
    | nil => exact ⟨rfl, rfl⟩
    | cons c rest =>
        have hc : ¬(c ≠ '?' && c ≠ '#') = true := by
          rcases hrest c rfl with rfl | rfl <;> decide
        exact ⟨List.takeWhile_cons_of_neg hc, List.dropWhile_cons_of_neg hc⟩
  rw [splitReference, List.takeWhile_append_of_pos hplain, List.dropWhile_append_of_pos hplain,
    hstop.1, hstop.2, List.append_nil]

/-- A reference that is replaced as a link to a page. -/
lemma pageLink?_eq_some {linkPrefix href target : Text}
    (h : pageLink? linkPrefix href = some target) :
    namesPage (Text.cut '#' href).1 = true ∧
      ∃ fragment, target = linkPrefix ++ pageSlug (Text.cut '#' href).1 ++ fragment ∧
        ∀ c ∈ fragment.head?, c = '#' := by
  rw [pageLink?] at h
  dsimp only at h
  split_ifs at h with _ hpage
  refine ⟨hpage, _, (Option.some.inj h).symm, ?_⟩
  split <;> simp

/-- The slug in a link to a page is that of the file that the link means once it is decoded, unless
the name of this file starts with two points. -/
lemma pageSlug_eq {path : Text} (hpage : namesPage path = true)
    (hdots : ¬['.', '.'] <+: baseName (percentDecode path)) :
    pageSlug path = slugify (Path.ofText (percentDecode path)).stem := by
  obtain ⟨t, letters, rfl, hne, -, hletters⟩ := exists_pageEnding hpage
  have hplain : ∀ c ∈ letters, c ≠ '.' ∧ c ≠ '/' := fun c hc => (hletters c hc).1
  have hdecode : percentDecode (t ++ '.' :: letters) = percentDecode t ++ '.' :: letters := by
    refine percentDecode_append t (List.cons_ne_nil _ _) (fun c hc => ?_) fun c hc => ?_
    · rcases List.mem_cons.mp hc with rfl | hc
      · decide
      · exact (hletters c hc).2
    · obtain rfl : '.' = c := Option.some.inj hc
      decide
  rw [hdecode] at hdots
  rw [pageSlug, hdecode, stem_ofText hne hplain hdots]

/-- **Links to pages lead to notes**: a local link whose path is that of a page becomes the name of
the note of this page, without the ending of notes, between the prefix of links and the fragment,
which is kept with its mark unless it is empty. -/
theorem pageLink_noteName (linkPrefix : Text) {path tail : Text} (hpath : '#' ∉ path)
    (htail : ∀ c ∈ tail.head?, c = '#') (hlocal : isLocalReference (path ++ tail) = true)
    (hpage : ".html".toList <:+ path.lower ∨ ".htm".toList <:+ path.lower)
    (hdots : ¬['.', '.'] <+: baseName (percentDecode path)) :
    ∃ s, noteName (.ofText (percentDecode path)) = s ++ ".md".toList ∧
      pageLink? linkPrefix (path ++ tail)
        = some (linkPrefix ++ s ++ if tail = ['#'] then [] else tail) := by
  have hnames : namesPage path = true := by
    simpa [namesPage, pageExtensions] using hpage
  refine ⟨pageSlug path, ?_, ?_⟩
  · rw [noteName, pageSlug_eq hnames hdots]
  · rw [pageLink?, if_pos hlocal, cut_append hpath htail]
    dsimp only
    rw [if_pos hnames]
    rcases tail with _ | ⟨c, _ | ⟨d, fragment⟩⟩
    · rfl
    · obtain rfl := htail c rfl
      rfl
    · obtain rfl := htail c rfl
      simp

/-- A link in upper case, with an encoded slash and an encoded byte that forms no character. -/
theorem pageLink_noteName_encoded :
    noteName (.ofText (percentDecode "../Old%2FMy Trip%C3.HTML".toList)) = "my-trip.md".toList ∧
      pageLink? "/p/".toList "../Old%2FMy Trip%C3.HTML#day-2".toList
        = some "/p/my-trip#day-2".toList := by
  obtain ⟨s, hnote, hlink⟩ := @pageLink_noteName "/p/".toList
    "../Old%2FMy Trip%C3.HTML".toList "#day-2".toList (by decide)
    (fun c hc => (Option.some.inj hc).symm) (by decide +kernel)
    (Or.inl ⟨"../old%2fmy trip%c3".toList, by decide +kernel⟩)
    (by decide +kernel)
  have hname : noteName (.ofText (percentDecode "../Old%2FMy Trip%C3.HTML".toList))
      = "my-trip.md".toList := by decide +kernel
  rw [hname] at hnote
  obtain rfl : "my-trip".toList = s :=
    List.append_cancel_right (hnote : "my-trip".toList ++ ".md".toList = s ++ ".md".toList)
  exact ⟨hname, hlink⟩

end PageNotes
