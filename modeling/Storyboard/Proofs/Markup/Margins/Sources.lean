import Storyboard.Proofs.Markup.Margins.DeclaredEncodings
/-!
# The sources of texts

The encoding of a document is told by its first bytes and by its XML declaration, so a text in UTF-8 may be
taken for something else. White space behind the text does not change what it is taken for, and is decoded to
itself where the text is taken for UTF-8. A blank at its start can only be the start of a text in UTF-8.

* `ofBytes_unmarked`, `ofBytes_byteOrderMark`, `ofBytes_of_isBlank`, `ofBytes_of_open`: texts that are taken
  for UTF-8.
* `ofBytes_between`: white space behind such a text.
* `ofUtf8_refused_other`, `ofUtf8_refused_declared`, `ofUtf8_refused_null`: texts that are no documents.
-/
namespace Storyboard.Markup

open Storyboard.Text

/-! ## What a text is taken for -/

theorem marked?_eq_none {bytes : List UInt8} (hnull : ∀ more, bytes ≠ 0 :: more)
    (hopen : ∀ more, bytes ≠ 0x3C :: 0 :: more) (hfirst : ∀ b more, bytes = b :: more → b.toNat < 0xFE) :
    marked? bytes = none := by
  unfold marked?
  split
  · exact absurd rfl (hnull _)
  · exact absurd rfl (hopen _)
  · exact absurd rfl (hnull _)
  · exact absurd rfl (hopen _)
  · exact absurd (hfirst _ _ rfl) (by decide)
  · exact absurd (hfirst _ _ rfl) (by decide)
  · rfl

/-- Only a null character, at its start or behind an angle bracket there, makes a text be taken for another
encoding by its first bytes. -/
theorem marked?_encode {s : List Char} (hfirst : s.head? ≠ some '\x00')
    (hsecond : ∀ t, s = '<' :: t → t.head? ≠ some '\x00') : marked? (encode s) = none := by
  refine marked?_eq_none (fun more h => ?_) (fun more h => ?_) fun b more h => ?_
  · obtain ⟨t, rfl, -⟩ := encode_eq_cons_ascii (a := '\x00') (by decide) rfl h
    exact hfirst rfl
  · obtain ⟨t, rfl, htail⟩ := encode_eq_cons_ascii (a := '<') (by decide) rfl h
    obtain ⟨u, rfl, -⟩ := encode_eq_cons_ascii (a := '\x00') (by decide) rfl htail.symm
    exact hsecond _ rfl rfl
  · obtain ⟨-, hhigh⟩ | ⟨c, t, -, hc, hb, -⟩ := encode_eq_cons h
    · omega
    · omega

/-- The byte order mark. -/
def byteOrderMark : Char := '\ufeff'

theorem encode_byteOrderMark (s : List Char) :
    encode (byteOrderMark :: s) = 0xEF :: 0xBB :: 0xBF :: encode s := rfl

/-- Only a byte order mark is encoded as one. -/
theorem head_of_isPrefixOf {s : List Char} (h : [0xEF, 0xBB, 0xBF].isPrefixOf (encode s) = true) :
    s.head? = some byteOrderMark := by
  cases s with
  | nil => cases h
  | cons c s =>
    obtain ⟨t, ht⟩ := List.isPrefixOf_iff_prefix.mp h
    obtain ⟨b, more, hbytes, hhead⟩ := utf8Head_encode c (encode s)
    have hb : b = 0xEF ∧ more = 0xBB :: 0xBF :: t := by
      rw [encode_cons, hbytes] at ht
      simpa [eq_comm] using ht
    have hmark : utf8Head 0xEF (0xBB :: 0xBF :: t) = (byteOrderMark, t) := by
      obtain ⟨_, _, hfirst, hread⟩ := utf8Head_encode byteOrderMark t
      obtain ⟨rfl, rfl⟩ := List.cons_eq_cons.mp hfirst
      exact hread
    rw [hb.1, hb.2, hmark] at hhead
    have hdecoded : decodedAs c = byteOrderMark := (congrArg Prod.fst hhead).symm
    unfold decodedAs at hdecoded
    split at hdecoded
    · cases hdecoded
    · rw [hdecoded]
      rfl

theorem declaredEncoding?_eq_none {s : List Char} (h : Reading.isDeclared s = false) :
    declaredEncoding? s = none := by
  have hmap := map_declaredEncoding? s
  rw [h] at hmap
  exact Option.map_eq_none_iff.mp hmap

theorem ofBytes_undeclared {s : List Char} (hplain : marked? (encode s) = none)
    (hmark : s.head? ≠ some byteOrderMark) (hdeclared : Reading.isDeclared s = false) :
    Source.ofBytes (encode s) = .ofUtf8 none (encode s) := by
  have hunmarked : [0xEF, 0xBB, 0xBF].isPrefixOf (encode s) = false :=
    Bool.eq_false_iff.mpr fun hbegins => hmark (head_of_isPrefixOf hbegins)
  have hnone : declaredEncoding? (latin (encode s)) = none :=
    declaredEncoding?_eq_none ((isDeclared_latin s).trans hdeclared)
  unfold Source.ofBytes
  rw [hplain, hunmarked, latin_eq, hnone]
  rfl

/-- The text is taken for UTF-8: no null character tells another encoding, and no other one that is known is
declared. -/
structure IsTakenForUtf8 (s : List Char) : Prop where
  unmarked : '\x00' ∉ s.take 4
  unknown : ∀ name, declaredName? (encode s) = some name → isUtf8Name name = true ∨ charsetNamed? name = none

theorem ofBytes_unmarked {s : List Char} (h : IsTakenForUtf8 s) (hmark : s.head? ≠ some byteOrderMark) :
    Source.ofBytes (encode s) =
      .ofUtf8 ((declaredName? (encode s)).filter fun name => !isUtf8Name name) (encode s) := by
  have hplain : marked? (encode s) = none := by
    refine marked?_encode (fun hnull => h.unmarked ?_) fun t ht hnull => h.unmarked ?_
    · obtain ⟨u, rfl⟩ := List.head?_eq_some_iff.mp hnull
      exact List.mem_cons_self
    · obtain ⟨u, rfl⟩ := List.head?_eq_some_iff.mp hnull
      exact ht ▸ List.mem_cons_of_mem _ List.mem_cons_self
  have hunmarked : [0xEF, 0xBB, 0xBF].isPrefixOf (encode s) = false :=
    Bool.eq_false_iff.mpr fun hbegins => hmark (head_of_isPrefixOf hbegins)
  have hname := h.unknown
  unfold Source.ofBytes
  rw [hplain, hunmarked, latin_eq]
  unfold declaredName? at hname ⊢
  generalize declaredEncoding? (latin (encode s)) = declared at hname ⊢
  cases declared with
  | none => rfl
  | some found =>
    obtain ⟨name, n⟩ := found
    dsimp only
    by_cases hutf8 : isUtf8Name name = true
    · rw [if_pos hutf8]
      simp [Option.filter, hutf8]
    · have hno : charsetNamed? name = none := (hname name rfl).resolve_left hutf8
      rw [if_neg hutf8, hno]
      simp [Option.filter, hutf8]

theorem ofBytes_byteOrderMark {s : List Char} (hs : s ≠ []) :
    Source.ofBytes (encode (byteOrderMark :: s)) = .ofUtf8 none (encode s) := by
  obtain ⟨c, u, rfl⟩ := List.exists_cons_of_ne_nil hs
  have hlength : 0 < (encode (c :: u)).length := by
    have := Char.utf8Size_pos c
    rw [encode_cons, List.length_append, String.length_utf8EncodeChar]
    omega
  rw [encode_byteOrderMark]
  unfold Source.ofBytes
  have hplain : marked? (0xEF :: 0xBB :: 0xBF :: encode (c :: u)) = none := rfl
  rw [hplain]
  have hcondition : ([0xEF, 0xBB, 0xBF].isPrefixOf (0xEF :: 0xBB :: 0xBF :: encode (c :: u)) &&
      decide (4 ≤ (0xEF :: 0xBB :: 0xBF :: encode (c :: u)).length)) = true := by
    simp only [List.length_cons, Bool.and_eq_true, decide_eq_true_eq]
    exact ⟨rfl, by omega⟩
  dsimp only
  rw [if_pos hcondition]
  rfl

/-- A text that begins with a blank is taken for UTF-8. -/
theorem ofBytes_of_isBlank {c : Char} (hc : isBlank c = true) (s : List Char) :
    Source.ofBytes (encode (c :: s)) = .ofUtf8 none (encode (c :: s)) := by
  have hne : ∀ d, isBlank d = false → c ≠ d := by
    rintro d hd rfl
    exact absurd hc (by simp [hd])
  have hnull : c ≠ '\x00' := hne _ (by decide)
  have hopen : c ≠ '<' := hne _ (by decide)
  have hmark : c ≠ byteOrderMark := hne _ (by decide)
  refine ofBytes_undeclared ?_ (by simpa using hmark) (Reading.isDeclared_of_head (by simpa using hopen))
  exact marked?_encode (by simpa using hnull) fun t ht => absurd (List.cons_eq_cons.mp ht).1 hopen

/-- So is a text that begins with an angle bracket and no XML declaration, unless a null character follows. -/
theorem ofBytes_of_open {s : List Char} (hnull : s.head? ≠ some '\x00')
    (hdeclared : Reading.isDeclared ('<' :: s) = false) :
    Source.ofBytes (encode ('<' :: s)) = .ofUtf8 none (encode ('<' :: s)) := by
  refine ofBytes_undeclared ?_ (fun h => absurd (Option.some.inj h) (by decide)) hdeclared
  refine marked?_encode (fun h => absurd (Option.some.inj h) (by decide)) fun t ht => ?_
  rwa [← (List.cons_eq_cons.mp ht).2]

/-! ## White space around a text in UTF-8 -/

theorem isWhole_ofUtf8 (unknown : Option String) (s : List Char) :
    (Source.ofUtf8 unknown (encode s)).IsWhole where
  undamaged := by
    have hno : damageMark ∉ s.map decodedAs := by
      intro hmem
      obtain ⟨c, -, hc⟩ := List.mem_map.mp hmem
      unfold decodedAs at hc
      split at hc
      · exact absurd hc (by decide)
      · rename_i hother
        exact hother (.inl (hc ▸ rfl))
    rw [Source.isDamaged, Source.ofUtf8, ofUtf8Marked_encode]
    simpa using hno
  uncut := rfl

theorem map_decodedAs_margin {e : List Char} (he : IsMargin e) : e.map decodedAs = e := by
  refine List.map_congr_left (fun c hc => if_neg ?_) |>.trans (List.map_id e)
  have := isSpace_lt (he c hc)
  omega

/-- Decoding leaves a character alone that is not one of the two marks, and makes none of another. -/
theorem decodedAs_eq_iff {c d : Char} (hd : d.toNat < 0xFFFE) : decodedAs c = d ↔ c = d := by
  unfold decodedAs
  split
  · refine ⟨?_, ?_⟩
    · rintro rfl
      exact absurd hd (by decide)
    · rintro rfl
      omega
  · exact .rfl

theorem isSpace_decodedAs (c : Char) : isSpace (decodedAs c) = isSpace c := by
  rw [Bool.eq_iff_iff]
  refine ⟨fun h => ?_, fun h => ?_⟩
  · have hsame := (decodedAs_eq_iff (d := decodedAs c) (by have := isSpace_lt h; omega)).mp rfl
    rwa [← hsame] at h
  · rwa [(decodedAs_eq_iff (by have := isSpace_lt h; omega)).mpr rfl]

theorem isPrefixOf_map_decodedAs {w : List Char} (hw : w.all (·.toNat < 0x80) = true) (s : List Char) :
    w.isPrefixOf (s.map decodedAs) = w.isPrefixOf s := by
  induction w generalizing s with
  | nil => rfl
  | cons a w ih =>
    rw [List.all_cons, Bool.and_eq_true, decide_eq_true_eq] at hw
    obtain ⟨ha, hw⟩ := hw
    cases s with
    | nil => rfl
    | cons c s =>
      have hsame : (a == decodedAs c) = (a == c) := by
        rw [Bool.eq_iff_iff, beq_iff_eq, beq_iff_eq, eq_comm, decodedAs_eq_iff (by omega), eq_comm]
      rw [List.map_cons, List.isPrefixOf, List.isPrefixOf, hsame, ih hw]

theorem isDeclared_map_decodedAs (s : List Char) :
    Reading.isDeclared (s.map decodedAs) = Reading.isDeclared s := by
  rw [Reading.isDeclared_eq, Reading.isDeclared_eq, isPrefixOf_map_decodedAs (by decide), ← List.map_drop,
    List.head?_map, Option.map_map]
  congr
  funext c
  exact isSpace_decodedAs c

theorem characters_ofUtf8 (unknown : Option String) (s : List Char) :
    (Source.ofUtf8 unknown (encode s)).characters = s.map decodedAs := ofUtf8Marked_encode s

theorem ofUtf8_between (unknown : Option String) {lead trail : List Char} (hlead : IsMargin lead)
    (htrail : IsMargin trail) (s : List Char) : Source.ofUtf8 unknown (encode (lead ++ (s ++ trail))) =
      (Source.ofUtf8 unknown (encode s)).between lead trail := by
  have hsize : (encode (lead ++ (s ++ trail))).length = (encode s).length + (lead.length + trail.length) := by
    rw [encode_append, encode_append, List.length_append, List.length_append, (encode_margin hlead).2,
      (encode_margin htrail).2]
    omega
  simp only [Source.ofUtf8, Source.between, ofUtf8Marked_encode, List.map_append, map_decodedAs_margin hlead,
    map_decodedAs_margin htrail, hsize]

theorem IsTakenForUtf8.append {s e : List Char} (h : IsTakenForUtf8 s) (he : IsMargin e) :
    IsTakenForUtf8 (s ++ e) where
  unmarked hmem := by
    rw [List.take_append, List.mem_append] at hmem
    rcases hmem with hmem | hmem
    · exact h.unmarked hmem
    · exact absurd (he _ (List.mem_of_mem_take hmem)) (by decide)
  unknown name hname := h.unknown name (declaredName?_append s he ▸ hname)

/-- White space behind a text that is taken for UTF-8. -/
theorem ofBytes_between {s e : List Char} (h : IsTakenForUtf8 s) (hne : s ≠ [byteOrderMark])
    (he : IsMargin e) :
    (Source.ofBytes (encode s)).IsWhole ∧
      Source.ofBytes (encode (s ++ e)) = (Source.ofBytes (encode s)).between [] e := by
  by_cases hmark : s.head? = some byteOrderMark
  · obtain ⟨u, rfl⟩ : ∃ u, s = byteOrderMark :: u := List.head?_eq_some_iff.mp hmark
    have hu : u ≠ [] := fun hu => hne (hu ▸ rfl)
    rw [List.cons_append, ofBytes_byteOrderMark hu, ofBytes_byteOrderMark (by simp [hu])]
    exact ⟨isWhole_ofUtf8 none u, ofUtf8_between none .nil he u⟩
  · rw [ofBytes_unmarked h hmark, ofBytes_unmarked (h.append he) ?_, declaredName?_append s he]
    · exact ⟨isWhole_ofUtf8 _ s, ofUtf8_between _ .nil he s⟩
    · cases s with
      | cons c s => exact hmark
      | nil =>
        intro hhead
        exact absurd (he _ (List.mem_of_mem_head? hhead)) (by decide)

/-! ## Documents in UTF-8 -/

theorem ofSource_error {source : Source} (h : ∃ r', EStateM.run
    (Reading.document? source.unknownEncoding source.truncated) (Reader.ofSource source) = .error () r') :
    ∃ fault, Document.ofSource source = .error fault := by
  obtain ⟨r', hrun⟩ := h
  rw [ofSource_eq, hrun]
  exact ⟨_, rfl⟩

/-- Behind its white space, a document begins with an angle bracket. -/
theorem ofUtf8_refused_other (unknown : Option String) {s : List Char}
    (hs : (s.dropWhile isSpace).head? ≠ some '<') :
    ∃ fault, Document.ofSource (.ofUtf8 unknown (encode s)) = .error fault := by
  have htake : IsMargin (s.takeWhile isSpace) := List.all_eq_true.mp List.all_takeWhile
  have hparts : s.map decodedAs = s.takeWhile isSpace ++ (s.dropWhile isSpace).map decodedAs := by
    have hmap : (s.takeWhile isSpace ++ s.dropWhile isSpace).map decodedAs = _ := List.map_append
    rwa [List.takeWhile_append_dropWhile, map_decodedAs_margin htake] at hmap
  have hspace := List.head?_dropWhile_not isSpace s
  generalize s.dropWhile isSpace = t at hs hparts hspace
  refine ofSource_error (Reading.document?_refused_other (isWhole_ofUtf8 unknown s).isSettled
    ((characters_ofUtf8 unknown s).trans hparts) htake ?_ ?_)
  · cases t with
    | nil => exact nofun
    | cons c t =>
      rintro _ ⟨⟩
      rw [isSpace_decodedAs]
      simpa using hspace
  · cases t with
    | nil => exact nofun
    | cons c t => exact fun h => hs (congrArg some ((decodedAs_eq_iff (by decide)).mp (Option.some.inj h)))

/-- An XML declaration comes first. -/
theorem ofUtf8_refused_declared (unknown : Option String) {lead s : List Char} (hlead : IsMargin lead)
    (hne : lead ≠ [])
    (hs : Reading.isDeclared s = true) :
    ∃ fault, Document.ofSource (.ofUtf8 unknown (encode (lead ++ s))) = .error fault := by
  refine ofSource_error (Reading.document?_refused_declared (isWhole_ofUtf8 unknown (lead ++ s)).isSettled
    ?_ hlead hne ((isDeclared_map_decodedAs s).trans hs))
  change (Source.ofUtf8 unknown (encode (lead ++ s))).characters = _
  rw [characters_ofUtf8, List.map_append, map_decodedAs_margin hlead]

/-- No tag begins with a null character. -/
theorem ofUtf8_refused_null (unknown : Option String) {lead s : List Char} (hlead : IsMargin lead) :
    ∃ fault, Document.ofSource (.ofUtf8 unknown (encode (lead ++ '<' :: '\x00' :: s))) = .error fault := by
  refine ofSource_error (Reading.document?_refused_unnamed (c := '\x00') (u := s.map decodedAs)
    (isWhole_ofUtf8 unknown (lead ++ '<' :: '\x00' :: s)).isSettled ?_ hlead (by decide) (by decide)
    (by decide))
  change (Source.ofUtf8 unknown (encode (lead ++ '<' :: '\x00' :: s))).characters = _
  rw [characters_ofUtf8, List.map_append, map_decodedAs_margin hlead]
  rfl

end Storyboard.Markup
