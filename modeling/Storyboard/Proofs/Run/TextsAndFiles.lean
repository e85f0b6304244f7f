import Storyboard.Proofs.Markup.Margins.Sources
import Storyboard.Proofs.Run.GeneratedFiles
/-!
# Texts and files

A document is read from a text or from a file that holds the text in UTF-8. The blanks at the ends of a text
are taken off; a file is read as it is. So the two come to the same for a text without blanks at its ends, and
also for one with white space of the markup there, unless it is in front of an XML declaration, which has to
come first. No other blank may stand in front of a document.

The file is longer by its white space, and what a document may expand to depends on its length: white space in
front of it may let a file pass whose text expands to too much.

* `trim_between`, `exists_between_blanks`: a text without the blanks at its ends, and that every text is of
  this form.
* `documentOf_encode`: the document in a file that holds a text in UTF-8.
* `refused_led`: what blanks in front of a text do not go with.
* `text_and_file`: both readings of a text.
-/
namespace Storyboard

open Storyboard.Markup
open Storyboard.Text

/-! ## Blanks at the ends of a text -/

/-- There is no blank at either end. -/
structure IsTrimmed (s : List Char) : Prop where
  first : ∀ c, s.head? = some c → isBlank c = false
  last : ∀ c, s.getLast? = some c → isBlank c = false

theorem dropWhile_of_head {p : Char → Bool} {s : List Char} (h : ∀ c, s.head? = some c → p c = false) :
    s.dropWhile p = s := by
  cases s with
  | nil => rfl
  | cons c s => exact List.dropWhile_cons_of_neg (by simp [h c rfl])

theorem trim_between {lead core trail : List Char} (hlead : ∀ c ∈ lead, isBlank c = true)
    (htrail : ∀ c ∈ trail, isBlank c = true) (hcore : IsTrimmed core) :
    trim (lead ++ (core ++ trail)) = core := by
  have hlast : core.reverse.dropWhile isBlank = core.reverse :=
    dropWhile_of_head fun c hc => hcore.last c (List.head?_reverse ▸ hc)
  have hends : ∀ s : List Char, (s ++ trail).reverse.dropWhile isBlank = s.reverse.dropWhile isBlank := by
    intro s
    rw [List.reverse_append, List.dropWhile_append_of_pos fun c hc => htrail c (List.mem_reverse.mp hc)]
  rw [trim, trimBy, List.dropWhile_append_of_pos hlead]
  cases core with
  | nil =>
    have hnil : trail.dropWhile isBlank = [] := by
      have hall : (trail ++ []).dropWhile isBlank = [].dropWhile isBlank :=
        List.dropWhile_append_of_pos htrail
      rwa [List.append_nil] at hall
    rw [List.nil_append, hnil]
    rfl
  | cons c core =>
    rw [dropWhile_of_head (s := c :: core ++ trail) fun d hd => hcore.first d hd, hends, hlast,
      List.reverse_reverse]

theorem head_of_dropWhile {p : Char → Bool} {s : List Char} {c : Char} (h : (s.dropWhile p).head? = some c) :
    p c = false := by
  have hnot := List.head?_dropWhile_not p s
  rw [h] at hnot
  simpa using hnot

/-- Every text is one without blanks at its ends between blanks. -/
theorem exists_between_blanks (s : List Char) : ∃ lead core trail, s = lead ++ (core ++ trail) ∧
    (∀ c ∈ lead, isBlank c = true) ∧ (∀ c ∈ trail, isBlank c = true) ∧ IsTrimmed core := by
  have htake : ∀ s : List Char, ∀ c ∈ s.takeWhile isBlank, isBlank c = true := fun s =>
    List.all_eq_true.mp List.all_takeWhile
  let core := ((s.dropWhile isBlank).reverse.dropWhile isBlank).reverse
  let trail := ((s.dropWhile isBlank).reverse.takeWhile isBlank).reverse
  have hparts : core ++ trail = s.dropWhile isBlank := by
    rw [← List.reverse_append, List.takeWhile_append_dropWhile, List.reverse_reverse]
  refine ⟨s.takeWhile isBlank, core, trail, ?_, htake s, fun c hc => htake _ c (List.mem_reverse.mp hc),
    fun c hc => ?_, fun c hc => ?_⟩
  · rw [hparts, List.takeWhile_append_dropWhile]
  · refine head_of_dropWhile (s := s) ?_
    rw [← hparts, List.head?_append, hc]
    rfl
  · exact head_of_dropWhile (List.getLast?_reverse ▸ hc)

/-! ## Texts as bytes -/

/-- No text in UTF-8 is taken for a compressed file. -/
theorem unpacked_encode (s : List Char) : Compression.unpacked (encode s) = encode s := by
  refine if_neg fun h => ?_
  obtain ⟨t, ht⟩ := List.isPrefixOf_iff_prefix.mp h
  obtain ⟨u, -, hu⟩ := encode_eq_cons_ascii (a := '\x1f') (by decide) rfl ht.symm
  obtain ⟨hsecond, -⟩ | ⟨c, -, -, hc, hsecond, -⟩ := encode_eq_cons hu.symm
  · exact absurd hsecond (by decide)
  · exact absurd (hsecond ▸ hc) (by decide)

/-- Nor for one in EBCDIC. -/
theorem isEbcdic_encode (s : List Char) : isEbcdic (encode s) = false := by
  refine Bool.eq_false_iff.mpr fun h => ?_
  obtain ⟨t, ht⟩ := List.isPrefixOf_iff_prefix.mp h
  obtain ⟨u, -, hu⟩ := encode_eq_cons_ascii (a := 'L') (by decide) rfl ht.symm
  obtain ⟨v, -, hv⟩ := encode_eq_cons_ascii (a := 'o') (by decide) rfl hu.symm
  obtain ⟨hthird, -⟩ | ⟨c, -, -, hc, hthird, -⟩ := encode_eq_cons hv.symm
  · exact absurd hthird (by decide)
  · exact absurd (hthird ▸ hc) (by decide)

/-- The document that a text is in UTF-8. -/
def documentIn (s : List Char) : Except Fault Document := Document.ofSource (.ofBytes (encode s))

theorem ofText_eq (text : String) : Document.ofText text = documentIn (trim text.toList) := by
  rw [Document.ofText, utf8_eq_encode, String.toList_ofList, Document.ofBytes, isEbcdic_encode]
  rfl

theorem documentOf_encode (text : String) :
    documentOf (.ok (utf8 text)) = (documentIn text.toList).mapError .faulty := by
  rw [documentOf, utf8_eq_encode, unpacked_encode, Document.ofBytes, isEbcdic_encode]
  rfl

/-! ## Blanks in front -/

/-- The text begins with an angle bracket, but with no XML declaration. -/
def IsOpen (s : List Char) : Prop := ∃ t, s = '<' :: t ∧ t.head? ≠ some '\x00' ∧ Reading.isDeclared s = false

theorem isBlank_of_isSpace {c : Char} (h : isSpace c = true) : isBlank c = true := by
  rcases eq_of_isSpace h with rfl | rfl | rfl | rfl <;> rfl

theorem documentIn_led {lead s : List Char} (hlead : ∀ c ∈ lead, isBlank c = true) (hne : lead ≠ []) :
    documentIn (lead ++ s) = Document.ofSource (.ofUtf8 none (encode (lead ++ s))) := by
  obtain ⟨c, lead, rfl⟩ := List.exists_cons_of_ne_nil hne
  rw [documentIn, List.cons_append, ofBytes_of_isBlank (hlead c List.mem_cons_self)]

/-- **What may not stand in front of a document.** Blanks that are no white space of the markup may not, and
none at all in front of an XML declaration, of a byte order mark or of anything else but an angle bracket. -/
theorem refused_led {lead core trail : List Char} (hlead : ∀ c ∈ lead, isBlank c = true) (hne : lead ≠ [])
    (htrail : ∀ c ∈ trail, isBlank c = true) (hcore : IsTrimmed core)
    (hbad : ¬(IsMargin lead ∧ IsOpen core)) :
    ∃ fault, documentIn (lead ++ (core ++ trail)) = .error fault := by
  rw [documentIn_led hlead hne]
  have hblank : ∀ {c : Char}, isBlank c = true → c ≠ '<' := by
    rintro c hc rfl
    cases hc
  by_cases hmargin : IsMargin lead
  · by_cases hopen : core.head? = some '<'
    · obtain ⟨t, rfl⟩ : ∃ t, core = '<' :: t := List.head?_eq_some_iff.mp hopen
      cases hdeclared : Reading.isDeclared ('<' :: t) with
      | true =>
        refine ofUtf8_refused_declared none hmargin hne ?_
        obtain ⟨c, u, hu, hc⟩ := Reading.exists_of_isDeclared hdeclared
        rw [hu]
        exact hc
      | false =>
        have hnull : t.head? = some '\x00' :=
          Classical.byContradiction fun hnull => hbad ⟨hmargin, t, rfl, hnull, hdeclared⟩
        obtain ⟨u, rfl⟩ : ∃ u, t = '\x00' :: u := List.head?_eq_some_iff.mp hnull
        exact ofUtf8_refused_null none hmargin
    · refine ofUtf8_refused_other none ?_
      rw [List.dropWhile_append_of_pos hmargin]
      cases core with
      | nil =>
        intro hhead
        have hmem := (List.dropWhile_suffix isSpace).subset (List.mem_of_mem_head? hhead)
        exact hblank (htrail _ hmem) rfl
      | cons c core =>
        have hc : isSpace c = false := Bool.eq_false_iff.mpr fun hspace =>
          absurd (isBlank_of_isSpace hspace) (by simp [hcore.first c rfl])
        rw [List.cons_append, List.dropWhile_cons_of_neg (by simp [hc])]
        exact hopen
  · refine ofUtf8_refused_other none fun hhead => ?_
    rcases Reading.span_append isSpace lead (core ++ trail) with ⟨hnil, -⟩ | ⟨hrest, -, hdrop⟩
    · exact hmargin (Reading.isMargin_of_dropWhile hnil)
    · obtain ⟨c, more, hc⟩ := List.exists_cons_of_ne_nil hrest
      rw [hdrop, hc] at hhead
      have hmem : c ∈ lead := (List.dropWhile_suffix isSpace).subset (hc ▸ List.mem_cons_self)
      exact hblank (hlead c hmem) (Option.some.inj hhead)

/-! ## Both readings -/

/-- White space in front of an open text, and behind it. -/
theorem documentIn_between {lead core trail : List Char} (hlead : IsMargin lead) (hne : lead ≠ [])
    (hopen : IsOpen core) (htrail : IsMargin trail) :
    (documentIn (lead ++ (core ++ trail))).toOption = (documentIn core).toOption ∨
      documentIn core = .error .excessiveExpansion := by
  obtain ⟨t, rfl, hnull, hdeclared⟩ := hopen
  have hbetween := ofSource_between (isWhole_ofUtf8 none ('<' :: t)) hlead htrail (.inr ⟨?_, ?_⟩)
  · rw [documentIn_led (fun c hc => isBlank_of_isSpace (hlead c hc)) hne, documentIn,
      ofBytes_of_open hnull hdeclared, ofUtf8_between none hlead htrail]
    exact hbetween.imp_right And.right
  · rw [characters_ofUtf8]
    rfl
  · rw [characters_ofUtf8, isDeclared_map_decodedAs]
    exact hdeclared

/-- White space behind a text, if it is decoded to itself. -/
theorem documentIn_followed {core trail : List Char} (hwhole : (Source.ofBytes (encode core)).IsWhole)
    (htrail : IsMargin trail)
    (hsource : Source.ofBytes (encode (core ++ trail)) = (Source.ofBytes (encode core)).between [] trail) :
    (documentIn (core ++ trail)).toOption = (documentIn core).toOption := by
  rw [documentIn, documentIn, hsource]
  exact (ofSource_between hwhole .nil htrail (.inl rfl)).resolve_right fun h => h.1 rfl

theorem documentIn_followed_utf8 {core trail : List Char} (h : IsTakenForUtf8 core)
    (htrail : IsMargin trail) :
    (documentIn (core ++ trail)).toOption = (documentIn core).toOption := by
  by_cases hmark : core = [byteOrderMark]
  · -- A byte order mark alone is no document, nor is white space behind it.
    subst hmark
    cases trail with
    | nil => rw [List.append_nil]
    | cons c trail =>
      have halone : Source.ofBytes (encode [byteOrderMark]) = .ofUtf8 none (encode [byteOrderMark]) := rfl
      have hspaces : ((c :: trail).dropWhile isSpace).head? ≠ some '<' := by
        rw [← List.append_nil (c :: trail), List.dropWhile_append_of_pos htrail]
        exact nofun
      obtain ⟨fault, hfault⟩ := ofUtf8_refused_other none (s := [byteOrderMark]) (by decide)
      obtain ⟨fault', hfault'⟩ := ofUtf8_refused_other none hspaces
      rw [documentIn, documentIn, halone, List.singleton_append, ofBytes_byteOrderMark (List.cons_ne_nil _ _),
        hfault, hfault']
      rfl
  · obtain ⟨hwhole, hsource⟩ := ofBytes_between h hmark htrail
    exact documentIn_followed hwhole htrail hsource

/-- **Texts and files come to the same document.** The first part is about a text without blanks at its ends,
the next two about blanks in front, and the last two about white space behind: a text that is taken for UTF-8,
and one in any encoding that decodes the white space to itself. -/
theorem text_and_file {text : String} {lead core trail : List Char}
    (htext : text.toList = lead ++ (core ++ trail)) (hlead : ∀ c ∈ lead, isBlank c = true)
    (htrail : ∀ c ∈ trail, isBlank c = true) (hcore : IsTrimmed core) :
    (lead = [] → trail = [] → documentOf (.ok (utf8 text)) = (Document.ofText text).mapError .faulty) ∧
    (lead ≠ [] → ¬(IsMargin lead ∧ IsOpen core) → ∃ failure, documentOf (.ok (utf8 text)) = .error failure) ∧
    (lead ≠ [] → IsMargin lead → IsOpen core → IsMargin trail →
      (documentOf (.ok (utf8 text))).toOption = (Document.ofText text).toOption ∨
        Document.ofText text = .error .excessiveExpansion) ∧
    (lead = [] → IsTakenForUtf8 core → IsMargin trail →
      (documentOf (.ok (utf8 text))).toOption = (Document.ofText text).toOption) ∧
    (lead = [] → (Source.ofBytes (encode core)).IsWhole →
      Source.ofBytes (encode (core ++ trail)) = (Source.ofBytes (encode core)).between [] trail →
      IsMargin trail → (documentOf (.ok (utf8 text))).toOption = (Document.ofText text).toOption) := by
  have htoOption : ∀ x : Except Fault Document, (x.mapError ReadFailure.faulty).toOption = x.toOption := by
    intro x
    cases x <;> rfl
  rw [documentOf_encode, ofText_eq, htext, trim_between hlead htrail hcore, htoOption]
  refine ⟨?_, fun hne hbad => ?_, fun hne hmargin hopen hspaces => ?_, ?_, ?_⟩
  · rintro rfl rfl
    rw [List.append_nil, List.nil_append]
  · obtain ⟨fault, hfault⟩ := refused_led hlead hne htrail hcore hbad
    exact ⟨.faulty fault, by rw [hfault]; rfl⟩
  · exact documentIn_between hmargin hne hopen hspaces
  · rintro rfl htaken hspaces
    exact documentIn_followed_utf8 htaken hspaces
  · rintro rfl hwhole hsource hspaces
    exact documentIn_followed hwhole hspaces hsource

/-- White space around an element is no more than white space, in a text as in a file; a declaration must be
followed by it only; and an ideographic space is refused in a file. -/
theorem text_and_file_spaced :
    (∃ d, Document.ofText "\n<a/>\n" = .ok d ∧ documentOf (.ok (utf8 "\n<a/>\n")) = .ok d) ∧
    (∃ d, Document.ofText "<?xml version='1.0' encoding='UTF-8'?><a/>\n" = .ok d ∧
      documentOf (.ok (utf8 "<?xml version='1.0' encoding='UTF-8'?><a/>\n")) = .ok d) ∧
    ∃ failure, documentOf (.ok (utf8 "\u3000<a/>")) = .error failure := by
  have hsame : ∀ {text : String} , (documentOf (.ok (utf8 text))).toOption = (Document.ofText text).toOption →
      (Document.ofText text).toOption.isSome = true →
      ∃ d, Document.ofText text = .ok d ∧ documentOf (.ok (utf8 text)) = .ok d := by
    intro text hsame hread
    cases htext : Document.ofText text with
    | error fault => simp [htext, Except.toOption] at hread
    | ok d =>
      refine ⟨d, rfl, ?_⟩
      rw [htext] at hsame
      cases hfile : documentOf (.ok (utf8 text)) with
      | error failure => simp [hfile, Except.toOption] at hsame
      | ok d' => simpa [hfile, Except.toOption] using hsame
  have hled : (Document.ofText "\n<a/>\n").toOption.isSome = true := by decide +kernel
  have hbreak : ∀ c ∈ ['\n'], isBlank c = true := List.forall_mem_singleton.mpr (by decide)
  have helement : IsTrimmed "<a/>".toList := ⟨by rintro c ⟨⟩; decide, by rintro c ⟨⟩; decide⟩
  refine ⟨hsame ?_ hled, hsame ?_ (by decide +kernel), ?_⟩
  · have hparts := @text_and_file "\n<a/>\n" ['\n'] "<a/>".toList ['\n'] rfl hbreak hbreak helement
    have hopen : IsOpen "<a/>".toList := ⟨"a/>".toList, rfl, by decide, rfl⟩
    refine (hparts.2.2.1 (by decide) (by decide) hopen (by decide)).resolve_right fun hrefused => ?_
    rw [hrefused] at hled
    cases hled
  · have hparts := @text_and_file "<?xml version='1.0' encoding='UTF-8'?><a/>\n" []
      "<?xml version='1.0' encoding='UTF-8'?><a/>".toList ['\n'] rfl (List.forall_mem_nil _) hbreak
      ⟨by rintro c ⟨⟩; decide, by rintro c ⟨⟩; decide⟩
    have hname : declaredName? (encode "<?xml version='1.0' encoding='UTF-8'?><a/>".toList) =
        some "UTF-8" := by decide +kernel
    refine hparts.2.2.2.1 rfl ⟨by decide, fun name h => ?_⟩ (by decide)
    obtain rfl := Option.some.inj (hname.symm.trans h)
    exact .inl (by decide +kernel)
  · exact (@text_and_file "\u3000<a/>" ['\u3000'] "<a/>".toList [] rfl
      (List.forall_mem_singleton.mpr (by decide)) (List.forall_mem_nil _) helement).2.1 (by decide)
      fun h => absurd h.1 (by decide)

/-- The two do not always come to the same: a file must not have a line end in front of its declaration, which
a text may. -/
theorem text_and_file_differ : ¬∀ text : String,
    ((∃ fault, Document.ofText text = .error fault) ↔
      ∃ failure, documentOf (.ok (utf8 text)) = .error failure) ∧
    ∀ d, Document.ofText text = .ok d ↔ documentOf (.ok (utf8 text)) = .ok d := by
  intro h
  have htext : (Document.ofText "\n<?xml version='1.0'?><a/>").toOption.isSome = true := by decide +kernel
  have hfile : (documentOf (.ok (utf8 "\n<?xml version='1.0'?><a/>"))).toOption.isSome = false := by
    decide +kernel
  have hboth := (h "\n<?xml version='1.0'?><a/>").2
  cases hread : Document.ofText "\n<?xml version='1.0'?><a/>" with
  | error fault => simp [hread, Except.toOption] at htext
  | ok d => simp [(hboth d).mp hread, Except.toOption] at hfile

end Storyboard
