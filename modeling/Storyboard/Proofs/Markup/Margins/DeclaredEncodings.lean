import Storyboard.Proofs.Markup.Margins.Document
import Storyboard.Proofs.Text.Utf8
/-!
# Declared encodings

A document may declare its encoding, and its bytes are searched for that with each taken for a character, and
with no regard to faults. White space behind a text does not change what it declares.

* `isDeclared_latin`: the bytes of a text begin with an XML declaration as the text does.
* `comes_declarationHead`: the name that a declaration gives, by the text alone.
* `declaredName?_append`: white space behind a text.
-/
namespace Storyboard.Markup

open Storyboard.Text

/-! ## Bytes as characters -/

/-- Bytes with each taken for a character. -/
def latin (bytes : List UInt8) : List Char := bytes.map fun b => Char.ofNat b.toNat

theorem latin_eq (bytes : List UInt8) : bytes.map (fun b => Char.ofNat b.toNat) = latin bytes := rfl

theorem toNat_latin (b : UInt8) : (Char.ofNat b.toNat).toNat = b.toNat := by
  have hvalid : b.toNat.isValidChar := .inl (Nat.lt_trans b.toNat_lt (by decide))
  rw [Char.ofNat, dif_pos hvalid]
  rfl

theorem latin_encode_ascii {c : Char} (hc : c.toNat < 0x80) (s : List Char) :
    latin (encode (c :: s)) = c :: latin (encode s) := by
  rw [encode_ascii hc]
  simp only [latin, List.map_cons, toNat_ofNat_lt (by omega : c.toNat < 256), Char.ofNat_toNat]

theorem latin_encode_wide {c : Char} (hc : 0x80 ≤ c.toNat) (s : List Char) :
    ∃ d t, latin (encode (c :: s)) = d :: t ∧ 0x80 ≤ d.toNat := by
  obtain ⟨b, more, hbytes, hlow, -⟩ := encode_wide hc s
  refine ⟨_, _, by rw [hbytes]; rfl, ?_⟩
  rw [toNat_latin]
  omega

/-- Words of ASCII are read off the bytes of a text. -/
theorem isPrefixOf_latin {w : List Char} (hw : w.all (·.toNat < 0x80) = true) (s : List Char) :
    w.isPrefixOf (latin (encode s)) = w.isPrefixOf s ∧
      (w.isPrefixOf s = true → (latin (encode s)).drop w.length = latin (encode (s.drop w.length))) := by
  induction w generalizing s with
  | nil => exact ⟨rfl, fun _ => rfl⟩
  | cons a w ih =>
    rw [List.all_cons, Bool.and_eq_true, decide_eq_true_eq] at hw
    obtain ⟨ha, hw⟩ := hw
    cases s with
    | nil => exact ⟨rfl, fun h => nomatch h⟩
    | cons c s =>
      by_cases hc : c.toNat < 0x80
      · rw [latin_encode_ascii hc]
        obtain ⟨hbegins, hdrop⟩ := ih hw s
        simp only [List.isPrefixOf, hbegins, Bool.and_eq_true, List.length_cons, List.drop_succ_cons,
          true_and]
        exact fun h => hdrop h.2
      · obtain ⟨d, t, hbytes, hd⟩ := latin_encode_wide (by omega : 0x80 ≤ c.toNat) s
        have hne : ∀ {x : Char}, 0x80 ≤ x.toNat → (a == x) = false := fun hx =>
          beq_false_of_ne fun h => by rw [h] at ha; omega
        rw [hbytes]
        simp only [List.isPrefixOf, hne hd, hne (by omega : 0x80 ≤ c.toNat), Bool.false_and, true_and]
        exact fun h => nomatch h

theorem isSpace_lt {c : Char} (h : isSpace c = true) : c.toNat < 0x80 := by
  rcases eq_of_isSpace h with rfl | rfl | rfl | rfl <;> decide

theorem head?_latin (s : List Char) :
    ((latin (encode s)).head?.map isSpace).getD false = (s.head?.map isSpace).getD false := by
  cases s with
  | nil => rfl
  | cons c s =>
    by_cases hc : c.toNat < 0x80
    · rw [latin_encode_ascii hc]
      rfl
    · obtain ⟨d, t, hbytes, hd⟩ := latin_encode_wide (by omega : 0x80 ≤ c.toNat) s
      have hno : ∀ {x : Char}, 0x80 ≤ x.toNat → isSpace x = false := fun hx =>
        Bool.eq_false_iff.mpr fun h => absurd (isSpace_lt h) (by omega)
      rw [hbytes]
      change isSpace d = isSpace c
      rw [hno hd, hno (by omega : 0x80 ≤ c.toNat)]

theorem isDeclared_latin (s : List Char) : Reading.isDeclared (latin (encode s)) = Reading.isDeclared s := by
  obtain ⟨hbegins, hdrop⟩ := isPrefixOf_latin (w := "<?xml".toList) (by decide) s
  rw [Reading.isDeclared_eq, Reading.isDeclared_eq, hbegins]
  cases h : "<?xml".toList.isPrefixOf s with
  | false => rfl
  | true =>
    have hdrop' : (latin (encode s)).drop 5 = latin (encode (s.drop 5)) := hdrop h
    rw [hdrop', head?_latin]

theorem encode_margin {e : List Char} (he : IsMargin e) :
    latin (encode e) = e ∧ (encode e).length = e.length := by
  induction e with
  | nil => exact ⟨rfl, rfl⟩
  | cons c e ih =>
    obtain ⟨hc, he⟩ := List.forall_mem_cons.mp he
    obtain ⟨hlatin, hlength⟩ := ih he
    rw [latin_encode_ascii (isSpace_lt hc), encode_ascii (isSpace_lt hc), hlatin, List.length_cons, hlength]
    exact ⟨rfl, rfl⟩

theorem latin_append (bytes more : List UInt8) : latin (bytes ++ more) = latin bytes ++ latin more :=
  List.map_append

/-! ## Declared encodings -/

/-- The encoding that the bytes declare, if they do. -/
def declaredName? (bytes : List UInt8) : Option String := (declaredEncoding? (latin bytes)).map Prod.fst

/-- The reading is in front of a text, and faults do not end it. -/
structure Reader.IsPatient (r : Reader) (s : List Char) : Prop where
  damaged : r.damaged = true
  cutOff : r.cutOff = none
  rest : r.rest = s

namespace Reading

variable {α β : Type} {r : Reader} {s u u' e : List Char}

/-- The reading comes to a result in front of a text, whatever its faults. -/
def Comes (x : Reading α) (r : Reader) (a : α) (s : List Char) : Prop :=
  ∃ r', EStateM.run x r = .ok a r' ∧ r'.IsPatient s

theorem Comes.bind {x : Reading α} {f : α → Reading β} {a : α} {b : β} {s t : List Char} (hx : Comes x r a s)
    (hf : ∀ r' : Reader, r'.IsPatient s → Comes (f a) r' b t) : Comes (x >>= f) r b t := by
  obtain ⟨r', hrun, hr'⟩ := hx
  obtain ⟨r'', hrun', hr''⟩ := hf r' hr'
  exact ⟨r'', (run_bind_ok hrun).trans hrun', hr''⟩

theorem comes_pure (h : r.IsPatient s) (a : α) : Comes (pure a) r a s := ⟨r, rfl, h⟩

theorem comes_rest (h : r.IsPatient s) : Comes rest r s s := by
  obtain rfl := h.rest
  exact ⟨r, rfl, h⟩

theorem comes_moveTo (h : r.IsPatient s) (u : List Char) : Comes (moveTo u) r () u :=
  ⟨r.moved u, rfl, h.damaged, h.cutOff, rfl⟩

theorem comes_report (h : r.IsPatient s) (fault : Fault) : Comes (report fault) r () s := by
  have hpending : (r.noting fault).isPending = true := by simp [Reader.isPending, Reader.noting, h.damaged]
  refine ⟨r.noting fault, ?_, h.damaged, h.cutOff, h.rest⟩
  rw [report, run_bind_ok (run_lookAhead h.cutOff)]
  change EStateM.run (if decide (fault.gravity = .fatal) && !(r.noting fault).isPending then throw ()
    else pure () : Reading Unit) (r.noting fault) = _
  rw [hpending, Bool.not_true, Bool.and_false]
  rfl

theorem comes_reportAll (h : r.IsPatient s) (faults : List Fault) : Comes (reportAll faults) r () s := by
  induction faults generalizing r with
  | nil => exact comes_pure h ()
  | cons fault more ih => exact (comes_report h fault).bind fun r' hr' => ih hr'

theorem comes_skipSpaces (h : r.IsPatient s) :
    Comes skipSpaces r ((s.head?.map isSpace).getD false) (s.dropWhile isSpace) := by
  obtain rfl := h.rest
  exact ⟨_, run_skipSpaces r, h.damaged, h.cutOff, rfl⟩

theorem comes_accept_true (h : r.IsPatient s) {w : String} (hw : w.toList.isPrefixOf s = true) :
    Comes (accept w) r true (s.drop w.length) := by
  obtain rfl := h.rest
  exact ⟨r.moved (r.rest.drop w.length), by rw [run_accept, if_pos hw], h.damaged, h.cutOff, rfl⟩

theorem comes_accept_false (h : r.IsPatient s) {w : String} (hw : w.toList.isPrefixOf s = false) :
    Comes (accept w) r false s := by
  obtain rfl := h.rest
  exact ⟨r, run_accept_false hw, h⟩

theorem comes_bad (h : r.IsPatient s) :
    Comes (do report badXmlDeclaration; return (none : Option α)) r none s :=
  (comes_report h _).bind fun _ hr' => comes_pure hr' none

/-- What stands between quotes, and what follows. -/
def quotedFrom (parse : List Char → Option α × List Char) : List Char → Option α × List Char
  | [] => (none, [])
  | c :: s =>
    if c = '"' || c = '\x27' then
      if c.toString.toList.isPrefixOf (parse s).2 then ((parse s).1, (parse s).2.drop c.toString.length)
      else (none, (parse s).2)
    else (none, c :: s)

theorem comes_closing (h : r.IsPatient s) (quote : String) (a : Option α) :
    Comes
      (do
        if ← accept quote then return a
        report badXmlDeclaration
        return none) r
      (if quote.toList.isPrefixOf s then (a, s.drop quote.length) else (none, s)).1
      (if quote.toList.isPrefixOf s then (a, s.drop quote.length) else (none, s)).2 := by
  cases hclosed : quote.toList.isPrefixOf s with
  | true => exact (comes_accept_true h hclosed).bind fun r₁ h₁ => comes_pure h₁ a
  | false => exact (comes_accept_false h hclosed).bind fun r₁ h₁ => comes_bad h₁

theorem comes_quoted (parse : List Char → Option α × List Char) (h : r.IsPatient s) :
    Comes
      (do
        match ← rest with
        | c :: s =>
          if c = '"' || c = '\x27' then
            let (a, s) := parse s
            moveTo s
            if a.isNone then report badXmlDeclaration
            if ← accept c.toString then return a
            report badXmlDeclaration
            return none
          else
            report badXmlDeclaration
            return none
        | [] =>
          report badXmlDeclaration
          return none) r
      (quotedFrom parse s).1 (quotedFrom parse s).2 := by
  refine (comes_rest h).bind fun r₁ h₁ => ?_
  cases s with
  | nil => exact comes_bad h₁
  | cons c s =>
    dsimp only [quotedFrom]
    by_cases hquote : (c = '"' || c = '\x27') = true
    · rw [if_pos hquote, if_pos hquote]
      refine (comes_moveTo h₁ (parse s).2).bind fun r₂ h₂ => ?_
      by_cases hnone : (parse s).1.isNone = true
      · rw [if_pos hnone]
        exact (comes_report h₂ _).bind fun r₃ h₃ => comes_closing h₃ _ _
      · rw [if_neg hnone]
        exact comes_closing h₂ _ _
    · rw [if_neg hquote, if_neg hquote]
      exact comes_bad h₁

/-- What a text assigns to a word, and what follows. -/
def assignedFrom (word : String) (parse : List Char → Option α × List Char) (s : List Char) :
    Option α × List Char :=
  if word.toList.isPrefixOf s then
    let s := (s.drop word.length).dropWhile isSpace
    if "=".toList.isPrefixOf s then quotedFrom parse ((s.drop "=".length).dropWhile isSpace) else (none, s)
  else (none, s)

theorem comes_assigned? (word : String) (parse : List Char → Option α × List Char) (h : r.IsPatient s) :
    Comes (assigned? word parse) r (assignedFrom word parse s).1 (assignedFrom word parse s).2 := by
  unfold assignedFrom
  cases hword : word.toList.isPrefixOf s with
  | false => exact (comes_accept_false h hword).bind fun r₁ h₁ => comes_pure h₁ none
  | true =>
    refine (comes_accept_true h hword).bind fun r₁ h₁ => (comes_skipSpaces h₁).bind fun r₂ h₂ => ?_
    rw [if_pos rfl]
    generalize (s.drop word.length).dropWhile isSpace = s at h₂ ⊢
    dsimp only
    cases hequals : "=".toList.isPrefixOf s with
    | false => exact (comes_accept_false h₂ hequals).bind fun r₃ h₃ => comes_bad h₃
    | true =>
      refine (comes_accept_true h₂ hequals).bind fun r₃ h₃ => (comes_skipSpaces h₃).bind fun r₄ h₄ => ?_
      exact comes_quoted parse h₄

/-- The name of an encoding behind the version. -/
def encodingBehind (s : List Char) : Option (List Char) :=
  if "?>".toList.isPrefixOf s then none else (assignedFrom "encoding" encodingFrom (s.dropWhile isSpace)).1

/-- The name of the encoding in a declaration, behind `<?xml`. -/
def encodingNameFrom (s : List Char) : Option (List Char) :=
  encodingBehind (assignedFrom "version" versionFrom (s.dropWhile isSpace)).2

theorem comes_behindVersion (s : List Char) : ∃ ended t, ∀ r : Reader, r.IsPatient s → Comes
    (do
      let s ← rest
      if !(s.head?.map isSpace).getD false then
        if ← accept "?>" then return (none, true)
        report badXmlDeclaration
      let _ ← skipSpaces
      return ((← assigned? "encoding" encodingFrom).map String.ofList, false)) r
    ((encodingBehind s).map String.ofList, ended) t := by
  have hencoding : ∀ r : Reader, r.IsPatient s → Comes
      (do
        let _ ← skipSpaces
        return ((← assigned? "encoding" encodingFrom).map String.ofList, false)) r
      ((assignedFrom "encoding" encodingFrom (s.dropWhile isSpace)).1.map String.ofList, false)
      (assignedFrom "encoding" encodingFrom (s.dropWhile isSpace)).2 := fun r h =>
    (comes_skipSpaces h).bind fun _ h₁ => (comes_assigned? _ _ h₁).bind fun _ h₂ => comes_pure h₂ _
  unfold encodingBehind
  cases hended : "?>".toList.isPrefixOf s with
  | true =>
    refine ⟨true, s.drop "?>".length, fun r h => (comes_rest h).bind fun r₁ h₁ => ?_⟩
    obtain ⟨u, rfl⟩ := List.isPrefixOf_iff_prefix.mp hended
    exact (comes_accept_true h₁ hended).bind fun r₂ h₂ => comes_pure h₂ _
  | false =>
    refine ⟨false, (assignedFrom "encoding" encodingFrom (s.dropWhile isSpace)).2,
      fun r h => (comes_rest h).bind fun r₁ h₁ => ?_⟩
    by_cases hspaced : (!(s.head?.map isSpace).getD false) = true
    · rw [if_pos hspaced]
      exact (comes_accept_false h₁ hended).bind fun r₂ h₂ => (comes_report h₂ _).bind hencoding
    · rw [if_neg hspaced]
      exact hencoding r₁ h₁

theorem comes_declarationHead (s : List Char) : ∃ ended t, ∀ r : Reader, r.IsPatient s →
    Comes declarationHead r ((encodingNameFrom s).map String.ofList, ended) t := by
  obtain ⟨ended, t, hbehind⟩ :=
    comes_behindVersion (assignedFrom "version" versionFrom (s.dropWhile isSpace)).2
  refine ⟨ended, t, fun r h => (comes_skipSpaces h).bind fun r₁ h₁ =>
    (comes_assigned? _ _ h₁).bind fun r₂ h₂ => ?_⟩
  cases (assignedFrom "version" versionFrom (s.dropWhile isSpace)).1 with
  | none => exact (comes_report h₂ _).bind hbehind
  | some version => exact (comes_reportAll h₂ _).bind hbehind

/-- The second text is the first one with white space behind it, or only white space is left of both. -/
def Trails (e s s' : List Char) : Prop := s' = s ++ e ∨ IsMargin s ∧ IsMargin s'

theorem Trails.dropWhile (h : Trails e s u) (he : IsMargin e) :
    Trails e (s.dropWhile isSpace) (u.dropWhile isSpace) := by
  rcases h with rfl | ⟨hs, hu⟩
  · by_cases hs : IsMargin s
    · exact .inr ⟨hs.of_suffix (List.dropWhile_suffix _),
        (isMargin_append.mpr ⟨hs, he⟩).of_suffix (List.dropWhile_suffix _)⟩
    · exact .inl (dropWhile_isSpace_append fun h => absurd h hs)
  · exact .inr ⟨hs.of_suffix (List.dropWhile_suffix _), hu.of_suffix (List.dropWhile_suffix _)⟩

theorem isPrefixOf_margin_eq {w : List Char} (hw : w.any isSpace = false) (hne : w ≠ [])
    (hs : IsMargin s) :
    w.isPrefixOf s = false := by
  obtain ⟨c, w, rfl⟩ := List.exists_cons_of_ne_nil hne
  exact isPrefixOf_margin hw hs []

theorem Trails.isPrefixOf (h : Trails e s u) (he : IsMargin e) {w : List Char}
    (hw : w.any isSpace = false) (hne : w ≠ []) : w.isPrefixOf u = w.isPrefixOf s := by
  rcases h with rfl | ⟨hs, hu⟩
  · exact isPrefixOf_margin hw he s
  · rw [isPrefixOf_margin_eq hw hne hs, isPrefixOf_margin_eq hw hne hu]

theorem Trails.drop (h : Trails e s u) {n : Nat} (hn : n ≤ s.length) : Trails e (s.drop n) (u.drop n) := by
  rcases h with rfl | ⟨hs, hu⟩
  · exact .inl (List.drop_append_of_le_length hn)
  · exact .inr ⟨hs.of_suffix (List.drop_suffix _ _), hu.of_suffix (List.drop_suffix _ _)⟩

theorem quotedFrom_margin (parse : List Char → Option α × List Char) (hs : IsMargin s) :
    quotedFrom parse s = (none, s) := by
  cases s with
  | nil => rfl
  | cons c s =>
    exact if_neg fun hquote => nomatch (isSpace_quote hquote).symm.trans (hs c List.mem_cons_self)

theorem Trails.quotedFrom (h : Trails e s u) (he : IsMargin e) {parse : List Char → Option α × List Char}
    (hparse : IsParser parse) : (quotedFrom parse u).1 = (quotedFrom parse s).1 ∧
      Trails e (quotedFrom parse s).2 (quotedFrom parse u).2 := by
  rcases h with rfl | ⟨hs, hu⟩
  · cases s with
    | nil =>
      rw [List.nil_append, quotedFrom_margin parse he]
      exact ⟨rfl, .inl rfl⟩
    | cons c s =>
      rw [List.cons_append, Reading.quotedFrom, Reading.quotedFrom, hparse.append s e he]
      split
      · rename_i hquote
        have hc : c.toString.toList.any isSpace = false := by
          rw [Char.toString, String.toList_singleton, List.any_cons, isSpace_quote hquote]
          rfl
        dsimp only
        rw [isPrefixOf_margin hc he]
        split
        · rename_i hclosed
          have hlength := (List.isPrefixOf_iff_prefix.mp hclosed).length_le
          rw [String.length_toList] at hlength
          exact ⟨rfl, .inl (List.drop_append_of_le_length hlength)⟩
        · exact ⟨rfl, .inl rfl⟩
      · exact ⟨rfl, .inl rfl⟩
  · rw [quotedFrom_margin parse hs, quotedFrom_margin parse hu]
    exact ⟨rfl, .inr ⟨hs, hu⟩⟩

theorem Trails.assignedFrom (h : Trails e s u) (he : IsMargin e) (word : String)
    (hword : word.toList.any isSpace = false) (hne : word.toList ≠ [])
    {parse : List Char → Option α × List Char} (hparse : IsParser parse) :
    (assignedFrom word parse u).1 = (assignedFrom word parse s).1 ∧
      Trails e (assignedFrom word parse s).2 (assignedFrom word parse u).2 := by
  have hle : ∀ {w : String} {s : List Char}, w.toList.isPrefixOf s = true → w.length ≤ s.length :=
    fun hbegins => by
    have hlength := (List.isPrefixOf_iff_prefix.mp hbegins).length_le
    rwa [String.length_toList] at hlength
  unfold Reading.assignedFrom
  rw [h.isPrefixOf he hword hne]
  split
  · rename_i hbegins
    have hbehind := (h.drop (hle hbegins)).dropWhile he
    dsimp only
    rw [hbehind.isPrefixOf he (by decide) (by decide)]
    split
    · rename_i hequals
      exact ((hbehind.drop (hle hequals)).dropWhile he).quotedFrom he hparse
    · exact ⟨rfl, hbehind⟩
  · exact ⟨rfl, h⟩

/-- White space behind a declaration does not change the encoding that it names. -/
theorem encodingNameFrom_append (he : IsMargin e) (s : List Char) :
    encodingNameFrom (s ++ e) = encodingNameFrom s := by
  have htrails : Trails e s (s ++ e) := .inl rfl
  have hversion := ((htrails.dropWhile he).assignedFrom he "version" (by decide) (by decide)
    isParser_versionFrom).2
  have hencoding := ((hversion.dropWhile he).assignedFrom he "encoding" (by decide) (by decide)
    isParser_encodingFrom).1
  rw [encodingNameFrom, encodingNameFrom, encodingBehind, encodingBehind,
    hversion.isPrefixOf he (by decide) (by decide), hencoding]

end Reading

theorem map_declaredEncoding? (s : List Char) : (declaredEncoding? s).map Prod.fst =
    if Reading.isDeclared s then (Reading.encodingNameFrom (s.drop 6)).map String.ofList else none := by
  cases hdeclared : Reading.isDeclared s with
  | true =>
    obtain ⟨c, t, rfl, hc⟩ := Reading.exists_of_isDeclared hdeclared
    obtain ⟨ended, t', hhead⟩ := Reading.comes_declarationHead t
    obtain ⟨r', hrun, -⟩ :=
      hhead { Reader.ofSource ⟨t, 0, none, false, none⟩ with damaged := true } ⟨rfl, rfl, rfl⟩
    change (if isSpace c = true then _ else _ : Option (String × Nat)).map Prod.fst = _
    rw [if_pos hc, hrun, if_pos rfl]
    change _ = (Reading.encodingNameFrom t).map String.ofList
    cases Reading.encodingNameFrom t <;> rfl
  | false =>
    unfold declaredEncoding?
    split
    · rename_i c t
      have hc : isSpace c = false := hdeclared
      rw [hc]
      rfl
    · rfl

theorem declaredName?_append (s : List Char) {e : List Char} (he : IsMargin e) :
    declaredName? (encode (s ++ e)) = declaredName? (encode s) := by
  rw [declaredName?, declaredName?, encode_append, latin_append, (encode_margin he).1, map_declaredEncoding?,
    map_declaredEncoding?]
  generalize latin (encode s) = t
  by_cases hcut : t = "<?xml".toList
  · subst hcut
    cases e with
    | nil => rfl
    | cons c e =>
      have hnone : Reading.encodingNameFrom ([] ++ e) = Reading.encodingNameFrom [] :=
        Reading.encodingNameFrom_append (he.of_suffix (List.suffix_cons c e)) []
      split
      · change (Reading.encodingNameFrom ([] ++ e)).map String.ofList = _
        rw [hnone]
        rfl
      · rfl
  · rw [Reading.isDeclared_append he hcut]
    split
    · rename_i hdeclared
      obtain ⟨c, u, rfl, -⟩ := Reading.exists_of_isDeclared hdeclared
      rw [List.drop_append_of_le_length (by simp), Reading.encodingNameFrom_append he]
    · rfl

end Storyboard.Markup
