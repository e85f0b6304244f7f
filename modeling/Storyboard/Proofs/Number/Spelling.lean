import Storyboard.Number.Numeral
/-!
# How numerals are spelled

A numeral stands between blanks: a sign or none, digits with an optional fraction or a fraction alone, and
an optional exponent. The digits are of any script. Reading takes as much as it can at each step, and this
finds every numeral: what may come behind a part can never go on with it, since no character of a numeral
is blank and none of its marks is a digit.

* `Numeral.IsSpelled`: the texts that spell a numeral.
* `ofChars?_eq_some_iff`: these are the texts that are read as one.
* `Numeral.IsSpelled.cut`: the blanks around the numeral are what trimming takes off.
-/
namespace Storyboard.Number

open Storyboard.Text

/-! ## Parts of a numeral -/

/-- Decimal digits of any script, perhaps none. -/
def AreDigits (s : List Char) : Prop := ∀ c ∈ s, isDecimalDigit c = true

inductive IsSign : Bool → List Char → Prop where
  | none : IsSign false []
  | plus : IsSign false ['+']
  | minus : IsSign true ['-']

/-- Digits with an optional fraction, or a fraction alone: the digits before the point, those behind it,
and how they are spelled. -/
inductive IsDecimal : List Char → List Char → List Char → Prop where
  | whole {whole : List Char} : whole ≠ [] → AreDigits whole → IsDecimal whole [] whole
  | point {whole fraction : List Char} : whole ≠ [] → AreDigits whole → AreDigits fraction →
      IsDecimal whole fraction (whole ++ '.' :: fraction)
  | fraction {fraction : List Char} : fraction ≠ [] → AreDigits fraction →
      IsDecimal [] fraction ('.' :: fraction)

inductive IsExponent : Int → List Char → Prop where
  | none : IsExponent 0 []
  | marked {mark : Char} {negative : Bool} {sign digits : List Char} : mark = 'e' ∨ mark = 'E' →
      IsSign negative sign → digits ≠ [] → AreDigits digits →
      IsExponent (if negative then -(digitsValue 0 digits : Int) else digitsValue 0 digits)
        (mark :: (sign ++ digits))

/-- The numeral without blanks around it. -/
def Numeral.IsBare (n : Numeral) (s : List Char) : Prop :=
  ∃ sign decimal exponent, IsSign n.negative sign ∧ IsDecimal n.whole n.fraction decimal ∧
    IsExponent n.exponent exponent ∧ s = sign ++ (decimal ++ exponent)

/-- The text spells the numeral, between blanks. -/
def Numeral.IsSpelled (n : Numeral) (s : List Char) : Prop :=
  ∃ before bare after, isBlankText before = true ∧ n.IsBare bare ∧ isBlankText after = true ∧
    s = before ++ (bare ++ after)

/-! ## The characters of numerals -/

/-- A digit, a sign, a point, or the mark of an exponent. -/
def isNumeralChar (c : Char) : Bool := isDecimalDigit c || ['+', '-', '.', 'e', 'E'].contains c

theorem isDecimalDigit_eq_false {c : Char} (h : ∀ z ∈ digitZeros, c.toNat < z ∨ z + 10 ≤ c.toNat) :
    isDecimalDigit c = false := by
  rw [isDecimalDigit, digitValue?, Option.isSome_map, Option.isSome_eq_false_iff,
    Option.isNone_iff_eq_none, List.find?_eq_none]
  intro z hz
  have := h z hz
  simp only [Bool.and_eq_true, decide_eq_true_eq]
  omega

theorem isDecimalDigit_of_isBlank {c : Char} (h : isBlank c = true) : isDecimalDigit c = false := by
  simp only [isBlank, isWhiteSpace, inRanges, whiteSpaceRanges, isSeparator, List.any_cons, List.any_nil,
    Bool.or_false, Bool.or_eq_true, Bool.and_eq_true, decide_eq_true_eq] at h
  apply isDecimalDigit_eq_false
  simp only [digitZeros, List.forall_mem_cons, List.not_mem_nil, false_implies, implies_true, and_true]
  omega

theorem isDecimalDigit_of_isAlpha {c : Char} (h : c.isAlpha = true) : isDecimalDigit c = false := by
  have hletter : ('A'.val ≤ c.val ∧ c.val ≤ 'Z'.val) ∨ ('a'.val ≤ c.val ∧ c.val ≤ 'z'.val) :=
    (Bool.or_eq_true_iff.mp h).imp of_decide_eq_true fun hlower =>
      (Bool.and_eq_true_iff.mp hlower).imp of_decide_eq_true of_decide_eq_true
  simp only [UInt32.le_iff_toNat_le] at hletter
  change (65 ≤ c.toNat ∧ c.toNat ≤ 90) ∨ (97 ≤ c.toNat ∧ c.toNat ≤ 122) at hletter
  apply isDecimalDigit_eq_false
  simp only [digitZeros, List.forall_mem_cons, List.not_mem_nil, false_implies, implies_true, and_true]
  omega

theorem isBlank_of_isNumeralChar {c : Char} (h : isNumeralChar c = true) : isBlank c = false := by
  rcases Bool.or_eq_true _ _ ▸ h with hdigit | hmark
  · cases hblank : isBlank c with
    | false => rfl
    | true => rw [isDecimalDigit_of_isBlank hblank] at hdigit; cases hdigit
  · have hmarks : ['+', '-', '.', 'e', 'E'].any isBlank = false := by decide
    exact Bool.eq_false_iff.mpr (List.any_eq_false.mp hmarks c (by simpa using hmark))

/-- A digit is none of the marks of a numeral. -/
theorem ne_of_isDecimalDigit {c m : Char} (h : isDecimalDigit c = true)
    (hm : isDecimalDigit m = false := by decide) : c ≠ m := by
  rintro rfl
  rw [h] at hm
  cases hm

/-- What comes behind a part of a numeral does not begin with such a character. -/
def BeginsNot (p : Char → Bool) (s : List Char) : Prop := ∀ c ∈ s.head?, p c = false

theorem AreDigits.isNumeralChar {s : List Char} (h : AreDigits s) : ∀ c ∈ s, isNumeralChar c = true :=
  fun c hc => by rw [Number.isNumeralChar, h c hc, Bool.true_or]

theorem IsSign.isNumeralChar {negative : Bool} {s : List Char} (h : IsSign negative s) :
    ∀ c ∈ s, isNumeralChar c = true := by
  cases h with
  | none => exact List.forall_mem_nil _
  | plus | minus => exact List.forall_mem_singleton.mpr (by decide)

theorem IsDecimal.isNumeralChar {whole fraction s : List Char} (h : IsDecimal whole fraction s) :
    ∀ c ∈ s, isNumeralChar c = true := by
  have hpoint : Number.isNumeralChar '.' = true := by decide
  cases h with
  | whole _ hwhole => exact hwhole.isNumeralChar
  | point _ hwhole hfraction =>
    exact List.forall_mem_append.mpr ⟨hwhole.isNumeralChar,
      List.forall_mem_cons.mpr ⟨hpoint, hfraction.isNumeralChar⟩⟩
  | fraction _ hfraction => exact List.forall_mem_cons.mpr ⟨hpoint, hfraction.isNumeralChar⟩

theorem IsExponent.isNumeralChar {e : Int} {s : List Char} (h : IsExponent e s) :
    ∀ c ∈ s, isNumeralChar c = true := by
  cases h with
  | none => simp
  | marked hmark hsign _ hdigits =>
    refine List.forall_mem_cons.mpr ⟨?_, List.forall_mem_append.mpr
      ⟨hsign.isNumeralChar, hdigits.isNumeralChar⟩⟩
    rcases hmark with rfl | rfl <;> decide

theorem Numeral.IsBare.isNumeralChar {n : Numeral} {s : List Char} (h : n.IsBare s) :
    ∀ c ∈ s, isNumeralChar c = true := by
  obtain ⟨_, _, _, hsign, hdecimal, hexponent, rfl⟩ := h
  exact List.forall_mem_append.mpr ⟨hsign.isNumeralChar, List.forall_mem_append.mpr
    ⟨hdecimal.isNumeralChar, hexponent.isNumeralChar⟩⟩

theorem IsDecimal.ne_nil {whole fraction s : List Char} (h : IsDecimal whole fraction s) : s ≠ [] := by
  cases h with
  | whole hne => exact hne
  | point => simp
  | fraction => simp

theorem Numeral.IsBare.ne_nil {n : Numeral} {s : List Char} (h : n.IsBare s) : s ≠ [] := by
  obtain ⟨_, _, _, -, hdecimal, -, rfl⟩ := h
  simp [hdecimal.ne_nil]

/-- What is behind the digits is the mark of an exponent, or no character of a numeral. -/
theorem IsExponent.beginsNot {e : Int} {exponent rest : List Char} (h : IsExponent e exponent)
    (hrest : BeginsNot Number.isNumeralChar rest) :
    BeginsNot (fun c => isDecimalDigit c || c == '.') (exponent ++ rest) := by
  cases h with
  | none =>
    intro c hc
    have hnot := hrest c hc
    simp only [Number.isNumeralChar, Bool.or_eq_false_iff] at hnot
    refine Bool.or_eq_false_iff.mpr ⟨hnot.1, ?_⟩
    have := hnot.2
    simp_all
  | marked hmark =>
    rintro c ⟨⟩
    rcases hmark with rfl | rfl <;> decide

/-! ## What is read is spelled -/

namespace Numeral

theorem takeSign_spelled (s : List Char) : ∃ sign, IsSign (takeSign s).1 sign ∧ s = sign ++ (takeSign s).2 := by
  unfold takeSign
  split
  · exact ⟨['-'], .minus, rfl⟩
  · exact ⟨['+'], .plus, rfl⟩
  · exact ⟨[], .none, rfl⟩

theorem areDigits_takeDigits (s : List Char) : AreDigits (takeDigits s).1 := fun _ hc =>
  (List.all_eq_true.mp (List.all_takeWhile (l := s) (p := isDecimalDigit))) _ hc

theorem takeDigits_append (s : List Char) : (takeDigits s).1 ++ (takeDigits s).2 = s :=
  List.takeWhile_append_dropWhile

theorem takeExponent_spelled (s : List Char) :
    ∃ exponent, IsExponent (takeExponent s).1 exponent ∧ s = exponent ++ (takeExponent s).2 := by
  cases s with
  | nil => exact ⟨[], .none, rfl⟩
  | cons c rest =>
    simp only [takeExponent]
    split
    · rename_i hmark
      obtain ⟨sign, hsign, hrest⟩ := takeSign_spelled rest
      have hdigits := areDigits_takeDigits (takeSign rest).2
      have hsplit := takeDigits_append (takeSign rest).2
      cases htaken : takeDigits (takeSign rest).2 with
      | mk ds tail =>
        rw [htaken] at hdigits hsplit
        cases ds with
        | nil => exact ⟨[], .none, rfl⟩
        | cons d ds =>
          refine ⟨_, .marked hmark hsign (List.cons_ne_nil d ds) hdigits, ?_⟩
          rw [List.cons_append, List.append_assoc, hsplit, ← hrest]
    · exact ⟨[], .none, rfl⟩

theorem takeFraction_spelled {whole : List Char} (hwhole : AreDigits whole) (s : List Char)
    (hne : (whole.isEmpty && (takeFraction s).1.isEmpty) = false) :
    ∃ decimal, IsDecimal whole (takeFraction s).1 decimal ∧
      whole ++ s = decimal ++ (takeFraction s).2 := by
  unfold takeFraction at hne ⊢
  split at hne
  · rename_i rest
    have hfraction := areDigits_takeDigits rest
    have hrest := takeDigits_append rest
    cases whole with
    | nil =>
      refine ⟨_, .fraction (by simpa using hne) hfraction, ?_⟩
      rw [List.nil_append, List.cons_append, hrest]
    | cons c whole =>
      refine ⟨_, .point (List.cons_ne_nil c whole) hwhole hfraction, ?_⟩
      simp only [List.append_assoc, List.cons_append, hrest]
  · simp only [List.isEmpty_nil, Bool.and_true, List.isEmpty_eq_false_iff] at hne
    exact ⟨whole, .whole hne hwhole, rfl⟩

theorem isBare_takeFrom {s rest : List Char} {n : Numeral} (h : takeFrom s = some (n, rest)) :
    ∃ bare, n.IsBare bare ∧ s = bare ++ rest := by
  simp only [takeFrom] at h
  split at h
  · cases h
  · rename_i hne
    obtain ⟨sign, hsign, hs⟩ := takeSign_spelled s
    have hdigits := areDigits_takeDigits (takeSign s).2
    obtain ⟨decimal, hdecimal, ht⟩ := takeFraction_spelled hdigits _ (Bool.not_eq_true _ ▸ hne)
    obtain ⟨exponent, hexponent, hu⟩ := takeExponent_spelled (takeFraction (takeDigits (takeSign s).2).2).2
    cases h
    refine ⟨_, ⟨sign, decimal, exponent, hsign, hdecimal, hexponent, rfl⟩, ?_⟩
    calc s = sign ++ (takeSign s).2 := hs
      _ = sign ++ (decimal ++ (takeFraction (takeDigits (takeSign s).2).2).2) := by
        rw [← ht, takeDigits_append]
      _ = _ := by
        rw [List.append_assoc, List.append_assoc, ← hu]

/-! ## What is spelled is read -/

theorem takeSign_of_isSign {negative : Bool} {sign : List Char} (h : IsSign negative sign) (rest : List Char)
    (hplus : rest.head? ≠ some '+') (hminus : rest.head? ≠ some '-') :
    takeSign (sign ++ rest) = (negative, rest) := by
  cases h with
  | plus | minus => rfl
  | none =>
    rw [List.nil_append]
    unfold takeSign
    split
    · exact (hminus rfl).elim
    · exact (hplus rfl).elim
    · rfl

theorem takeDigits_of_areDigits {ds rest : List Char} (h : AreDigits ds)
    (hrest : BeginsNot isDecimalDigit rest) : takeDigits (ds ++ rest) = (ds, rest) := by
  unfold takeDigits
  rw [List.takeWhile_append_of_pos h, List.dropWhile_append_of_pos h]
  cases rest with
  | nil => simp
  | cons c rest => simp [hrest c rfl]

theorem takeExponent_of_isExponent {e : Int} {exponent rest : List Char} (h : IsExponent e exponent)
    (hrest : BeginsNot isNumeralChar rest) : takeExponent (exponent ++ rest) = (e, rest) := by
  have hdigit : BeginsNot isDecimalDigit rest := fun c hc => by
    have := hrest c hc
    simp only [isNumeralChar, Bool.or_eq_false_iff] at this
    exact this.1
  cases h with
  | none =>
    cases rest with
    | nil => rfl
    | cons c rest =>
      have hmark : ¬(c = 'e' ∨ c = 'E') := by
        have hc := hrest c rfl
        rintro (rfl | rfl) <;> exact absurd hc (by decide)
      simp [takeExponent, hmark]
  | @marked mark negative sign digits hmark hsign hne hdigits =>
    obtain ⟨d, ds, rfl⟩ := List.exists_cons_of_ne_nil hne
    have hd := hdigits d List.mem_cons_self
    have hsigned := takeSign_of_isSign hsign (d :: (ds ++ rest))
      (by simpa using ne_of_isDecimalDigit hd) (by simpa using ne_of_isDecimalDigit hd)
    have htaken := takeDigits_of_areDigits hdigits hdigit
    simp only [List.cons_append, List.append_assoc] at htaken ⊢
    simp only [takeExponent, if_pos hmark, hsigned, htaken]

/-- A decimal begins with a digit or with the point. -/
theorem head?_of_isDecimal {whole fraction decimal : List Char} (h : IsDecimal whole fraction decimal)
    (rest : List Char) : ∃ c, (decimal ++ rest).head? = some c ∧ (isDecimalDigit c = true ∨ c = '.') := by
  cases h with
  | whole hne hwhole =>
    obtain ⟨c, more, rfl⟩ := List.exists_cons_of_ne_nil hne
    exact ⟨c, rfl, .inl (hwhole c List.mem_cons_self)⟩
  | point hne hwhole =>
    obtain ⟨c, more, rfl⟩ := List.exists_cons_of_ne_nil hne
    exact ⟨c, rfl, .inl (hwhole c List.mem_cons_self)⟩
  | fraction => exact ⟨'.', rfl, .inr rfl⟩

theorem head?_ne_of_isDecimal {whole fraction decimal rest : List Char} {m : Char}
    (h : IsDecimal whole fraction decimal) (hdigit : isDecimalDigit m = false) (hpoint : m ≠ '.') :
    (decimal ++ rest).head? ≠ some m := by
  obtain ⟨c, hhead, hc | rfl⟩ := head?_of_isDecimal h rest
  · rw [hhead]
    exact fun heq => ne_of_isDecimalDigit hc hdigit (Option.some.inj heq)
  · rw [hhead]
    exact fun heq => hpoint (Option.some.inj heq).symm

theorem takeFrom_of_isBare {n : Numeral} {bare rest : List Char} (h : n.IsBare bare)
    (hrest : BeginsNot isNumeralChar rest) : takeFrom (bare ++ rest) = some (n, rest) := by
  obtain ⟨sign, decimal, exponent, hsign, hdecimal, hexponent, rfl⟩ := h
  have hexp := takeExponent_of_isExponent hexponent hrest
  have hsigned := takeSign_of_isSign hsign (decimal ++ (exponent ++ rest))
    (head?_ne_of_isDecimal hdecimal (by decide) (by decide))
    (head?_ne_of_isDecimal hdecimal (by decide) (by decide))
  have hbehind := hexponent.beginsNot hrest
  have hdigit : BeginsNot isDecimalDigit (exponent ++ rest) := fun c hc =>
    (Bool.or_eq_false_iff.mp (hbehind c hc)).1
  have hnofraction : takeFraction (exponent ++ rest) = ([], exponent ++ rest) := by
    unfold takeFraction
    split
    · rename_i heq
      exact absurd (hbehind '.' (by rw [heq]; rfl)) (by decide)
    · rfl
  obtain ⟨negative, whole, fraction, e⟩ := n
  simp only [List.append_assoc, takeFrom, hsigned]
  dsimp only at hdecimal hexp
  cases hdecimal with
  | whole hne hwhole =>
    have htaken := takeDigits_of_areDigits hwhole hdigit
    simp [htaken, hnofraction, hexp, hne]
  | point hne hwhole hfraction =>
    have htaken : takeDigits (whole ++ '.' :: (fraction ++ (exponent ++ rest))) = _ :=
      takeDigits_of_areDigits hwhole (by rintro c ⟨⟩; decide)
    have hmore := takeDigits_of_areDigits hfraction hdigit
    simp [htaken, takeFraction, hmore, hexp, hne]
  | fraction hne hfraction =>
    have htaken : takeDigits ([] ++ '.' :: (fraction ++ (exponent ++ rest))) = _ :=
      takeDigits_of_areDigits (by simp [AreDigits]) (by rintro c ⟨⟩; decide)
    have hmore := takeDigits_of_areDigits hfraction hdigit
    rw [List.nil_append] at htaken
    simp [htaken, takeFraction, hmore, hexp, hne]

end Numeral

/-! ## Blanks around a numeral -/

/-- A numeral begins and ends with what is not blank. -/
theorem Numeral.IsBare.dropWhile_isBlank {n : Numeral} {bare : List Char} (h : n.IsBare bare)
    (rest : List Char) : (bare ++ rest).dropWhile isBlank = bare ++ rest := by
  obtain ⟨c, more, rfl⟩ := List.exists_cons_of_ne_nil h.ne_nil
  have hc := isBlank_of_isNumeralChar (h.isNumeralChar c List.mem_cons_self)
  simp [hc]

theorem Numeral.IsBare.trim_eq {n : Numeral} {before bare after : List Char} (h : n.IsBare bare)
    (hbefore : isBlankText before = true) (hafter : isBlankText after = true) :
    trim (before ++ (bare ++ after)) = bare := by
  have hends : bare.reverse.dropWhile isBlank = bare.reverse := by
    obtain ⟨c, more, hc⟩ := List.exists_cons_of_ne_nil (List.reverse_ne_nil_iff.mpr h.ne_nil)
    have hmem : c ∈ bare := List.mem_reverse.mp (hc ▸ List.mem_cons_self)
    rw [hc]
    simp [isBlank_of_isNumeralChar (h.isNumeralChar c hmem)]
  rw [isBlankText, List.all_eq_true] at hbefore hafter
  rw [trim, trimBy, List.dropWhile_append_of_pos hbefore, h.dropWhile_isBlank, List.reverse_append,
    List.dropWhile_append_of_pos (by simpa using hafter), hends, List.reverse_reverse]

/-- **The texts that are read as a numeral are those that spell it.** -/
theorem ofChars?_eq_some_iff {s : List Char} {n : Numeral} :
    Numeral.ofChars? s = some n ↔ n.IsSpelled s := by
  constructor
  · intro h
    unfold Numeral.ofChars? at h
    split at h
    · rename_i numeral rest htaken
      split at h
      · rename_i hblank
        cases h
        obtain ⟨bare, hbare, hs⟩ := Numeral.isBare_takeFrom htaken
        refine ⟨s.takeWhile isBlank, bare, rest, List.all_takeWhile, hbare, hblank, ?_⟩
        rw [← hs, List.takeWhile_append_dropWhile]
      · cases h
    · cases h
  · rintro ⟨before, bare, after, hbefore, hbare, hafter, rfl⟩
    have hrest : BeginsNot isNumeralChar after := by
      intro c hc
      have hblank := List.all_eq_true.mp hafter c (List.mem_of_mem_head? hc)
      cases hnumeral : isNumeralChar c with
      | false => rfl
      | true => rw [isBlank_of_isNumeralChar hnumeral] at hblank; cases hblank
    rw [isBlankText, List.all_eq_true] at hbefore
    unfold Numeral.ofChars?
    rw [List.dropWhile_append_of_pos hbefore, hbare.dropWhile_isBlank,
      Numeral.takeFrom_of_isBare hbare hrest]
    simp [hafter]

end Storyboard.Number
