import Storyboard.Proofs.Number.Rounding
import Storyboard.Proofs.Number.Spelling
/-!
# Reading numbers from texts

A text that spells no numeral leaves the default as it is. A text that spells one is read as the number
nearest to what it says, of any length and with any exponent, unless an information separator stands next
to the numeral: then reading fails, though the separator is blank and the text without its blanks is a
literal of that number.

* `Numeral.IsBare.literal_eq`: a numeral is a literal of its value.
* `readOr_settled`: what is read from every text.
-/
namespace Storyboard.Number.Numeral

open Storyboard.Text
open Binary64 (RoundsTo roundsTo_ofDecimal)

/-! ## Numerals are literals -/

theorem withoutUnderscores?_eq {s : List Char} (h : '_' ∉ s) (behindDigit : Bool) :
    withoutUnderscores? behindDigit s = some s := by
  induction s generalizing behindDigit with
  | nil => rfl
  | cons c rest ih =>
    rw [List.mem_cons, not_or] at h
    rw [withoutUnderscores?, if_neg (Ne.symm h.1), ih h.2, Option.map_some]

/-- The names begin with a letter, and a numeral behind its sign does not. -/
theorem IsBare.named?_eq {n : Numeral} {bare : List Char} (h : n.IsBare bare) : named? bare = none := by
  obtain ⟨sign, decimal, exponent, hsign, hdecimal, -, rfl⟩ := h
  have hsigned := takeSign_of_isSign hsign (decimal ++ exponent)
    (head?_ne_of_isDecimal hdecimal (by decide) (by decide))
    (head?_ne_of_isDecimal hdecimal (by decide) (by decide))
  obtain ⟨c, hhead, hc⟩ := head?_of_isDecimal hdecimal exponent
  have hletter : c.isAlpha = false := by
    rcases hc with hdigit | rfl
    · cases halpha : c.isAlpha with
      | false => rfl
      | true => rw [isDecimalDigit_of_isAlpha halpha] at hdigit; cases hdigit
    · rfl
  have hlower : c.toLower = c :=
    dif_neg fun hupper => Bool.eq_false_iff.mp (Bool.or_eq_false_iff.mp hletter).1 (decide_eq_true hupper)
  have hne : ∀ name : String, (name.toList.head?.any Char.isAlpha) = true →
      String.ofList ((decimal ++ exponent).map Char.toLower) ≠ name := by
    rintro _ hname rfl
    rw [String.toList_ofList, List.head?_map, hhead, Option.map_some, hlower, Option.any_some,
      hletter] at hname
    cases hname
  rw [named?, hsigned]
  dsimp only
  split
  · exact absurd ‹_› (hne "inf" (by decide))
  · exact absurd ‹_› (hne "infinity" (by decide))
  · exact absurd ‹_› (hne "nan" (by decide))
  · rfl

theorem IsBare.trimBy_isWhiteSpace {n : Numeral} {bare : List Char} (h : n.IsBare bare) :
    trimBy isWhiteSpace bare = bare := by
  have hends : ∀ s : List Char, (∀ c ∈ s, c ∈ bare) → s.dropWhile isWhiteSpace = s := by
    intro s hs
    cases s with
    | nil => rfl
    | cons c rest =>
      have hblank := isBlank_of_isNumeralChar (h.isNumeralChar c (hs c List.mem_cons_self))
      rw [List.dropWhile_cons_of_neg]
      simpa using (Bool.or_eq_false_iff.mp hblank).1
  rw [trimBy, hends bare fun _ => id, hends bare.reverse fun _ => List.mem_reverse.mp, List.reverse_reverse]

theorem IsBare.not_isSeparator {n : Numeral} {bare : List Char} (h : n.IsBare bare) :
    bare.any isSeparator = false := by
  rw [List.any_eq_false]
  intro c hc
  simpa using (Bool.or_eq_false_iff.mp (isBlank_of_isNumeralChar (h.isNumeralChar c hc))).2

theorem IsBare.isSpelled {n : Numeral} {bare : List Char} (h : n.IsBare bare) : n.IsSpelled bare :=
  ⟨[], bare, [], rfl, h, rfl, by simp⟩

/-- A numeral is a literal of its value. -/
theorem IsBare.literal_eq {n : Numeral} {bare : List Char} (h : n.IsBare bare) :
    literal (String.ofList bare) = .ok n.value := by
  have hplain : '_' ∉ bare := fun hmem => absurd (h.isNumeralChar _ hmem) (by decide)
  have hread : read (String.ofList bare) = .ok (some n.value) := by
    rw [read, String.toList_ofList, ofChars?_eq_some_iff.mpr h.isSpelled]
    exact if_neg (by rw [h.not_isSeparator]; decide)
  simp only [literal, String.toList_ofList, withoutUnderscores?_eq hplain, h.trimBy_isWhiteSpace,
    h.named?_eq, hread]
  rfl

/-! ## Texts that are read -/

/-- The magnitude that the numeral says, exactly. -/
def magnitude (n : Numeral) : ℚ :=
  digitsValue 0 (n.whole ++ n.fraction) * 10 ^ (n.exponent - n.fraction.length)

theorem roundsTo_value (n : Numeral) : RoundsTo n.negative n.magnitude n.value :=
  roundsTo_ofDecimal _ _ _

theorem read_of_isSpelled {n : Numeral} {text : String} (h : n.IsSpelled text.toList) :
    read text = if text.toList.any isSeparator then .error ⟨text⟩ else .ok (some n.value) := by
  rw [read, ofChars?_eq_some_iff.mpr h]

theorem read_of_not_isSpelled {text : String} (h : ¬∃ n : Numeral, n.IsSpelled text.toList) :
    read text = .ok none := by
  have hnone : ofChars? text.toList = none := by
    cases hread : ofChars? text.toList with
    | none => rfl
    | some n => exact absurd ⟨n, ofChars?_eq_some_iff.mp hread⟩ h
  rw [read, hnone]

/-- **What is read from a text.** The default is kept exactly if the text spells no numeral. A numeral
is read as the number nearest to its magnitude, which is also what the text without its blanks is a literal
of; only an information separator among the blanks makes reading fail. -/
theorem readOr_settled (text : String) :
    ((∀ default, readOr default (some text) = .ok default) ↔ ¬∃ n : Numeral, n.IsSpelled text.toList) ∧
    ∀ n : Numeral, n.IsSpelled text.toList → ∃ x, RoundsTo n.negative n.magnitude x ∧
      literal (String.ofList (trim text.toList)) = .ok x ∧
      ∀ default, readOr default (some text) =
        if text.toList.any isSeparator then .error ⟨text⟩ else .ok (some x) := by
  have hspelled : ∀ n : Numeral, n.IsSpelled text.toList → ∀ default, readOr default (some text) =
      if text.toList.any isSeparator then .error ⟨text⟩ else .ok (some n.value) := by
    intro n hn default
    rw [readOr, read_of_isSpelled hn]
    split <;> rfl
  refine ⟨⟨?_, ?_⟩, ?_⟩
  · rintro hkept ⟨n, hn⟩
    have hnone := (hspelled n hn none).symm.trans (hkept none)
    split at hnone <;> cases hnone
  · intro hnot default
    rw [readOr, read_of_not_isSpelled hnot]
    rfl
  · intro n hn
    obtain ⟨before, bare, after, hbefore, hbare, hafter, htext⟩ := id hn
    refine ⟨n.value, n.roundsTo_value, ?_, hspelled n hn⟩
    rw [htext, hbare.trim_eq hbefore hafter, hbare.literal_eq]

/-- Between an ideographic space and a plain one, the digits of an Arabic script: minus three hundred and
fifty. -/
theorem readOr_settled_arabic : (⟨true, ['٣'], ['٥'], 2⟩ : Numeral).IsSpelled "\u3000-٣.٥e2 ".toList ∧
    ∃ x, RoundsTo true 350 x ∧ literal "-٣.٥e2" = .ok x ∧
      ∀ default, readOr default (some "\u3000-٣.٥e2 ") = .ok (some x) := by
  have hspelled : (⟨true, ['٣'], ['٥'], 2⟩ : Numeral).IsSpelled "\u3000-٣.٥e2 ".toList :=
    ofChars?_eq_some_iff.mp (by decide)
  obtain ⟨x, hround, hliteral, hread⟩ := (readOr_settled "\u3000-٣.٥e2 ").2 _ hspelled
  refine ⟨hspelled, x, ?_, hliteral, hread⟩
  have hmagnitude : magnitude ⟨true, ['٣'], ['٥'], 2⟩ = 350 := by
    have hdigits : digitsValue 0 ['٣', '٥'] = 35 := by decide
    norm_num [magnitude, hdigits]
  exact hmagnitude ▸ hround

/-- The separator is blank and is not passed over. -/
theorem separated_not_read : (∃ n : Numeral, n.IsSpelled "\x1c5".toList) ∧
    readOr none (some "\x1c5") = .error ⟨"\x1c5"⟩ ∧
    literal (String.ofList (trim "\x1c5".toList)) = .ok (.ofInt 5) :=
  ⟨⟨⟨false, ['5'], [], 0⟩, ofChars?_eq_some_iff.mp (by decide)⟩, by decide, by decide⟩

end Storyboard.Number.Numeral
