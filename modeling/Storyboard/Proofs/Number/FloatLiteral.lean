import Storyboard.Number.Shortest
import Storyboard.Proofs.Number.Finite
/-!
# Written numbers as floating-point literals

A floating-point literal is a minus sign or none, decimal digits, and a fraction, an exponent or both. The
shortest decimal of a finite number is laid out as one at every magnitude: there is a digit on either side
of the point, and without a point there is an exponent. An infinite or undefined number is written as a
word, which is no literal.

* `IsFloatLiteral`: the grammar.
* `isFloatLiteral_text_iff`: exactly the finite numbers are written as literals.
-/
namespace Storyboard.Number

/-! ## The grammar -/

/-- One or more decimal digits. -/
def IsDigits (s : List Char) : Prop := s ≠ [] ∧ ∀ c ∈ s, c.isDigit = true

/-- A point with digits behind it, or nothing. -/
inductive IsLiteralFraction : List Char → Prop where
  | none : IsLiteralFraction []
  | point {digits : List Char} : IsDigits digits → IsLiteralFraction ('.' :: digits)

/-- A mark, a sign or none, and digits; or nothing. -/
inductive IsLiteralExponent : List Char → Prop where
  | none : IsLiteralExponent []
  | marked {mark : Char} {sign digits : List Char} : mark = 'e' ∨ mark = 'E' →
      sign = [] ∨ sign = ['+'] ∨ sign = ['-'] → IsDigits digits →
      IsLiteralExponent (mark :: (sign ++ digits))

/-- A floating-point literal behind its sign: digits, and a fraction or an exponent. -/
def IsUnsignedLiteral (s : List Char) : Prop :=
  ∃ whole fraction exponent, IsDigits whole ∧ IsLiteralFraction fraction ∧ IsLiteralExponent exponent ∧
    (fraction ≠ [] ∨ exponent ≠ []) ∧ s = whole ++ (fraction ++ exponent)

def IsFloatLiteral (s : List Char) : Prop :=
  ∃ sign unsigned, (sign = [] ∨ sign = ['-']) ∧ IsUnsignedLiteral unsigned ∧ s = sign ++ unsigned

/-! ## Digits -/

theorem isDigits_digitsOf (n : Nat) : IsDigits (digitsOf n) :=
  ⟨Nat.toDigits_ne_nil, fun _ hc => Nat.isDigit_of_mem_toDigits (by decide) (by decide) hc⟩

theorem isDigit_zeros (n : Nat) : ∀ c ∈ zeros n, c.isDigit = true := fun _ hc =>
  List.eq_of_mem_replicate hc ▸ rfl

theorem IsDigits.append {s t : List Char} (h : IsDigits s) (ht : ∀ c ∈ t, c.isDigit = true) :
    IsDigits (s ++ t) :=
  ⟨by simp [h.1], List.forall_mem_append.mpr ⟨h.2, ht⟩⟩

theorem IsDigits.prepend {s t : List Char} (h : IsDigits t) (hs : ∀ c ∈ s, c.isDigit = true) :
    IsDigits (s ++ t) :=
  ⟨by simp [h.1], List.forall_mem_append.mpr ⟨hs, h.2⟩⟩

theorem isLiteralExponent_exponentText (e : Int) : IsLiteralExponent (exponentText e) := by
  have hdigits := (isDigits_digitsOf e.natAbs).prepend (isDigit_zeros (2 - (digitsOf e.natAbs).length))
  have hsign : [if e < 0 then '-' else '+'] = [] ∨ [if e < 0 then '-' else '+'] = ['+'] ∨
      [if e < 0 then '-' else '+'] = ['-'] := by
    split <;> simp
  exact .marked (.inl rfl) hsign hdigits

/-! ## Decimals -/

theorem isDigits_zero : IsDigits ['0'] := ⟨List.cons_ne_nil _ _, List.forall_mem_singleton.mpr rfl⟩

theorem isUnsignedLiteral_point {whole fraction : List Char} (hwhole : IsDigits whole)
    (hfraction : IsDigits fraction) : IsUnsignedLiteral (whole ++ '.' :: fraction) :=
  ⟨whole, '.' :: fraction, [], hwhole, .point hfraction, .none, .inl (List.cons_ne_nil _ _), by simp⟩

/-- In the first layout an exponent follows; in the others there are digits on both sides of the point. -/
theorem isUnsignedLiteral_layout (d : Decimal) : IsUnsignedLiteral (layout d) := by
  have hds := isDigits_digitsOf d.digits
  simp only [layout]
  generalize digitsOf d.digits = ds at hds ⊢
  have hpos : 0 < ds.length := List.length_pos_iff.mpr hds.1
  split
  · have hexponent := isLiteralExponent_exponentText (d.exponent + ds.length - 1)
    have hmarked : ∀ e, exponentText e ≠ [] := fun e => List.cons_ne_nil _ _
    split
    · exact ⟨_, [], _, hds, .none, hexponent, .inr (hmarked _), rfl⟩
    · rename_i one rest hrest _
      obtain ⟨hone, hmore⟩ := List.forall_mem_cons.mp hds.2
      refine ⟨[one], '.' :: rest, _, ⟨List.cons_ne_nil _ _, by simpa using hone⟩,
        .point ⟨hrest, hmore⟩, hexponent, .inr (hmarked _), rfl⟩
    · exact absurd rfl hds.1
  · split
    · exact isUnsignedLiteral_point (hds.append (isDigit_zeros _)) isDigits_zero
    · rename_i hexponent
      split
      · refine isUnsignedLiteral_point ⟨?_, fun c hc => hds.2 c (List.mem_of_mem_take hc)⟩
          ⟨?_, fun c hc => hds.2 c (List.mem_of_mem_drop hc)⟩
        · exact List.length_pos_iff.mp (by rw [List.length_take]; omega)
        · exact List.length_pos_iff.mp (by rw [List.length_drop]; omega)
      · exact isUnsignedLiteral_point isDigits_zero (hds.prepend (isDigit_zeros _))

/-! ## Numbers -/

/-- No literal holds a letter but the mark of its exponent. -/
theorem IsFloatLiteral.letterless {s : List Char} (h : IsFloatLiteral s) : 'n' ∉ s := by
  have hdigits : ∀ {ds : List Char}, IsDigits ds → 'n' ∉ ds := fun hds hmem =>
    absurd (hds.2 _ hmem) (by decide)
  obtain ⟨sign, unsigned, hsign, ⟨whole, fraction, exponent, hwhole, hfraction, hexponent, -, rfl⟩, rfl⟩ := h
  have hfraction : 'n' ∉ fraction := by
    cases hfraction with
    | none => simp
    | point hds => simpa using hdigits hds
  have hexponent : 'n' ∉ exponent := by
    cases hexponent with
    | none => simp
    | marked hmark hsign hds =>
      rcases hmark with rfl | rfl <;> rcases hsign with rfl | rfl | rfl <;> simpa using hdigits hds
  rcases hsign with rfl | rfl <;> simp [hdigits hwhole, hfraction, hexponent]

/-- **Exactly the finite numbers are written as floating-point literals.** -/
theorem isFloatLiteral_text_iff {x : Binary64} : IsFloatLiteral x.text.toList ↔ x.isFinite = true := by
  cases x with
  | undefined => exact ⟨fun h => absurd (by decide) h.letterless, fun h => by cases h⟩
  | infinite negative =>
    refine ⟨fun h => absurd ?_ h.letterless, fun h => by cases h⟩
    cases negative <;> decide
  | finite negative m q =>
    refine ⟨fun _ => rfl, fun _ => ?_⟩
    have hbody : IsUnsignedLiteral (if m = 0 then ['0', '.', '0'] else layout (shortest m q)) := by
      split
      · exact isUnsignedLiteral_point isDigits_zero isDigits_zero
      · exact isUnsignedLiteral_layout _
    rw [Binary64.text, String.toList_ofList]
    cases negative with
    | false => exact ⟨[], _, .inl rfl, hbody, rfl⟩
    | true => exact ⟨['-'], _, .inr rfl, hbody, rfl⟩

end Storyboard.Number
