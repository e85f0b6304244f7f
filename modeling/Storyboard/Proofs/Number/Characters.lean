import Storyboard.Number.Shortest
/-!
# The characters of written numbers

Numbers are written with digits, a point, signs and the mark of an exponent, or as one of two words. What
none of these characters is does not stand in the text of a number.

* `isWritten_text`: numbers of any kind.
* `isWritten_toString_nat`, `isWritten_toString_int`: integers.
-/
namespace Storyboard.Number

/-- Can the character stand in the text of a number? -/
def isNumberChar (c : Char) : Bool :=
  c.isDigit || ['.', '-', '+', 'e', 'i', 'n', 'f', 'a'].contains c

/-- All characters can stand in the text of a number. -/
def IsWritten (s : List Char) : Prop := ∀ c ∈ s, isNumberChar c = true

instance : DecidablePred IsWritten := fun s =>
  List.decidableBAll (fun c => isNumberChar c = true) s

theorem isWritten_append {s t : List Char} : IsWritten (s ++ t) ↔ IsWritten s ∧ IsWritten t :=
  List.forall_mem_append

theorem isWritten_cons {c : Char} {s : List Char} :
    IsWritten (c :: s) ↔ isNumberChar c = true ∧ IsWritten s := List.forall_mem_cons

theorem IsWritten.sublist {s t : List Char} (h : IsWritten t) (hs : s.Sublist t) : IsWritten s :=
  fun c hc => h c (hs.subset hc)

/-! ## Decimals -/

theorem isWritten_digitsOf (n : Nat) : IsWritten (digitsOf n) := by
  intro c hc
  have hdigit : c.isDigit = true := Nat.isDigit_of_mem_toDigits (by decide) (by decide) hc
  rw [isNumberChar, hdigit, Bool.true_or]

theorem isWritten_zeros (n : Nat) : IsWritten (zeros n) := fun _ hc =>
  List.eq_of_mem_replicate hc ▸ rfl

theorem isWritten_exponentText (e : Int) : IsWritten (exponentText e) := by
  have hdigits := isWritten_append.mpr
    ⟨isWritten_zeros (2 - (digitsOf e.natAbs).length), isWritten_digitsOf e.natAbs⟩
  refine isWritten_cons.mpr ⟨rfl, isWritten_cons.mpr ⟨?_, hdigits⟩⟩
  split <;> rfl

theorem isWritten_layout (d : Decimal) : IsWritten (layout d) := by
  have hds := isWritten_digitsOf d.digits
  simp only [layout]
  split
  · -- the leading digit, and the exponent behind it
    split
    · rename_i one hone
      rw [hone] at hds
      exact isWritten_append.mpr ⟨hds, isWritten_exponentText _⟩
    · rename_i one rest _ hone
      rw [hone] at hds
      obtain ⟨hfirst, hrest⟩ := isWritten_cons.mp hds
      exact isWritten_cons.mpr ⟨hfirst, isWritten_cons.mpr
        ⟨rfl, isWritten_append.mpr ⟨hrest, isWritten_exponentText _⟩⟩⟩
    · exact fun c hc => absurd hc List.not_mem_nil
  · split
    · exact isWritten_append.mpr ⟨isWritten_append.mpr ⟨hds, isWritten_zeros _⟩, by decide⟩
    · split
      · have hwhole := fun n => hds.sublist (List.take_sublist n _)
        have hfraction := fun n => hds.sublist (List.drop_sublist n _)
        exact isWritten_append.mpr ⟨hwhole _, isWritten_cons.mpr ⟨rfl, hfraction _⟩⟩
      · exact isWritten_cons.mpr ⟨rfl, isWritten_cons.mpr
          ⟨rfl, isWritten_append.mpr ⟨isWritten_zeros _, hds⟩⟩⟩

/-! ## Numbers -/

theorem isWritten_text (x : Binary64) : IsWritten x.text.toList := by
  cases x with
  | undefined => decide
  | infinite negative => cases negative <;> decide
  | finite negative m q =>
    have hbody : IsWritten (if m = 0 then ['0', '.', '0'] else layout (shortest m q)) := by
      split
      · decide
      · exact isWritten_layout _
    rw [Binary64.text, String.toList_ofList]
    cases negative with
    | false => exact hbody
    | true => exact isWritten_cons.mpr ⟨rfl, hbody⟩

theorem isWritten_toString_nat (n : Nat) : IsWritten (toString n).toList := by
  rw [Nat.toString_eq_ofList_toDigits, String.toList_ofList]
  exact isWritten_digitsOf n

theorem isWritten_toString_int (n : Int) : IsWritten (toString n).toList := by
  cases n with
  | ofNat n => exact isWritten_toString_nat n
  | negSucc n =>
    have htext : toString (Int.negSucc n) = "-" ++ toString (n + 1) := rfl
    rw [htext, String.toList_append]
    exact isWritten_append.mpr ⟨by decide, isWritten_toString_nat _⟩

end Storyboard.Number
