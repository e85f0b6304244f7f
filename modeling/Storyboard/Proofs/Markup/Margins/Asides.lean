import Storyboard.Proofs.Markup.Margins.Steps
/-!
# Comments and instructions in front of a margin

A comment and an instruction end with marks of their own, so that no white space behind them is ever taken for
a part of them, and where only white space is left there is neither. What has to come to such a mark is
sealed by it.

* `sealed_accept`, `sealed_runUpTo`: marks that have to come.
* `sealed_comment?`, `sealed_instruction?`: what may stand behind a document.
-/
namespace Storyboard.Markup.Reading

variable {α β : Type} {t : Bool} {m : Margin} {n k : Nat} {r : Reader}

/-! ## Marks that have to come -/

theorem isBlocked_accept {w : String} (hw : w.toList.any isSpace = false) (hne : w ≠ "")
    {f : Bool → Reading α} (hf : IsBlocked (f false)) : IsBlocked (accept w >>= f) := by
  intro r hr hrest
  rw [run_bind_ok (run_accept_margin hw hne hrest)]
  exact hf r hr hrest

theorem sealed_accept {w : String} (hw : w.toList.any isSpace = false) (hne : w ≠ "")
    {f g : Bool → Reading α} (htrue : Paired true m n (f true) (g true))
    (hfalse : Sealed m n (f false) (g false)) :
    Sealed m n (accept w >>= f) (accept w >>= g) where
  paired := (paired_accept hw).bind fun b => by
    cases b with
    | true => exact htrue
    | false => exact hfalse.paired
  left := isBlocked_accept hw hne hfalse.left
  right := isBlocked_accept hw hne hfalse.right

/-- A step that may depend on the text in any way. -/
theorem sealed_rest {f g : List Char → Reading α} (h : ∀ s s', Sealed m n (f s) (g s')) :
    Sealed m n (rest >>= f) (rest >>= g) where
  paired := paired_rest fun s e he _ => (h s (s ++ e)).paired s e he
  left r hr hrest := (h r.rest r.rest).left r hr hrest
  right r hr hrest := (h r.rest r.rest).right r hr hrest

theorem sealed_runUpTo {w : String} (hw : w.toList.any isSpace = false) (hne : w ≠ "")
    {f g : Option (List Char) → Reading α} (hsome : ∀ s, Paired true m n (f (some s)) (g (some s)))
    (hnone : Sealed m n (f none) (g none)) : Sealed m n (runUpTo w >>= f) (runUpTo w >>= g) := by
  have hassoc : ∀ f : Option (List Char) → Reading α, runUpTo w >>= f = (do
      let taken ← run w.toList.isPrefixOf
      let ended ← accept w
      f (if ended then some taken else none)) := fun f => by
    simp only [runUpTo, bind_assoc, pure_bind]
  rw [hassoc, hassoc]
  exact (paired_run (isBlind_isPrefixOf hw (by simpa using hne))).bind_sealed fun taken =>
    sealed_accept hw hne (hsome taken) hnone

/-! ## Comments and instructions -/

theorem sealed_commentFrom (fuel fuel' : Nat) (before : List Char) :
    Sealed m n (commentFrom (fuel + 1) before) (commentFrom (fuel' + 1) before) := by
  refine (paired_run (isBlind_isPrefixOf (by decide) (by decide))).bind_sealed fun text => ?_
  refine sealed_rest fun s s' => sealed_accept (by decide) (by decide) (paired_pure _) ?_
  refine sealed_accept (by decide) (by decide) ?_ ?_
  · exact ((fails_report rfl).bind _).paired ((fails_report rfl).bind _)
  · exact ((fails_report (by cases s <;> rfl)).bind _).sealed ((fails_report (by cases s' <;> rfl)).bind _)

theorem sealed_comment? (fuel fuel' : Nat) : Sealed m n (comment? (fuel + 1)) (comment? (fuel' + 1)) :=
  (sealed_commentFrom fuel fuel' []).bind fun _ => paired_pure _

theorem proceeds_comment? (fuel : Nat) (hr : r.IsSettled) : Proceeds r (EStateM.run (comment? fuel) r) := by
  cases fuel with
  | zero => exact .pure hr
  | succ fuel => exact (sealed_comment? (m := .none) (n := 0) fuel fuel).paired.left hr

theorem paired_comment? {fuel fuel' : Nat} (h : IsEnough n fuel fuel') :
    Paired false m n (comment? fuel) (comment? fuel') := by
  cases n with
  | zero => exact paired_zero (fun _ => proceeds_comment? fuel) fun _ => proceeds_comment? fuel'
  | succ n =>
    cases fuel with
    | zero =>
      obtain rfl | ⟨hfuel, -⟩ := h
      · exact (paired_pure _).bind fun _ => paired_pure _
      · cases hfuel
    | succ fuel =>
      cases fuel' with
      | zero =>
        obtain hfuel | ⟨-, hfuel⟩ := h
        · cases hfuel
        · cases hfuel
      | succ fuel' => exact (sealed_comment? fuel fuel').paired.loosen

theorem sealed_instruction? : Sealed m n instruction? instruction? := by
  have hnone : Fails (do report (.badInstruction ""); return (none : Option Node)) :=
    (fails_report rfl).bind _
  have hblocked : IsBlocked instruction? := by
    intro r hr hrest
    rw [instruction?, run_bind_ok (run_name?_margin hr hrest)]
    exact hnone r hr
  refine ⟨?_, hblocked, hblocked⟩
  refine paired_name?.bind fun target? => ?_
  cases target? with
  | none => exact hnone.paired hnone
  | some target =>
    refine (paired_reportAll _).bind fun _ => ?_
    refine Sealed.paired (sealed_accept (by decide) (by decide) (paired_pure _) ?_)
    refine (paired_expectSpaces _).bind_sealed fun _ => ?_
    refine sealed_runUpTo (by decide) (by decide) (fun _ => paired_pure _) ?_
    exact ((fails_report rfl).bind _).sealed ((fails_report rfl).bind _)

end Storyboard.Markup.Reading
