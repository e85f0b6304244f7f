import Storyboard.Markup.Content
import Storyboard.Proofs.Markup.Margins.Tags
/-!
# Content in front of a margin

The content of the outermost element ends with its end tag, and in front of that everything is read as if the
margin were not there. The texts of entities have none.

* `paired_contentFrom`: nodes one after the other.
* `paired_rootContent`: the content of the outermost element.
-/
namespace Storyboard.Markup.Reading

variable {α β : Type} {t : Bool} {m : Margin} {n k : Nat} {r : Reader}

/-! ## Text -/

/-- Does text end here? -/
def endsText (s : List Char) : Bool :=
  "<".toList.isPrefixOf s || "&".toList.isPrefixOf s || "]]>".toList.isPrefixOf s

theorem IsBlind.or {stop stop' : List Char → Bool} (h : IsBlind stop) (h' : IsBlind stop') :
    IsBlind fun s => stop s || stop' s :=
  ⟨fun s e hs he => by simp only [h.1 s e hs he, h'.1 s e hs he],
    fun c e he => by simp only [h.2 c e he, h'.2 c e he, Bool.or_self]⟩

theorem isBlind_endsText : IsBlind endsText :=
  ((isBlind_isPrefixOf (by decide) (by decide)).or (isBlind_isPrefixOf (by decide) (by decide))).or
    (isBlind_isPrefixOf (by decide) (by decide))

/-- What is done behind a run of text. -/
def behindText (g : Growth) (s : List Char) : Reading Growth := do
  match (← rest).head? with
  | some c =>
    if c = ']' then
      report .closingBracketsInText
      skip 1
    else if c != '<' && c != '&' then
      report (.illegalCharacter c)
      skip 1
  | none => pure ()
  return if s.isEmpty then g else g.pushText (String.ofList s)

theorem text_eq (g : Growth) : text g = run endsText >>= behindText g := by
  unfold text
  congr
  · funext s
    split
    · rfl
    · rfl
    · rfl
    · rename_i hmarkup hreference hbrackets
      refine (Bool.eq_false_iff.mpr fun h => ?_).symm
      simp only [endsText, Bool.or_eq_true, List.isPrefixOf_iff_prefix] at h
      rcases h with (⟨u, rfl⟩ | ⟨u, rfl⟩) | ⟨u, rfl⟩
      · exact hmarkup u rfl
      · exact hreference u rfl
      · exact hbrackets u rfl
  · funext s
    unfold behindText
    congr
    funext u
    cases u with
    | nil => rfl
    | cons c u =>
      by_cases hc : c = ']'
      · subst hc
        rfl
      · simp [hc]

theorem paired_behindText (g : Growth) (s : List Char) :
    Steady false m n (behindText g s) := by
  refine paired_rest fun u e he hlive => ?_
  rw [head?_append (hlive rfl)]
  refine .of_paired ?_ he
  have hfails : ∀ {fault : Fault} (f : Unit → Reading Growth), fault.gravity = .fatal →
      Steady false m n (report fault >>= f) := fun f h =>
    ((fails_report h).bind f).paired ((fails_report h).bind f)
  cases u.head? with
  | none => exact paired_pure _
  | some c =>
    exact .ite (fun _ => hfails _ rfl) fun _ => .ite (fun _ => hfails _ rfl) fun _ => paired_pure _

/-- Where text begins, at least one character is text. -/
theorem shorter_behindText {g a : Growth} {c : Char} {s : List Char} {r' : Reader} (hr : r.IsSettled)
    (hrest : r.rest = c :: s) (hmarkup : c ≠ '<') (hreference : c ≠ '&')
    (hrun : EStateM.run (text g) r = .ok a r') : r'.rest.length ≤ s.length := by
  rw [text_eq, run_bind_ok (run_run _ hr), hrest, runFrom] at hrun
  split at hrun
  · obtain ⟨r'', hfails⟩ : ∃ r'', EStateM.run (behindText g []) (r.moved (c :: s)) = .error () r'' := by
      rw [behindText, run_bind_ok (run_rest _)]
      by_cases hc : c = ']'
      · subst hc
        exact (fails_report rfl).bind _ _ (hr.moved _)
      · simp only [Reader.rest_moved, List.head?_cons, if_neg hc]
        rw [if_pos (by simp [hmarkup, hreference])]
        exact (fails_report rfl).bind _ _ (hr.moved _)
    cases hfails.symm.trans hrun
  · have hsuffix := ((paired_behindText (m := .none) (n := 0) _ _).left (hr.moved _) a r' hrun).2.1
    exact (hsuffix.trans (suffix_of_runFrom _ _ _)).length_le

theorem paired_text (g : Growth) : Steady false m n (text g) := by
  rw [text_eq]
  exact (paired_run isBlind_endsText).bind (paired_behindText g)

theorem paired_section? (g : Growth) : Steady false m n (section? g) := by
  refine (paired_runUpTo (by decide) (by decide)).bind fun s? => ?_
  cases s? with
  | none => exact (paired_report _).bind fun _ => paired_pure _
  | some s => exact paired_pure _

/-! ## Elements -/

theorem paired_element (hm : m.metered = true) {fuel fuel' : Nat} (hfuel : IsEnough n fuel fuel')
    (around : Nat) (g : Growth) : Paired false m n (element fuel around g) (element fuel' around g) := by
  refine .guard (fun _ => (fails_giveUp rfl).paired (fails_giveUp rfl)) ?_
  refine ((sealed_startTag? hm hfuel _).mono (Nat.le_succ n)).paired.loosen.bind fun o? => ?_
  cases o? with
  | none => exact paired_pure _
  | some o => exact paired_pure _

theorem paired_elementEnd (g : Growth) : Steady false m n (elementEnd g) := by
  unfold elementEnd
  split
  · exact paired_pure _
  · exact (sealed_endTag _).paired.loosen.bind fun _ => paired_pure _

/-! ## Entities -/

theorem paired_noteContent (name : String) (nodes : List Node) (expanded : Nat) :
    Steady t m n (noteContent name nodes expanded) :=
  paired_get_known (fun _ _ _ => rfl) fun _ => paired_updateDeclarations _

theorem paired_enterEntity {content : Reading (List Node)} (hcontent : ∀ n, Steady false m.inside n content)
    (e : Entity) : Steady t m n (enterEntity content e) := by
  unfold enterEntity
  split
  · refine (paired_isOpen _).bind fun _ => .guard (fun _ => (fails_giveUp rfl).paired (fails_giveUp rfl)) ?_
    exact (paired_within _ _ _ hcontent).bind fun _ => paired_noteContent _ _ _
  · exact paired_pure _

theorem paired_reference (hm : m.metered = true) {content : Reading (List Node)}
    (hcontent : ∀ n, Steady false m.inside n content) (g : Growth) :
    Steady t m n (reference content g) := by
  refine paired_rest fun s e he _ => ?_
  dsimp only
  rw [referenceFrom_margin he]
  refine pairedOn_moveTo he (suffix_of_referenceFrom s)
    (fun hn => Nat.lt_of_le_of_lt (suffix_of_referenceFrom s).length_le hn) ?_
  dsimp only
  split
  · exact (paired_report _).bind fun _ => paired_pure _
  · exact paired_pure _
  · split
    · exact paired_pure _
    · refine (paired_entity? _ _).bind fun e? => ?_
      cases e? with
      | none => exact paired_pure _
      | some e =>
        refine paired_isSound.bind fun _ => .ite (fun _ => ?_) fun _ => paired_pure _
        exact (paired_enterEntity hcontent e).bind fun _ => (paired_sizeOf _).bind fun _ =>
          (paired_charge hm _).bind fun _ => paired_pure _

/-! ## Content -/

/-- What one step of reading content does, by the character that comes next. -/
theorem contentFrom_succ (enter : Nat → Reading (List Node)) (around fuel : Nat) (g : Growth) :
    contentFrom enter around (fuel + 1) g = (do
      match ← rest with
      | [] => return g
      | c :: s =>
        if c = '&' then
          moveTo s
          contentFrom enter around fuel (← reference (enter (around + g.outer.length)) g)
        else if c = '<' then
          if ← accept "<?" then contentFrom enter around fuel (g.pushAll (← instruction?))
          else if ← accept "<![CDATA[" then contentFrom enter around fuel (← section? g)
          else if ← accept "<!--" then contentFrom enter around fuel (g.pushAll (← comment? fuel))
          else if s.head? = some '/' then
            if g.outer.isEmpty then return g
            skip 2
            contentFrom enter around fuel (← elementEnd g)
          else
            skip 1
            contentFrom enter around fuel (← element fuel around g)
        else contentFrom enter around fuel (← text g)) := by
  rw [contentFrom]
  congr
  funext x
  cases x with
  | nil => rfl
  | cons c s =>
    by_cases hreference : c = '&'
    · subst hreference
      rfl
    · by_cases hmarkup : c = '<'
      · subst hmarkup
        rfl
      · simp [hreference, hmarkup]

theorem paired_contentFrom (hm : m.metered = true) {enter : Nat → Reading (List Node)}
    (henter : ∀ around n, Steady false m.inside n (enter around)) (around : Nat)
    {fuel fuel' : Nat} (hfuel : IsEnough n fuel fuel') (g : Growth) :
    Paired false m n (contentFrom enter around fuel g) (contentFrom enter around fuel' g) := by
  refine paired_loop (fun _ _ => paired_pure _) (fun n fuel fuel' hfuel ih g => ?_) hfuel g
  rw [contentFrom_succ, contentFrom_succ]
  refine paired_rest fun s e he hlive => ?_
  cases s with
  | nil =>
    rw [hlive rfl .nil]
    exact .of_paired (paired_pure _) .nil
  | cons c s =>
    rw [List.cons_append]
    refine .ite (fun _ => ?_) fun hreference => .ite (fun hc => ?_) fun hmarkup => ?_
    · exact pairedOn_moveTo_behind he List.suffix_rfl ((paired_reference hm (henter _) g).bind ih)
    · refine pairedOn_accept (s := c :: s) (by decide) (by decide) he
        (sealed_instruction?.paired.loosen.bind fun _ => ih _) ?_
      refine pairedOn_accept (s := c :: s) (by decide) (by decide) he ((paired_section? g).bind ih) ?_
      refine pairedOn_accept (s := c :: s) (by decide) (by decide) he
        ((paired_comment? hfuel).bind fun _ => ih _) ?_
      refine .ite (fun h => nomatch h) fun _ => ?_
      by_cases hs : s.head? = some '/'
      · obtain ⟨u, rfl⟩ := List.head?_eq_some_iff.mp hs
        refine .ite (fun _ => .ite (fun _ => .of_paired (paired_pure _) he) fun _ => ?_) fun hno =>
          absurd hs hno
        exact pairedOn_skip (s := c :: '/' :: u) (k := n) he (by simp) (by simp; omega)
          ((paired_elementEnd g).bind ih)
      · have hs' : (s ++ e).head? ≠ some '/' := mt (head?_append_iff (by decide) he).mp hs
        rw [if_neg hs, if_neg hs']
        exact pairedOn_skip (s := c :: s) (k := n) he (by simp) (by simp)
          ((paired_element hm hfuel around g).bind ih)
    · exact (PairedOn.of_paired (s := c :: s) (paired_text g) he).bind (fun r a r' hr hrest hrun hn =>
        Nat.lt_of_le_of_lt (shorter_behindText hr.settled hrest hmarkup hreference hrun)
          (Nat.lt_of_succ_lt_succ hn)) ih

theorem paired_contentOf (hm : m.metered = true) {enter : Nat → Reading (List Node)}
    (henter : ∀ around n, Steady false m.inside n (enter around)) (around : Nat) (scope : Scope) :
    Steady false m n (contentOf enter around scope) := by
  refine paired_rest fun s e he _ => ?_
  refine .of_length ((paired_contentFrom hm henter around (.length (by simp)) _).bind fun g => ?_) he
  exact paired_isSound.bind fun _ => .guard (fun _ => paired_report _) (paired_pure _)

theorem paired_entityContent (hm : m.metered = true) (left around : Nat) :
    Steady false m n (entityContent left around) := by
  induction left generalizing m n around with
  | zero => exact (fails_giveUp rfl).paired (fails_giveUp rfl)
  | succ left ih =>
    refine .guard (fun _ => (fails_giveUp rfl).paired (fails_giveUp rfl)) ?_
    refine (paired_contentOf hm (fun around _ => ih (m := m.inside) hm around) _ _).bind fun nodes => ?_
    refine paired_get_known (fun _ _ _ => rfl) fun r => paired_rest fun s e he hlive => ?_
    rw [isEmpty_append (hlive rfl)]
    exact Paired.guard (fun _ => paired_report _) (paired_pure _) _ _ he

theorem paired_rootContent (hm : m.metered = true) (scope : Scope) :
    Steady false m n (rootContent scope) :=
  paired_contentOf hm (fun around _ => paired_entityContent (m := m.inside) hm _ around) 1 scope

end Storyboard.Markup.Reading
