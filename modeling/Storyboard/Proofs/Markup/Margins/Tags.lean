import Storyboard.Markup.StartTag
import Storyboard.Proofs.Markup.Margins.Values
/-!
# Tags in front of a margin

A tag ends with its angle bracket. What is resolved of it once it was read does not look at the text any more.

* `paired_assignmentsFrom`: the attributes of a tag.
* `paired_resolveTag`: what its names stand for.
* `sealed_startTag?`, `sealed_endTag`: tags.
-/
namespace Storyboard.Markup.Reading

variable {α β : Type} {t : Bool} {m : Margin} {n k : Nat} {r : Reader}

/-! ## Attributes -/

theorem paired_declareSpace (tag : RawTag) (label : Option String) (uri : String) :
    Steady t m n (declareSpace tag label uri) := by
  refine (paired_reportAll _).bind fun _ => .ite (fun _ => paired_pure _) fun _ => ?_
  exact .ite (fun _ => (paired_report _).bind fun _ => paired_pure _) fun _ => paired_pure _

theorem paired_addAssignment (tag : RawTag) (name : LabelledName) (parts : List Part) :
    Steady t m n (addAssignment tag name parts) := by
  unfold addAssignment
  cases name.declares? with
  | some label =>
    have hspace := @paired_declareSpace t m n tag label (textOf parts)
    exact .ite (fun _ => .guard (fun _ => paired_report _) hspace) fun _ => hspace
  | none => exact .ite (fun _ => .guard (fun _ => paired_report _) (paired_pure _)) fun _ => paired_pure _

theorem paired_assignedValue? (hm : m.metered = true) (tag : RawTag) (name : LabelledName) :
    Steady false m n (assignedValue? tag name) := by
  refine paired_skipSpaces.bind fun _ => (paired_accept (by decide)).bind fun _ =>
    .ite (fun _ => ?_) fun _ => ?_
  · exact paired_skipSpaces.bind fun _ => paired_get_known (fun _ _ _ => rfl) fun _ => paired_value? hm _ _
  · exact (paired_report _).bind fun _ => paired_pure _

/-- Does a text begin with the end of a tag? -/
def beginsTagEnd (s : List Char) : Bool := ">".toList.isPrefixOf s || "/>".toList.isPrefixOf s

theorem seesTagEnd_eq : seesTagEnd = (do let s ← rest; return beginsTagEnd s) := by
  unfold seesTagEnd
  congr
  funext s
  split
  · rfl
  · rfl
  · rename_i hclosed hended
    have hno : beginsTagEnd s = false := by
      refine Bool.eq_false_iff.mpr fun h => ?_
      rcases Bool.or_eq_true_iff.mp h with h | h
      · obtain ⟨u, rfl⟩ := List.isPrefixOf_iff_prefix.mp h
        exact hclosed u rfl
      · obtain ⟨u, rfl⟩ := List.isPrefixOf_iff_prefix.mp h
        exact hended u rfl
    rw [hno]

theorem paired_seesTagEnd : Steady t m n seesTagEnd := by
  rw [seesTagEnd_eq]
  refine paired_rest fun s e he _ => ?_
  rw [beginsTagEnd, beginsTagEnd, isPrefixOf_margin (by decide) he, isPrefixOf_margin (by decide) he]
  exact paired_pure _ s e he

theorem paired_assignmentsFrom (hm : m.metered = true) {fuel fuel' : Nat} (hfuel : IsEnough n fuel fuel')
    (tag : RawTag) : Paired false m n (assignmentsFrom fuel tag) (assignmentsFrom fuel' tag) := by
  refine paired_loop (fun _ _ => paired_pure _) (fun n fuel fuel' _ ih tag => ?_) hfuel tag
  have hmore : ∀ tag : RawTag, Paired false m n
      (do
        if ← seesTagEnd then return tag
        if ← expectSpaces (.badTag tag.name.written) then assignmentsFrom fuel tag else return tag)
      (do
        if ← seesTagEnd then return tag
        if ← expectSpaces (.badTag tag.name.written) then assignmentsFrom fuel' tag else return tag) :=
      fun tag =>
    paired_seesTagEnd.bind fun _ => .ite (fun _ => paired_pure _) fun _ =>
      (paired_expectSpaces _).bind fun _ => .ite (fun _ => ih tag) fun _ => paired_pure _
  refine paired_seesTagEnd.bind fun ended => paired_rest fun s e he hlive => ?_
  rw [isEmpty_append (hlive rfl)]
  refine .ite (fun _ => paired_pure _ s e he) fun _ => ?_
  refine Paired.bind_shorter paired_labelledName? shortens_labelledName? (fun name? hname => ?_)
    (fun name? hname => ?_) s e he
  · obtain ⟨name, rfl⟩ := Option.isSome_iff_exists.mp hname
    refine (paired_assignedValue? hm tag name).bind fun parts? => ?_
    cases parts? with
    | none => exact hmore tag
    | some parts => exact (paired_addAssignment tag name parts).bind hmore
  · cases name? with
    | none => exact (paired_report _).bind fun _ => paired_pure _
    | some name => exact absurd rfl hname

/-! ## What names stand for -/

theorem paired_addDefaultSpaces (hm : m.metered = true) (tag : RawTag) (rules : List AttributeRule) :
    Steady t m n (addDefaultSpaces tag rules) := by
  induction rules generalizing tag with
  | nil => exact paired_pure _
  | cons rule more ih =>
    unfold addDefaultSpaces
    split
    · exact (paired_charge hm _).bind fun _ => .ite (fun _ => ih _) fun _ => ih _
    · exact ih _

theorem paired_checkDefaults (hm : m.metered = true) (scope : Scope) (seen : List Resolved)
    (rules : List AttributeRule) : Steady t m n (checkDefaults scope seen rules) := by
  induction rules generalizing seen with
  | nil => exact paired_pure _
  | cons rule more ih =>
    unfold checkDefaults
    refine .ite (fun _ => ih _) fun _ => (paired_reportAll _).bind fun _ => ?_
    split
    · exact (paired_charge hm _).bind fun _ => ih _
    · exact .guard (fun _ => paired_report _) (ih _)

theorem paired_addIdentifier (value : String) : Steady t m n (addIdentifier value) := by
  refine paired_get_known (fun _ _ _ => rfl) fun r => .ite (fun _ => paired_report _) fun _ => ?_
  exact paired_modify (fun _ h => ⟨h.damaged, h.cutOff, h.sound, h.depth⟩) (fun _ => rfl) (fun _ => rfl)
    fun _ => rfl

theorem paired_noteIdentifier (element : String) (a : Attribute) :
    Steady t m n (noteIdentifier element a) := by
  refine paired_get_known (fun _ _ _ => rfl) fun r => .ite (fun _ => ?_) fun _ => paired_pure _
  refine .ite (fun _ => .guard (fun _ => paired_report _) (paired_addIdentifier _)) fun _ => ?_
  exact .ite (fun _ => paired_addIdentifier _) fun _ => paired_pure _

theorem paired_pieceOf (part : Part) : Steady t m n (pieceOf part) := by
  cases part with
  | characters s => exact paired_pure _
  | entity name =>
    exact paired_get_known (fun _ _ _ => rfl) fun _ => (paired_updateDeclarations _).bind fun _ =>
      paired_get_known (fun _ _ _ => rfl) fun _ => paired_pure _

theorem paired_resolveTag (hm : m.metered = true) (scope : Scope) (tag : RawTag) :
    Steady t m n (resolveTag scope tag) := by
  refine paired_get_known (fun _ _ _ => rfl) fun r => (paired_addDefaultSpaces hm _ _).bind fun tag => ?_
  refine (paired_reportAll _).bind fun _ => (paired_reportAll _).bind fun _ =>
    (paired_checkDefaults hm _ _ _).bind fun _ => (paired_reportAll _).bind fun _ => ?_
  refine (paired_mapM (fun (r, a) => (paired_mapM paired_pieceOf _).bind fun _ => paired_pure _) _).bind
    fun attributes => paired_isSound.bind fun _ => paired_get_known (fun _ _ _ => rfl) fun _ => ?_
  exact .guard (fun _ => paired_forM (paired_noteIdentifier _) _)
    (paired_get_known (fun _ _ _ => rfl) fun _ => paired_pure _)

/-! ## Tags -/

theorem isBlocked_labelledName? {f : Option LabelledName → Reading α} (hf : Fails (f none)) :
    IsBlocked (labelledName? >>= f) := by
  intro r hr hrest
  have hname : nameFrom r.rest = ([], r.rest) := nameFrom_margin hrest []
  have hrun : EStateM.run labelledName? r = .ok none r := by
    rw [run_labelledName? hr, hname]
    rfl
  rw [run_bind_ok hrun]
  exact hf r hr

theorem sealed_startTag? (hm : m.metered = true) {fuel fuel' : Nat} (hfuel : IsEnough n fuel fuel')
    (scope : Scope) : Sealed m (n + 1) (startTag? fuel scope) (startTag? fuel' scope) := by
  have hnone : Fails (do report (.badName "a tag"); return (none : Option Opening)) :=
    (fails_report rfl).bind _
  refine ⟨?_, isBlocked_labelledName? hnone, isBlocked_labelledName? hnone⟩
  refine Paired.bind_shorter paired_labelledName? shortens_labelledName? (fun name? hname => ?_)
    fun name? hname => ?_
  · obtain ⟨name, rfl⟩ := Option.isSome_iff_exists.mp hname
    refine Sealed.paired (paired_skipSpaces.bind_sealed fun _ => ?_)
    refine (paired_assignmentsFrom hm hfuel _).bind_sealed fun raw =>
      (paired_resolveTag hm scope raw).bind_sealed fun (tag, scope) => ?_
    refine sealed_accept (by decide) (by decide) (paired_pure _) ?_
    refine sealed_accept (by decide) (by decide) (paired_pure _) ?_
    exact ((fails_report rfl).bind _).sealed ((fails_report rfl).bind _)
  · cases name? with
    | none => exact hnone.paired hnone
    | some name => exact absurd rfl hname

theorem sealed_endTag (written : String) : Sealed m n (endTag written) (endTag written) := by
  refine paired_name?.bind_sealed fun name => paired_skipSpaces.bind_sealed fun _ => ?_
  refine sealed_accept (by decide) (by decide) ?_
    (((fails_report rfl).bind _).sealed ((fails_report rfl).bind _))
  exact .ite (fun h => nomatch h) fun _ => .ite (fun _ => paired_report _) fun _ => paired_pure _

end Storyboard.Markup.Reading
