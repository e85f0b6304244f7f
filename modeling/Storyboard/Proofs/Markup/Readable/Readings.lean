import Mathlib
import Storyboard.Proofs.Markup.Readable.Declarations
import Storyboard.Proofs.Markup.Readable.Nodes
/-!
# Readings of readable texts

A reading never takes a character that is neither legal nor a mark, and it learns only from what it takes.
So what it declares stays readable from its start to its end, and what it gives, a name, a run of
characters or an attribute value, is readable as well. There is a lemma for each reading, in the order in
which they are built from each other; where the result matters it is in the lemma.

* `Yields`: from readable declarations to readable declarations, with a result of some kind.
* `yields_iff`: the same in terms of a run.
* `Yields.bind`, `yields_foldlM`, `yields_mapM`: steps one after the other.
* `yields_name?`, `yields_run`, `yields_value?`, `yields_pieceOf`: what is taken from a document.
-/
namespace Storyboard.Markup.Reading

open Std.Do

set_option mvcgen.warning false

variable {α β γ : Type}

/-- From readable declarations the reading comes to readable declarations, and to a result with the
property, unless it fails. -/
abbrev Yields (x : Reading α) (Q : α → Prop) : Prop :=
  ⦃fun r => ⌜r.declarations.IsReadable⌝⦄ x ⦃⇓? a r => ⌜r.declarations.IsReadable ∧ Q a⌝⦄

/-- From readable declarations the reading comes to readable declarations, unless it fails. -/
abbrev Keeps (x : Reading α) : Prop := Yields x fun _ => True

theorem yields_iff {x : Reading α} {Q : α → Prop} : Yields x Q ↔
    ∀ (r : Reader) (a : α) (r' : Reader), r.declarations.IsReadable → EStateM.run x r = .ok a r' →
      r'.declarations.IsReadable ∧ Q a := by
  constructor
  · intro h r a r' hr hrun
    have hpost := h r hr
    simp only [WP.wp, PredTrans.apply] at hpost
    rw [hrun] at hpost
    exact hpost
  · intro h r hr
    simp only [WP.wp, PredTrans.apply]
    cases hrun : EStateM.run x r with
    | ok a r' => exact h r a r' hr hrun
    | error e r' => trivial

theorem Yields.bind {x : Reading α} {P : α → Prop} {f : α → Reading β} {Q : β → Prop}
    (hx : Yields x P) (hf : ∀ a, P a → Yields (f a) Q) : Yields (x >>= f) Q :=
  Triple.bind x f hx fun a r h => hf a h.2 r h.1

theorem yields_pure {a : α} {Q : α → Prop} (h : Q a) : Yields (pure a) Q := by
  mvcgen

theorem yields_none {Q : α → Prop} : Yields (pure none) fun a? => ∀ a, a? = some a → Q a :=
  yields_pure nofun

theorem yields_some {a : α} {Q : α → Prop} (h : Q a) :
    Yields (pure (some a)) fun a? => ∀ a, a? = some a → Q a := by
  refine yields_pure ?_
  rintro a ⟨⟩
  exact h

/-! ## Lists of steps -/

theorem keeps_forM {f : β → Reading PUnit} (hf : ∀ b, Keeps (f b)) (bs : List β) :
    Keeps (bs.forM f) := by
  induction bs with
  | nil => exact yields_pure trivial
  | cons b more ih => exact (hf b).bind fun _ _ => ih

theorem keeps_optionForM {f : β → Reading PUnit} (hf : ∀ b, Keeps (f b)) (b? : Option β) :
    Keeps (b?.forM f) := by
  cases b? with
  | none => exact yields_pure trivial
  | some b => exact hf b

theorem yields_foldlM {f : β → γ → Reading β} {I : β → Prop} {cs : List γ}
    (hf : ∀ b c, c ∈ cs → I b → Yields (f b c) I) {b : β} (hb : I b) : Yields (cs.foldlM f b) I := by
  induction cs generalizing b with
  | nil => exact yields_pure hb
  | cons c more ih =>
    rw [List.foldlM_cons]
    exact (hf b c List.mem_cons_self hb).bind fun b hb =>
      ih (fun b c hc => hf b c (List.mem_cons_of_mem _ hc)) hb

theorem yields_mapM {f : β → Reading γ} {Q : γ → Prop} {bs : List β}
    (hf : ∀ b ∈ bs, Yields (f b) Q) : Yields (bs.mapM f) fun cs => ∀ c ∈ cs, Q c := by
  induction bs with
  | nil => exact yields_pure fun _ h => absurd h List.not_mem_nil
  | cons b more ih =>
    obtain ⟨hfirst, hmore⟩ := List.forall_mem_cons.mp hf
    rw [List.mapM_cons]
    exact hfirst.bind fun c hc => (ih hmore).bind fun cs hcs =>
      yields_pure (List.forall_mem_cons.mpr ⟨hc, hcs⟩)

/-! ## Faults and moving on -/

@[spec] theorem keeps_lookAhead : Keeps lookAhead := by
  mvcgen [lookAhead]

@[spec] theorem keeps_reportDamage : Keeps reportDamage := by
  mvcgen [reportDamage]

@[spec] theorem keeps_isSound : Keeps isSound := by
  mvcgen [isSound]

@[spec] theorem keeps_report (fault : Fault) : Keeps (report fault) := by
  mvcgen [report]

theorem yields_giveUp (fault : Fault) (Q : α → Prop) : Yields (giveUp fault) Q := by
  mvcgen [giveUp]

@[spec] theorem keeps_giveUp (fault : Fault) : Keeps (giveUp (α := α) fault) := yields_giveUp fault _

@[spec] theorem keeps_reportAll (faults : List Fault) : Keeps (reportAll faults) :=
  keeps_forM keeps_report faults

@[spec] theorem keeps_rest : Keeps rest := by
  mvcgen [rest]

@[spec] theorem keeps_moveTo (s : List Char) : Keeps (moveTo s) := by
  mvcgen [moveTo]

@[spec] theorem keeps_next? : Keeps next? := by
  mvcgen [next?]

@[spec] theorem keeps_sees (s : String) : Keeps (sees s) := by
  mvcgen [sees]

@[spec] theorem keeps_skip (n : Nat) : Keeps (skip n) := by
  mvcgen [skip]

@[spec] theorem keeps_skipAny : Keeps skipAny := by
  mvcgen [skipAny] <;> simp_all

@[spec] theorem keeps_accept (s : String) : Keeps (accept s) := by
  mvcgen [accept]
  assumption

@[spec] theorem keeps_skipSpaces : Keeps skipSpaces := by
  mvcgen [skipSpaces]

@[spec] theorem keeps_expectSpaces (fault : Fault) : Keeps (expectSpaces fault) := by
  mvcgen [expectSpaces]
  assumption

@[spec] theorem yields_name? : Yields name? fun name => ∀ s, name = some s → AreReadable s.toList := by
  mvcgen [name?] <;> simp_all [areReadable_nameFrom]

@[spec] theorem keeps_labelledName? : Keeps labelledName? := by
  mvcgen [labelledName?] <;> simp_all

@[spec] theorem yields_run (stop : List Char → Bool) : Yields (run stop) AreReadable := by
  mvcgen [run] <;> simp_all [areReadable_unifyLineEnds, areReadable_runFrom]

@[spec] theorem yields_runUpTo (ending : String) :
    Yields (runUpTo ending) fun taken => ∀ s, taken = some s → AreReadable s := by
  mvcgen [runUpTo] <;> simp_all

@[spec] theorem keeps_charge (size : Nat) : Keeps (charge size) := by
  mvcgen [charge]

theorem yields_within (name : String) (text : List Char) (measured : Bool) {step : Reading α}
    {Q : α → Prop} (h : Yields step Q) : Yields (within name text measured step) fun a => Q a.1 := by
  mvcgen [within, h]

@[spec] theorem keeps_isOpen (name : String) : Keeps (isOpen name) := by
  mvcgen [isOpen]

theorem keeps_opened (f : List String → List String) :
    Keeps (modify fun r : Reader => { r with opened := f r.opened }) := by
  mvcgen

theorem keeps_declaring (declaring : Bool) : Keeps (modify fun r : Reader => { r with declaring }) := by
  mvcgen

theorem keeps_updateDeclarations {f : Declarations → Declarations}
    (hf : ∀ d : Declarations, d.IsReadable → (f d).IsReadable) : Keeps (updateDeclarations f) := by
  mvcgen [updateDeclarations]
  exact hf _ ‹_›

/-! ## Comments, instructions and the XML declaration -/

@[spec] theorem keeps_commentFrom (fuel : Nat) (before : List Char) : Keeps (commentFrom fuel before) := by
  induction fuel generalizing before with
  | zero => mvcgen [commentFrom]
  | succ fuel ih => mvcgen [commentFrom, ih] <;> simp_all

@[spec] theorem yields_comment? (fuel : Nat) :
    Yields (comment? fuel) fun n? => ∀ n, n? = some n → n.IsReadable := by
  have hcomment : ∀ (text? : Option (List Char)) (n : Node),
      text?.map (fun text => Node.comment (String.ofList text)) = some n → n.IsReadable := by
    intro text? n hn
    obtain ⟨text, -, rfl⟩ := Option.map_eq_some_iff.mp hn
    simp [Node.IsReadable]
  exact (keeps_commentFrom fuel []).bind fun text? _ => yields_pure (hcomment text?)

@[spec] theorem yields_instruction? :
    Yields instruction? fun n? => ∀ n, n? = some n → n.IsReadable := by
  mvcgen [instruction?] <;> simp_all [Node.IsReadable]

@[spec] theorem keeps_assigned? (word : String) (parse : List Char → Option α × List Char) :
    Keeps (assigned? word parse) := by
  mvcgen [assigned?] <;> simp_all

@[spec] theorem keeps_declarationHead : Keeps declarationHead := by
  mvcgen [declarationHead] <;> simp_all

@[spec] theorem keeps_declarationEnd : Keeps declarationEnd := by
  mvcgen [declarationEnd] <;> simp_all

@[spec] theorem keeps_xmlDeclaration (unknown : Option String) : Keeps (xmlDeclaration unknown) := by
  mvcgen [xmlDeclaration, keeps_updateDeclarations] <;> simp_all
  all_goals exact fun d hd => ⟨hd.entities, hd.rules⟩

/-! ## Values -/

@[spec] theorem yields_entity? (inValue : Bool) (name : String) :
    Yields (entity? inValue name) fun e? => ∀ e, e? = some e → e.IsReadable := by
  mvcgen [entity?] <;> simp_all
  exact Declarations.IsReadable.of_entity? ‹_› ‹_›

@[spec] theorem keeps_isChecked (e : Entity) : Keeps (isChecked e) := by
  mvcgen [isChecked]

@[spec] theorem keeps_noteChecked (name : String) (size : Nat) : Keeps (noteChecked name size) := by
  mvcgen [noteChecked, keeps_updateDeclarations]
  intro d hd
  refine hd.updateEntity name fun e he => ?_
  split <;> exact ⟨he.text, he.parts⟩

@[spec] theorem keeps_sizeOf (name : String) : Keeps (sizeOf name) := by
  mvcgen [sizeOf]

theorem keeps_holdingOpen (name : String) {step : Reading Unit} (h : Keeps step) :
    Keeps (holdingOpen name step) := by
  mvcgen [holdingOpen, h]

@[spec] theorem keeps_checkInValue (left : Nat) (e : Entity) : Keeps (checkInValue left e) := by
  induction left generalizing e with
  | zero => mvcgen [checkInValue]
  | succ left ih =>
    unfold checkInValue
    refine (keeps_isOpen _).bind fun isOpen _ => ?_
    split
    · exact keeps_report _
    refine (keeps_isChecked _).bind fun isChecked _ => ?_
    split
    · split
      · refine keeps_holdingOpen _ (Yields.bind (P := fun _ => True) ?_ fun size _ => ?_)
        · refine yields_foldlM (fun size name _ _ => ?_) trivial
          mvcgen [ih] <;> simp_all
        · exact (keeps_optionForM keeps_report _).bind fun _ _ => keeps_noteChecked _ _
      · exact keeps_noteChecked _ _
    · exact yields_pure trivial

@[spec] theorem keeps_textsLeft : Keeps textsLeft := by
  mvcgen [textsLeft]

@[spec] theorem yields_referInValue {draft : Draft} (hdraft : draft.IsReadable) {name : String}
    (hname : AreReadable name.toList) : Yields (referInValue draft name) Draft.IsReadable := by
  mvcgen [referInValue] <;> simp_all [hdraft.addReference hname]

@[spec] theorem yields_writeOut (left : Nat) {draft : Draft} (hdraft : draft.IsReadable) {e : Entity}
    (he : e.IsReadable) : Yields (writeOut left draft e) Draft.IsReadable := by
  induction left generalizing draft e with
  | zero =>
    mvcgen [writeOut]
    exact ⟨‹_›, hdraft⟩
  | succ left ih =>
    unfold writeOut
    refine (keeps_isOpen _).bind fun isOpen _ => ?_
    split
    · exact (keeps_report _).bind fun _ _ => yields_pure hdraft
    split
    · rename_i text hbody
      refine (keeps_charge _).bind fun _ _ => ?_
      refine (keeps_opened _).bind fun _ _ => ?_
      refine Yields.bind (P := Draft.IsReadable) ?_ fun draft hdraft => ?_
      · refine yields_foldlM (fun draft part hpart hdraft => ?_) hdraft
        have hreadable := isReadable_partsOf (he.text _ hbody) part hpart
        split
        · refine yields_pure (List.foldlRecOn _ _ hdraft fun draft hdraft c hc => ?_)
          split
          · exact hdraft.addSpace
          · exact hdraft.add (by simpa using hreadable c hc)
        · refine (yields_entity? _ _).bind fun inner? hinner => ?_
          split
          · exact yields_pure hdraft
          · exact ih hdraft (hinner _ rfl)
      · exact (keeps_optionForM keeps_report _).bind fun _ _ =>
          (keeps_opened _).bind fun _ _ => yields_pure hdraft
    · exact yields_pure hdraft

/-- A reference in a value adds to it what is readable, whichever kind it is of. -/
theorem yields_referenceInValue (writing : Bool) {draft : Draft} (hdraft : draft.IsReadable) :
    Yields (referenceInValue writing draft) fun draft? => ∀ d, draft? = some d → d.IsReadable := by
  unfold referenceInValue
  refine keeps_rest.bind fun s _ => ?_
  split
  rename_i referent rest hreferent
  refine (keeps_moveTo rest).bind fun _ _ => ?_
  have hreadable : ∀ r, referent = .ok r → r.IsReadable := fun r hr =>
    isReadable_referenceFrom (by rw [hreferent, hr])
  split
  · refine (keeps_report _).bind fun _ _ => ?_
    split
    · exact yields_none
    · exact yields_some hdraft
  · exact (keeps_report _).bind fun _ _ => yields_none
  · exact yields_some (hdraft.addNumbered (hreadable _ rfl))
  · split
    · rename_i c hc
      exact yields_some (hdraft.add (by simpa using isReadable_predefined hc))
    · split
      · refine (yields_entity? _ _).bind fun e? he => ?_
        split
        · exact yields_some hdraft
        · exact keeps_textsLeft.bind fun left _ =>
            (yields_writeOut left hdraft (he _ rfl)).bind fun written hwritten => yields_some hwritten
      · exact (yields_referInValue hdraft (hreadable _ rfl)).bind fun d hd => yields_some hd

theorem yields_valueParts (quote : Char) (writing : Bool) (fuel : Nat) {draft : Draft}
    (hdraft : draft.IsReadable) : Yields (valueParts quote writing fuel draft) fun parts? =>
      ∀ parts, parts? = some parts → ∀ p ∈ parts, p.IsReadable := by
  induction fuel generalizing draft with
  | zero => exact yields_none
  | succ fuel ih =>
    unfold valueParts
    refine keeps_rest.bind fun s _ => ?_
    split
    · exact (keeps_report _).bind fun _ _ => yields_none
    rename_i c rest
    split
    · exact (keeps_moveTo _).bind fun _ _ => yields_some hdraft.finish
    split
    · refine (keeps_moveTo _).bind fun _ _ => (yields_referenceInValue writing hdraft).bind fun d? hd => ?_
      split
      · exact yields_none
      · exact ih (hd _ rfl)
    split
    · exact (keeps_moveTo _).bind fun _ _ => ih hdraft.addSpace
    split
    · rename_i hmark
      have hc : AreReadable [c] := by simp [isReadable, hmark]
      exact keeps_reportDamage.bind fun _ _ => (keeps_moveTo _).bind fun _ _ => ih (hdraft.add hc)
    split
    · rename_i hplain
      have hreadable : ∀ c, isPlainInValue quote c = true → isReadable c = true := by
        intro c hc
        simp only [isPlainInValue, Bool.and_eq_true] at hc
        exact isReadable_of_isLegal hc.1.1.1.1
      exact (keeps_moveTo _).bind fun _ _ => ih (hdraft.add
        (areReadable_cons.mpr ⟨hreadable c hplain, areReadable_takeWhile hreadable rest⟩))
    · exact (keeps_report _).bind fun _ _ => yields_none

@[spec] theorem yields_value? (words writing : Bool) : Yields (value? words writing) fun parts? =>
    ∀ parts, parts? = some parts → ∀ p ∈ parts, p.IsReadable := by
  unfold value?
  refine keeps_rest.bind fun s _ => ?_
  split
  · split
    · exact (keeps_moveTo _).bind fun _ _ => yields_valueParts _ _ _ (Draft.isReadable_empty words)
    · exact (keeps_report _).bind fun _ _ => yields_none
  · exact (keeps_report _).bind fun _ _ => yields_none

/-- A piece of an attribute has a readable text, and so has what a reference in it stands for. -/
theorem yields_pieceOf {part : Part} (h : part.IsReadable) :
    Yields (pieceOf part) fun piece => AreReadable piece.value.toList := by
  unfold pieceOf
  split
  · exact yields_pure (by simpa [Piece.value, Part.IsReadable] using h)
  · rename_i name
    refine Yields.bind (P := fun _ => True) (by mvcgen) fun r _ => ?_
    refine (keeps_updateDeclarations fun d hd =>
      Declarations.isReadable_settle _ hd name).bind fun _ _ => ?_
    mvcgen
    exact ⟨‹_›, Declarations.areReadable_expansion ‹_› _ _⟩

end Storyboard.Markup.Reading
