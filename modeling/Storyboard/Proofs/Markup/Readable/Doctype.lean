import Mathlib
import Storyboard.Proofs.Markup.Readable.Readings
/-!
# Reading the document type

The text of an entity and the default value of an attribute are all that a document type leaves behind of
its characters; both are readable. The content models, notations and names beside them pass by.

* `yields_entityBody?`, `yields_defaultValue?`: what is left behind.
* `keeps_declareRule`, `keeps_entityDeclaration`: the two declarations that add to what is known.
* `keeps_documentType`: the whole.
-/
namespace Storyboard.Markup.Reading

open Std.Do

set_option mvcgen.warning false

/-! ## Literals and locations -/

@[spec] theorem keeps_endDeclaration (keyword : String) : Keeps (endDeclaration keyword) := by
  mvcgen [endDeclaration]
  simp_all

@[spec] theorem keeps_quote? : Keeps quote? := by
  mvcgen [quote?]
  simp_all

theorem keeps_literal? {run : Char → Reading (List Char)} (h : ∀ c, Keeps (run c)) :
    Keeps (literal? run) := by
  mvcgen [literal?, h] <;> simp_all

@[spec] theorem keeps_systemLiteral? : Keeps systemLiteral? := by
  refine keeps_literal? fun quote => ?_
  mvcgen
  simp_all

@[spec] theorem keeps_publicLiteral? : Keeps publicLiteral? := by
  refine keeps_literal? fun quote => ?_
  mvcgen

@[spec] theorem keeps_location (mayStandAlone : Bool) : Keeps (location mayStandAlone) := by
  mvcgen [location] <;> simp_all

/-! ## Entities -/

@[spec] theorem keeps_reportUndeclared (name : String) : Keeps (reportUndeclared name) := by
  mvcgen [reportUndeclared]

@[spec] theorem yields_parameterName? : Keeps parameterName? := by
  mvcgen [parameterName?, keeps_updateDeclarations] <;> simp_all
  all_goals exact fun d hd => ⟨hd.entities, hd.rules⟩

theorem yields_entityText (fuel : Nat) {acc : List Char} (hacc : AreReadable acc) :
    Yields (entityText fuel acc) AreReadable := by
  induction fuel generalizing acc with
  | zero => exact yields_pure (areReadable_reverse.mpr hacc)
  | succ fuel ih =>
    unfold entityText
    have hdone : Yields (pure acc.reverse) AreReadable := yields_pure (areReadable_reverse.mpr hacc)
    refine keeps_rest.bind fun s _ => ?_
    split
    · exact hdone
    · split
      rename_i referent rest hreferent
      have hreadable : ∀ r, referent = .ok r → r.IsReadable := fun r hr =>
        isReadable_referenceFrom (by rw [hreferent, hr])
      refine (keeps_moveTo _).bind fun _ _ => ?_
      split
      · exact (keeps_report _).bind fun _ _ => hdone
      · exact ih (areReadable_cons.mpr ⟨hreadable _ rfl, hacc⟩)
      · rename_i name
        have hname : AreReadable name.toList := hreadable _ rfl
        have hends : AreReadable "&".toList ∧ AreReadable ";".toList := by decide
        refine ih (areReadable_append.mpr ⟨areReadable_reverse.mpr ?_, hacc⟩)
        simp only [String.toList_append, areReadable_append]
        exact ⟨⟨hends.1, hname⟩, hends.2⟩
    · mvcgen <;> simp_all
    · rename_i c rest _ _
      refine (keeps_moveTo _).bind fun _ _ => ?_
      split
      · rename_i hmark
        exact keeps_reportDamage.bind fun _ _ =>
          ih (areReadable_cons.mpr ⟨by simp [isReadable, hmark], hacc⟩)
      split
      · rename_i hlegal
        exact ih (areReadable_cons.mpr ⟨isReadable_of_isLegal hlegal, hacc⟩)
      · exact (keeps_report _).bind fun _ _ => hdone

@[spec] theorem yields_entityLiteral? (quote : Char) :
    Yields (entityLiteral? quote) fun text => ∀ s, text = some s → AreReadable s := by
  mvcgen [entityLiteral?, yields_entityText]
  all_goals try simp_all

theorem keeps_declareEntity {e : Entity} (h : e.IsReadable) : Keeps (declareEntity e) := by
  mvcgen [declareEntity, keeps_updateDeclarations] <;> try assumption
  exact fun _ _ d hd => hd.addEntity h

@[spec] theorem yields_entityBody? (isParameter : Bool) : Yields (entityBody? isParameter) fun body =>
    ∀ b, body = some b → ∀ s, b = .internal s → AreReadable s := by
  mvcgen [entityBody?] <;> simp_all

@[spec] theorem keeps_entityDeclaration : Keeps entityDeclaration := by
  mvcgen [entityDeclaration, keeps_updateDeclarations, keeps_declareEntity] <;> simp_all
  all_goals first
    | exact fun d hd => hd.addParameter _
    | exact isReadable_ofBody _ (And.right ‹_›)

/-! ## Notations and elements -/

@[spec] theorem keeps_declareNotation (name : String) : Keeps (declareNotation name) := by
  mvcgen [declareNotation, keeps_updateDeclarations] <;> simp_all
  exact fun d hd => ⟨hd.entities, hd.rules⟩

@[spec] theorem keeps_notationDeclaration : Keeps notationDeclaration := by
  mvcgen [notationDeclaration] <;> simp_all

@[spec] theorem keeps_skipFrequency : Keeps skipFrequency := by
  mvcgen [skipFrequency]
  simp_all

@[spec] theorem keeps_groupFrom (fuel left : Nat) (separator : Option Char) :
    Keeps (groupFrom fuel left separator) := by
  induction fuel generalizing left separator with
  | zero => mvcgen [groupFrom]
  | succ fuel ih => mvcgen [groupFrom, ih] <;> simp_all

@[spec] theorem keeps_mixedFrom (named : Bool) (fuel : Nat) : Keeps (mixedFrom named fuel) := by
  induction fuel generalizing named with
  | zero => mvcgen [mixedFrom]
  | succ fuel ih => mvcgen [mixedFrom, ih] <;> simp_all

@[spec] theorem keeps_orM {x y : Reading Bool} (hx : Keeps x) (hy : Keeps y) : Keeps (x <||> y) := by
  refine hx.bind fun b _ => ?_
  cases b
  · exact hy
  · exact yields_pure trivial

@[spec] theorem keeps_contentModel : Keeps contentModel := by
  mvcgen [contentModel] <;> simp_all

@[spec] theorem keeps_declareElement (name : String) : Keeps (declareElement name) := by
  mvcgen [declareElement, keeps_updateDeclarations] <;> simp_all
  exact fun d hd => ⟨hd.entities, hd.rules⟩

@[spec] theorem keeps_elementDeclaration : Keeps elementDeclaration := by
  mvcgen [elementDeclaration] <;> simp_all

/-! ## Attributes -/

@[spec] theorem keeps_acceptType? (types : List (String × AttributeType)) : Keeps (acceptType? types) := by
  induction types with
  | nil => mvcgen [acceptType?]
  | cons type more ih =>
    mvcgen [acceptType?, ih]
    simp_all

@[spec] theorem keeps_word? : Keeps word? := by
  mvcgen [word?]

theorem keeps_choicesFrom {choice? : Reading (Option String)} (h : Keeps choice?) (fuel : Nat)
    (seen : List String) : Keeps (choicesFrom choice? fuel seen) := by
  induction fuel generalizing seen with
  | zero => mvcgen [choicesFrom]
  | succ fuel ih => mvcgen [choicesFrom, h, ih] <;> simp_all

theorem keeps_choices {choice? : Reading (Option String)} (h : Keeps choice?) :
    Keeps (choices choice?) := by
  have hfrom := keeps_choicesFrom h
  mvcgen [choices, hfrom] <;> simp_all

@[spec] theorem keeps_attributeType? : Keeps attributeType? := by
  mvcgen [attributeType?, keeps_choices] <;> simp_all

@[spec] theorem yields_defaultValue? (type : AttributeType) :
    Yields (defaultValue? type) fun value => ∀ s, value = some s → AreReadable s.toList := by
  have hwritten : ∀ parts : List Part, (∀ p ∈ parts, p.IsReadable) →
      AreReadable (if type = .text then rawText parts else squeezed (rawText parts)).toList := by
    intro parts hparts
    have hraw := areReadable_rawText hparts
    split
    · exact hraw
    · exact areReadable_squeezed hraw
  mvcgen [defaultValue?] <;> simp_all
  all_goals exact hwritten _ (And.right ‹_›)

@[spec] theorem keeps_checkRule (r : AttributeRule) : Keeps (checkRule r) := by
  mvcgen [checkRule] <;> try simp_all

theorem keeps_declareRule {r : AttributeRule}
    (h : ∀ s, r.default = some s → AreReadable s.toList) : Keeps (declareRule r) := by
  have hadd : ∀ d : Declarations, d.IsReadable → (if (d.rule? r.element r.named).isSome then d
      else { d with rules := d.rules ++ [r] }).IsReadable := by
    intro d hd
    split
    · exact hd
    · exact hd.addRule h
  mvcgen [declareRule, keeps_updateDeclarations] <;> try assumption
  all_goals exact fun _ _ => hadd

@[spec] theorem keeps_rulesFrom (element : String) (fuel : Nat) : Keeps (rulesFrom element fuel) := by
  induction fuel with
  | zero => mvcgen [rulesFrom]
  | succ fuel ih => mvcgen [rulesFrom, keeps_declareRule, ih] <;> simp_all

@[spec] theorem keeps_attributesDeclaration : Keeps attributesDeclaration := by
  mvcgen [attributesDeclaration] <;> simp_all

/-! ## The document type -/

@[spec] theorem keeps_declaration (fuel : Nat) : Keeps (declaration fuel) := by
  mvcgen [declaration] <;> simp_all

@[spec] theorem keeps_chargeParameter (e : Entity) (expanded : Nat) :
    Keeps (chargeParameter e expanded) := by
  mvcgen [chargeParameter, keeps_updateDeclarations] <;> try assumption
  exact fun d hd => hd.replaceParameter _

theorem keeps_parameter {declarations : Reading Bool} (h : Keeps declarations) (name : String) :
    Keeps (parameter declarations name) := by
  have hwithin := fun mark text measured => yields_within mark text measured h
  mvcgen [parameter, hwithin] <;> simp_all

theorem keeps_declarationsFrom {enter : String → Reading Bool} (h : ∀ name, Keeps (enter name))
    (fuel : Nat) : Keeps (declarationsFrom enter fuel) := by
  induction fuel with
  | zero => mvcgen [declarationsFrom]
  | succ fuel ih => mvcgen [declarationsFrom, h, ih] <;> simp_all

@[spec] theorem keeps_declarations (left : Nat) : Keeps (declarations left) := by
  induction left with
  | zero => mvcgen [declarations]
  | succ left ih =>
    exact keeps_rest.bind fun s _ => keeps_declarationsFrom (keeps_parameter ih) _

@[spec] theorem keeps_internalSubset : Keeps internalSubset := by
  unfold internalSubset
  refine (keeps_declaring true).bind fun _ _ => (keeps_declarations _).bind fun _ _ => ?_
  refine (keeps_declaring false).bind fun _ _ => ?_
  mvcgen <;> simp_all

@[spec] theorem keeps_documentType : Keeps documentType := by
  mvcgen [documentType, keeps_updateDeclarations] <;> simp_all
  all_goals exact fun d hd => ⟨hd.entities, hd.rules⟩

end Storyboard.Markup.Reading
