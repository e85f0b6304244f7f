import Storyboard.Layout.Extraction
import Storyboard.Proofs.Markup.Separators
import Storyboard.Proofs.Sorting
import Storyboard.Proofs.Swift.Writable
/-!
# Extraction ends

Only a separator next to a numeral keeps it from being converted, so the components of an element
without separators can be extracted, and all of them can be written: no element becomes a control of
unknown kind or a spacer.

* `exists_numberIn`, `exists_placement`, `exists_control`: the parts of a component.
* `exists_component`: the component of an element, if it has one.
* `exists_screenComponents`: the components of a screen.
-/
namespace Storyboard.Layout

open Storyboard.Markup
open Storyboard.Number

/-! ## Parts of a component -/

theorem exists_readOr {text? : Option String} (h : ∀ text ∈ text?, isUnseparatedText text = true)
    (default : Option Binary64) : ∃ x?, Numeral.readOr default text? = .ok x? := by
  cases text? with
  | none => exact ⟨default, rfl⟩
  | some text =>
    have hnone : text.toList.any Text.isSeparator = false := by
      simpa [isUnseparatedText] using h text rfl
    simp only [Numeral.readOr, Numeral.read, hnone, Bool.false_eq_true, if_false]
    cases Numeral.ofChars? text.toList with
    | none => exact ⟨default, rfl⟩
    | some numeral => exact ⟨some numeral.value, rfl⟩

section
variable {e : Element} (h : e.isUnseparated = true)
include h

theorem exists_attributeNumber (name : String) (default : Option Binary64) :
    ∃ x?, Numeral.readOr default (e.attribute? name) = .ok x? :=
  exists_readOr (fun _ htext => isUnseparated_attribute h htext) default

theorem exists_numberIn (name : String) (default : Binary64) :
    ∃ x, numberIn e name default = .ok x := by
  obtain ⟨x?, hx⟩ := exists_attributeNumber h name (some default)
  exact ⟨_, by rw [numberIn, hx]; rfl⟩

theorem exists_frame : ∃ frame, frameOf e = .ok frame := by
  unfold frameOf
  cases hrect : e.firstChildWith? "rect" [("key", "frame")] with
  | none => exact ⟨_, rfl⟩
  | some rect =>
    have hunseparated := isUnseparated_firstChildWith h hrect
    obtain ⟨x, hx⟩ := exists_numberIn hunseparated "x" Rect.standard.x
    obtain ⟨y, hy⟩ := exists_numberIn hunseparated "y" Rect.standard.y
    obtain ⟨width, hwidth⟩ := exists_numberIn hunseparated "width" Rect.standard.width
    obtain ⟨height, hheight⟩ := exists_numberIn hunseparated "height" Rect.standard.height
    refine ⟨⟨x, y, width, height⟩, ?_⟩
    simp only [hx, hy, hwidth, hheight]
    rfl

theorem exists_placement : ∃ p, placementOf e = .ok p := by
  obtain ⟨frame, hframe⟩ := exists_frame h
  exact ⟨_, by rw [placementOf, hframe]; rfl⟩

theorem exists_date (now : Binary64) : ∃ x, dateOf now e = .ok x := by
  have hdate : ∀ text ∈ (e.firstChildWith? "date" [("key", "date")]).bind
      (·.attribute? "timeIntervalSinceReferenceDate"), isUnseparatedText text = true := by
    intro text htext
    obtain ⟨date, hdate, hvalue⟩ := Option.bind_eq_some_iff.mp htext
    exact isUnseparated_attribute (isUnseparated_firstChildWith h hdate) hvalue
  obtain ⟨timestamp?, htimestamp⟩ := exists_attributeNumber h "timestamp" none
  obtain ⟨interval?, hinterval⟩ := exists_readOr hdate none
  unfold dateOf
  simp only [htimestamp, hinterval]
  cases timestamp? with
  | some timestamp => exact ⟨timestamp, rfl⟩
  | none =>
    cases interval? with
    | some interval => exact ⟨interval + referenceDate, rfl⟩
    | none => exact ⟨now, rfl⟩

/-- The rule for a name makes a control of known kind. -/
theorem exists_control (now : Binary64) {name : String} {rule : Rule} (hrule : rule? name = some rule) :
    ∃ kind, rule now e = .ok kind ∧ kind.isKnown = true := by
  obtain ⟨value, hvalue⟩ := exists_numberIn h "value" 50
  obtain ⟨date, hdate⟩ := exists_date h now
  unfold rule? at hrule
  split at hrule <;> cases hrule
  case h_6 => exact ⟨.slider value, by simp only [hvalue]; rfl, rfl⟩
  case h_9 => exact ⟨.datePicker date, by simp only [hdate]; rfl, rfl⟩
  -- the other rules read no number
  all_goals exact ⟨_, rfl, rfl⟩

end

/-! ## Elements -/

mutual

theorem exists_componentOf (now : Binary64) : ∀ n : Node, n.isUnseparated = true →
    ∃ c?, componentOf now n = .ok c? ∧ ∀ c ∈ c?, c.isWritable = true
  | .element tag children, h => by
    obtain ⟨p, hp⟩ := exists_placement (e := ⟨tag, children⟩) h
    simp only [componentOf]
    split
    · have hchildren : areUnseparated children = true := by
        simp only [Node.isUnseparated, Bool.and_eq_true] at h
        exact h.2
      obtain ⟨members, hmembers, hwritable⟩ := exists_membersIn now false children hchildren
      refine ⟨some (.stack (axisOf ⟨tag, children⟩) p members), by rw [hp, hmembers]; rfl, ?_⟩
      rintro c ⟨⟩
      exact areWritable_iff.mpr hwritable
    · split
      · exact ⟨none, rfl, by simp⟩
      · rename_i rule hrule
        obtain ⟨kind, hkind, hknown⟩ := exists_control (e := ⟨tag, children⟩) h now hrule
        refine ⟨some (.control kind p), by rw [hp, hkind]; rfl, ?_⟩
        rintro c ⟨⟩
        exact hknown
  | .text _, _ => ⟨none, by simp [componentOf, pure_eq_ok]⟩
  | .comment _, _ => ⟨none, by simp [componentOf, pure_eq_ok]⟩
  | .instruction _ _, _ => ⟨none, by simp [componentOf, pure_eq_ok]⟩
  | .reference _, _ => ⟨none, by simp [componentOf, pure_eq_ok]⟩

theorem exists_membersBelow (now : Binary64) : ∀ n : Node, n.isUnseparated = true →
    ∃ cs, membersBelow now n = .ok cs ∧ ∀ c ∈ cs, c.isWritable = true
  | .element tag children, h => by
    simp only [Node.isUnseparated, Bool.and_eq_true] at h
    rw [membersBelow]
    exact exists_membersIn now _ children h.2
  | .text _, _ => ⟨[], by simp [membersBelow, pure_eq_ok]⟩
  | .comment _, _ => ⟨[], by simp [membersBelow, pure_eq_ok]⟩
  | .instruction _ _, _ => ⟨[], by simp [membersBelow, pure_eq_ok]⟩
  | .reference _, _ => ⟨[], by simp [membersBelow, pure_eq_ok]⟩

theorem exists_membersIn (now : Binary64) (here : Bool) : ∀ ns : List Node, areUnseparated ns = true →
    ∃ cs, membersIn now here ns = .ok cs ∧ ∀ c ∈ cs, c.isWritable = true
  | [], _ => ⟨[], by simp [membersIn, pure_eq_ok]⟩
  | n :: rest, h => by
    simp only [areUnseparated, Bool.and_eq_true] at h
    obtain ⟨own, hown, hwown⟩ := exists_componentOf now n h.1
    obtain ⟨below, hbelow, hwbelow⟩ := exists_membersBelow now n h.1
    obtain ⟨behind, hbehind, hwbehind⟩ := exists_membersIn now here rest h.2
    cases here with
    | true =>
      refine ⟨own.toList ++ below ++ behind, by simp only [membersIn, hown, hbelow, hbehind]; rfl, ?_⟩
      simp only [List.mem_append, Option.mem_toList]
      rintro c ((hc | hc) | hc)
      · exact hwown c hc
      · exact hwbelow c hc
      · exact hwbehind c hc
    | false =>
      refine ⟨below ++ behind, by simp only [membersIn, hbelow, hbehind]; rfl, ?_⟩
      simp only [List.mem_append]
      rintro c (hc | hc)
      · exact hwbelow c hc
      · exact hwbehind c hc

end

theorem exists_component? (now : Binary64) {e : Element} (h : e.isUnseparated = true) :
    ∃ c?, component? now e = .ok c? ∧ ∀ c ∈ c?, c.isWritable = true :=
  exists_componentOf now (.element e.tag e.children) h

/-! ## Screens -/

/-- The components of a screen without separators can be extracted and written. -/
theorem exists_screenComponents (now : Binary64) (placeholder : String) {screen : Option Site}
    (h : ∀ s ∈ screen, s.element.isUnseparated = true) :
    ∃ cs, screenComponents now placeholder screen = .ok cs ∧ ∀ c ∈ cs, c.isWritable = true := by
  have hbelow : ∀ s ∈ (screen.map Site.descendants).getD [], s.element.isUnseparated = true := by
    cases screen with
    | none => simp
    | some screen => exact screen.isUnseparated_descendants (h screen rfl)
  obtain ⟨mapped, hmapped, hwritable⟩ := exists_mapM fun s hs => exists_component? now (hbelow s hs)
  refine ⟨_, by simp only [screenComponents, hmapped]; rfl, fun c hc => ?_⟩
  have hc := (sorted_perm _ _).mem_iff.mp hc
  obtain ⟨c?, hc?, hid⟩ := List.mem_filterMap.mp (List.mem_of_mem_filter hc)
  exact hwritable c? hc? c hid

end Storyboard.Layout
