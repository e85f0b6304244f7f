import Storyboard.Proofs.Markup.Readable.Texts
import Storyboard.Proofs.Markup.Separators
/-!
# Readable nodes

An element is readable if the values of its attributes are, what these fall back to, and all texts below
it. The information separators are no legal characters, so none of them is in a readable element.

* `Node.IsReadable`, `Element.IsReadable`: the condition on a node and all below it.
* `Element.IsReadable.isUnseparated`: there are no separators.
-/
namespace Storyboard.Markup

open Storyboard.Text

structure Tag.IsReadable (t : Tag) : Prop where
  attributes : ∀ a ∈ t.attributes, AreReadable a.value.toList
  fallbacks : ∀ f ∈ t.fallbacks, AreReadable f.2.toList

mutual

/-- The texts and the values of attributes at and below the node are readable, and so are the names of
entities. -/
def Node.IsReadable : Node → Prop
  | .element tag children => tag.IsReadable ∧ AreReadableNodes children
  | .text content => AreReadable content.toList
  | .reference entity => AreReadable entity.toList
  | _ => True

def AreReadableNodes : List Node → Prop
  | [] => True
  | n :: rest => n.IsReadable ∧ AreReadableNodes rest

end

theorem areReadableNodes_iff {ns : List Node} : AreReadableNodes ns ↔ ∀ n ∈ ns, n.IsReadable := by
  induction ns with
  | nil => simp [AreReadableNodes]
  | cons n rest ih => simp [AreReadableNodes, ih]

structure Element.IsReadable (e : Element) : Prop where
  tag : e.tag.IsReadable
  children : ∀ n ∈ e.children, n.IsReadable

@[simp] theorem Element.isReadable_mk {tag : Tag} {children : List Node} :
    Element.IsReadable ⟨tag, children⟩ ↔ tag.IsReadable ∧ ∀ n ∈ children, n.IsReadable :=
  ⟨fun h => ⟨h.tag, h.children⟩, fun h => ⟨h.1, h.2⟩⟩

/-! ## No separators -/

/-- A readable character is no information separator. -/
theorem isSeparator_of_isReadable {c : Char} (h : isReadable c = true) : isSeparator c = false := by
  by_contra hseparator
  simp [isSeparator] at hseparator
  simp [isReadable, isLegal, inRanges, damageMark] at h
  rcases h with h | rfl
  · omega
  · revert hseparator
    decide

theorem isUnseparatedText_of_areReadable {s : String} (h : AreReadable s.toList) :
    isUnseparatedText s = true := by
  simp only [isUnseparatedText, Bool.not_eq_true', List.any_eq_false]
  intro c hc
  simp [isSeparator_of_isReadable (h c hc)]

theorem Tag.IsReadable.isUnseparated {t : Tag} (h : t.IsReadable) : t.isUnseparated = true := by
  simp only [Tag.isUnseparated, Bool.and_eq_true, List.all_eq_true]
  exact ⟨fun a ha => isUnseparatedText_of_areReadable (h.attributes a ha),
    fun f hf => isUnseparatedText_of_areReadable (h.fallbacks f hf)⟩

mutual

theorem Node.IsReadable.isUnseparated : ∀ {n : Node}, n.IsReadable → n.isUnseparated = true
  | .element tag children, h => by
    rw [Node.IsReadable] at h
    rw [Node.isUnseparated, Bool.and_eq_true]
    exact ⟨h.1.isUnseparated, h.2.areUnseparated⟩
  | .text _, _ | .comment _, _ | .instruction _ _, _ | .reference _, _ => rfl

theorem AreReadableNodes.areUnseparated : ∀ {ns : List Node}, AreReadableNodes ns →
    areUnseparated ns = true
  | [], _ => rfl
  | n :: rest, h => by
    rw [AreReadableNodes] at h
    rw [Storyboard.Markup.areUnseparated, Bool.and_eq_true]
    exact ⟨h.1.isUnseparated, h.2.areUnseparated⟩

end

theorem Element.IsReadable.isUnseparated {e : Element} (h : e.IsReadable) : e.isUnseparated = true := by
  rw [Element.isUnseparated, Bool.and_eq_true]
  exact ⟨h.tag.isUnseparated, (areReadableNodes_iff.mpr h.children).areUnseparated⟩

end Storyboard.Markup
