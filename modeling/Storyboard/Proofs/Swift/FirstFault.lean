import Storyboard.Proofs.Layout.Drawing
import Storyboard.Proofs.Swift.Writable
/-!
# Which failure ends an expression

A component is written together with all that it holds, from left to right and each stack before its
children. Only some nodes of the tree cannot be written themselves: controls that there is no view for,
and spacers whose height has no integer part. An expression fails exactly if there is such a node, with
the failure of the first one; everything else in the tree, the numbers of sliders and dates included, can
be written whatever it is.

* `Component.fault?`: why a node itself cannot be written.
* `failure?_expression`: an expression fails with the first fault among its nodes.
* `expression_fails_at_first`: the same, with the nodes in front of the faulty one and behind it.
-/
namespace Storyboard.Layout

/-- Why a component cannot be written, whatever it holds. -/
def Component.fault? : Component → Option Failure
  | .control .unknown _ => some .noView
  | .spacer (.infinite _) _ => some (.noInteger .infinite)
  | .spacer .undefined _ => some (.noInteger .undefined)
  | _ => none

end Storyboard.Layout

namespace Storyboard.Swift

open Storyboard.Layout
open Storyboard.Number (Binary64)

/-- The failure of a step that fails. -/
def failure? {α : Type} : Written α → Option Failure
  | .ok _ => none
  | .error failure => some failure

section
variable {α β : Type}

theorem failure?_eq_some {x : Written α} {failure : Failure} :
    failure? x = some failure ↔ x = .error failure := by
  cases x with
  | ok a => simp [failure?]
  | error e => simp [failure?]

theorem failure?_eq_none {x : Written α} : failure? x = none ↔ ∃ a, x = .ok a := by
  cases x with
  | ok a => simp [failure?]
  | error e => simp [failure?]

theorem failure?_pure (a : α) : failure? (pure a : Written α) = none := rfl

/-- Of two steps that both fail the first one counts. -/
theorem failure?_bind (x : Written α) {f : α → Written β} {next : Option Failure}
    (h : ∀ a, failure? (f a) = next) : failure? (x >>= f) = (failure? x).or next := by
  cases x with
  | ok a => exact h a
  | error e => rfl

theorem failure?_map (x : Written α) (f : α → β) :
    failure? (do return f (← x)) = failure? x := by
  rw [failure?_bind x fun a => failure?_pure (f a), Option.or_none]

end

/-! ## Single nodes -/

theorem failure?_viewOf (kind : Control) (p : Placement) :
    failure? (viewOf kind) = (Component.control kind p).fault? := by
  cases kind <;> rfl

theorem failure?_integerPart (height : Binary64) (id : String) :
    failure? (integerPart height) = (Component.spacer height id).fault? := by
  cases height <;> rfl

/-! ## Trees -/

mutual

/-- An expression fails with the first fault among the nodes of the component. -/
theorem failure?_expression (top : Option Int) : ∀ c : Component,
    failure? (expression top c) = c.nodes.findSome? Component.fault?
  | .control kind p => by
    rw [expression, failure?_map, failure?_viewOf kind p, Component.nodes, List.findSome?_singleton]
  | .stack axis p children => by
    -- a stack has no fault of its own
    have hself : (Component.stack axis p children).fault? = none := rfl
    rw [expression, failure?_map, failure?_expressions children, Component.nodes,
      List.findSome?_cons, hself]
  | .spacer height id => by
    rw [expression, failure?_map, failure?_integerPart height id, Component.nodes,
      List.findSome?_singleton]

theorem failure?_expressions : ∀ cs : List Component,
    failure? (expressions cs) = (nodesIn cs).findSome? Component.fault?
  | [] => rfl
  | c :: rest => by
    have hrest : ∀ s, failure? (do return s :: (← expressions rest)) =
        (nodesIn rest).findSome? Component.fault? := fun s => by
      rw [failure?_map, failure?_expressions rest]
    rw [expressions, failure?_bind _ hrest, failure?_expression none c, nodesIn,
      List.findSome?_append]

end

/-- **The first fault counts.** Writing a component fails exactly if one of its nodes has a fault, whatever
space is above it, and with the fault of the first such node: no node in front of it has one. If none
has, there is an expression. -/
theorem expression_fails_at_first (top : Option Int) (c : Component) :
    (∀ failure, expression top c = .error failure ↔
      ∃ before n behind, c.nodes = before ++ n :: behind ∧ n.fault? = some failure ∧
        ∀ m ∈ before, m.fault? = none) ∧
    ((∃ text, expression top c = .ok text) ↔ ∀ n ∈ c.nodes, n.fault? = none) := by
  constructor
  · intro failure
    rw [← failure?_eq_some, failure?_expression, List.findSome?_eq_some_iff]
  · rw [← failure?_eq_none, failure?_expression, List.findSome?_eq_none_iff]

-- of two faults the one further left counts, though the other is further up
example (p : Placement) : expression none (.stack .vertical p
    [.stack .horizontal p [.spacer .undefined ""], .control .unknown p]) =
      .error (.noInteger .undefined) := rfl

end Storyboard.Swift
