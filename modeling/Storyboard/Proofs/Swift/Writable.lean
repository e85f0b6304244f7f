import Storyboard.Proofs.Number.Finite
import Storyboard.Proofs.Outcome
import Storyboard.Swift.Spacing
/-!
# What can be written

An expression can be written exactly if each control in the tree has a view and each spacer a finite
height; numbers of any kind can be shown. With finite paddings a column of such components can be
written, whatever the positions are.

* `Component.isWritable`: the tree has nothing in it that cannot be written.
* `expression_isOk_iff`: these are the components with an expression.
* `exists_topPadding`, `exists_screenBody`: spacing does not fail either.
-/
namespace Storyboard.Layout

def Control.isKnown : Control → Bool
  | .unknown => false
  | _ => true

mutual

/-- All controls in the tree have a view, and all spacers a finite height. -/
def Component.isWritable : Component → Bool
  | .control kind _ => kind.isKnown
  | .stack _ _ children => areWritable children
  | .spacer height _ => height.isFinite

def areWritable : List Component → Bool
  | [] => true
  | c :: rest => c.isWritable && areWritable rest

end

theorem areWritable_iff {cs : List Component} :
    areWritable cs = true ↔ ∀ c ∈ cs, c.isWritable = true := by
  induction cs with
  | nil => simp [areWritable]
  | cons c rest ih => simp [areWritable, ih]

end Storyboard.Layout

namespace Storyboard

/-- The least and the greatest padding are finite. -/
def Settings.hasFinitePadding (settings : Settings) : Bool :=
  settings.minTopPadding.isFinite && settings.maxTopPadding.isFinite

end Storyboard

namespace Storyboard.Swift

open Storyboard.Layout
open Storyboard.Number (Binary64)

theorem viewOf_isOk_iff {kind : Control} : (∃ s, viewOf kind = .ok s) ↔ kind.isKnown = true := by
  cases kind <;> simp [viewOf, Control.isKnown]

theorem integerPart_eq_ok {x : Binary64} {n : Int} : integerPart x = .ok n ↔ x.truncate = .ok n := by
  unfold integerPart
  cases x.truncate <;> simp

theorem integerPart_isOk_iff {x : Binary64} : (∃ n, integerPart x = .ok n) ↔ x.isFinite = true := by
  simp only [integerPart_eq_ok, Binary64.truncate_isOk_iff]

mutual

/-- A component has an expression exactly if it can be written, whatever space is above it. -/
theorem expression_isOk_iff (top : Option Int) : ∀ c : Component,
    (∃ s, expression top c = .ok s) ↔ c.isWritable = true
  | .control kind p => by
    rw [expression, Component.isWritable, ← viewOf_isOk_iff]
    simp only [bind_eq_ok, pure_eq_ok]
    exact ⟨fun ⟨_, view, hview, _⟩ => ⟨view, hview⟩, fun ⟨view, hview⟩ => ⟨_, view, hview, rfl⟩⟩
  | .stack axis p children => by
    rw [expression, Component.isWritable, ← expressions_isOk_iff children]
    simp only [bind_eq_ok, pure_eq_ok]
    exact ⟨fun ⟨_, ss, hss, _⟩ => ⟨ss, hss⟩, fun ⟨ss, hss⟩ => ⟨_, ss, hss, rfl⟩⟩
  | .spacer height id => by
    rw [expression, Component.isWritable, ← integerPart_isOk_iff]
    simp only [bind_eq_ok, pure_eq_ok]
    exact ⟨fun ⟨_, n, hn, _⟩ => ⟨n, hn⟩, fun ⟨n, hn⟩ => ⟨_, n, hn, rfl⟩⟩

theorem expressions_isOk_iff : ∀ cs : List Component,
    (∃ ss, expressions cs = .ok ss) ↔ areWritable cs = true
  | [] => by simp [expressions, areWritable, pure_eq_ok]
  | c :: rest => by
    rw [expressions, areWritable, Bool.and_eq_true, ← expression_isOk_iff none c,
      ← expressions_isOk_iff rest]
    simp only [bind_eq_ok, pure_eq_ok]
    exact ⟨fun ⟨_, s, hs, ss, hss, _⟩ => ⟨⟨s, hs⟩, ss, hss⟩,
      fun ⟨⟨s, hs⟩, ss, hss⟩ => ⟨_, s, hs, ss, hss, rfl⟩⟩

end

/-! ## Columns -/

/-- The space above a component of a column that is no spacer, below one at the position `previous`. -/
def topAbove (settings : Settings) (previous : Option Binary64) (c : Component) :
    Written (Option Int) :=
  match previous with
  | none => return none
  | some y => some <$> topPadding settings y c.position

theorem columnFrom_cons {settings : Settings} {previous : Option Binary64} {c : Component}
    {rest : List Component} (hc : ∀ height id, c ≠ .spacer height id) :
    columnFrom settings previous (c :: rest) = (do
      let top ← topAbove settings previous c
      return (← expression top c) :: (← columnFrom settings (some c.position) rest)) := by
  cases c with
  | spacer height id => exact absurd rfl (hc height id)
  | control | stack => cases previous <;> rfl

section
variable {settings : Settings}

theorem exists_topPadding (hs : settings.hasFinitePadding = true) (previous current : Binary64) :
    ∃ n, topPadding settings previous current = .ok n := by
  rw [Settings.hasFinitePadding, Bool.and_eq_true] at hs
  exact integerPart_isOk_iff.mpr (Binary64.isFinite_clamp hs.1 hs.2 _)

theorem exists_topAbove (hs : settings.hasFinitePadding = true) (previous : Option Binary64)
    (c : Component) : ∃ top, topAbove settings previous c = .ok top := by
  cases previous with
  | none => exact ⟨none, rfl⟩
  | some y =>
    obtain ⟨n, hn⟩ := exists_topPadding hs y c.position
    exact ⟨some n, by rw [topAbove, hn]; rfl⟩

theorem exists_columnFrom (hs : settings.hasFinitePadding = true) (previous : Option Binary64)
    {cs : List Component} (h : ∀ c ∈ cs, c.isWritable = true) :
    ∃ ss, columnFrom settings previous cs = .ok ss := by
  induction cs generalizing previous with
  | nil => exact ⟨[], rfl⟩
  | cons c rest ih =>
    obtain ⟨hc, hrest⟩ := List.forall_mem_cons.mp h
    have hexpr : ∀ top, ∃ s, expression top c = .ok s := fun top => (expression_isOk_iff top c).mpr hc
    by_cases hspacer : ∃ height id, c = .spacer height id
    · obtain ⟨height, id, rfl⟩ := hspacer
      obtain ⟨s, hs⟩ := hexpr none
      obtain ⟨ss, hss⟩ := ih previous hrest
      exact ⟨s :: ss, by simp only [columnFrom, bind_eq_ok, pure_eq_ok]; exact ⟨s, hs, ss, hss, rfl⟩⟩
    · obtain ⟨top, htop⟩ := exists_topAbove hs previous c
      obtain ⟨s, hs⟩ := hexpr top
      obtain ⟨ss, hss⟩ := ih (some c.position) hrest
      refine ⟨s :: ss, ?_⟩
      rw [columnFrom_cons fun height id he => hspacer ⟨height, id, he⟩]
      simp only [bind_eq_ok, pure_eq_ok]
      exact ⟨top, htop, s, hs, ss, hss, rfl⟩

/-- With finite paddings, the body of a screen can be written if its components can. -/
theorem exists_screenBody (hs : settings.hasFinitePadding = true) {cs : List Component}
    (h : ∀ c ∈ cs, c.isWritable = true) : ∃ body, screenBody settings cs = .ok body := by
  have hkept : ∀ c ∈ unowned cs, c.isWritable = true := fun c hc => h c (List.mem_of_mem_filter hc)
  obtain ⟨ss, hss⟩ := exists_columnFrom hs none hkept
  exact ⟨"\n\n".intercalate ss, by simp only [screenBody, column, hss]; rfl⟩

end

end Storyboard.Swift
