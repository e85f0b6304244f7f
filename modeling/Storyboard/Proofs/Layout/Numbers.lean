import Storyboard.Proofs.Layout.Drawing
import Storyboard.Proofs.Number.Order
/-!
# The numbers of a screen are defined

Positions, sizes, slider values and dates come from numerals and from defaults, and none of them is
undefined, however far beyond the finite numbers they are. Only a date picker without a date takes its
number from elsewhere: from the clock.

* `Component.numbers`: the numbers of a component itself.
* `isDefined_position`: positions are defined.
* `areDefined_nodes`: all numbers that a screen draws are, at any depth, if the clock is.
-/
namespace Storyboard.Layout

open Storyboard.Markup
open Storyboard.Number

def Rect.numbers (r : Rect) : List Binary64 := [r.x, r.y, r.width, r.height]

def Control.numbers : Control → List Binary64
  | .slider value => [value]
  | .datePicker timestamp => [timestamp]
  | _ => []

/-- The numbers of a component itself: its frame, and its value, date or height. -/
def Component.numbers : Component → List Binary64
  | .control kind p => p.frame.numbers ++ kind.numbers
  | .stack _ p _ => p.frame.numbers
  | .spacer height _ => [height]

/-- Are all these numbers defined? -/
def AreDefined (xs : List Binary64) : Prop := ∀ x ∈ xs, x.isDefined = true

/-! ## Parts of a component -/

theorem isDefined_numberIn {e : Element} {name : String} {default x : Binary64}
    (hdefault : default.isDefined = true) (h : numberIn e name default = .ok x) :
    x.isDefined = true := by
  unfold numberIn at h
  cases hread : Numeral.readOr (some default) (e.attribute? name) with
  | error cause =>
    rw [hread] at h
    cases h
  | ok value? =>
    rw [hread] at h
    cases value? with
    | none =>
      cases h
      exact hdefault
    | some value =>
      cases h
      exact isDefined_readOr (by simpa using hdefault) hread

theorem areDefined_frame {e : Element} {frame : Rect} (h : frameOf e = .ok frame) :
    AreDefined frame.numbers := by
  have hstandard : AreDefined Rect.standard.numbers := by
    simp [AreDefined, Rect.numbers, Rect.standard]
  unfold frameOf at h
  split at h
  · cases h
    exact hstandard
  · simp only [bind_eq_ok, pure_eq_ok] at h
    obtain ⟨x, hx, y, hy, width, hwidth, height, hheight, rfl⟩ := h
    simp only [AreDefined, Rect.numbers, Rect.standard, List.mem_cons, List.not_mem_nil, or_false,
      forall_eq_or_imp, forall_eq] at hstandard ⊢
    obtain ⟨hsx, hsy, hswidth, hsheight⟩ := hstandard
    exact ⟨isDefined_numberIn hsx hx, isDefined_numberIn hsy hy, isDefined_numberIn hswidth hwidth,
      isDefined_numberIn hsheight hheight⟩

theorem frameOf_of_placementOf {e : Element} {p : Placement} (h : placementOf e = .ok p) :
    frameOf e = .ok p.frame := by
  simp only [placementOf, bind_eq_ok, pure_eq_ok] at h
  obtain ⟨frame, hframe, rfl⟩ := h
  exact hframe

/-- A date that is stated is defined, also counted from the reference date, which is finite. -/
theorem isDefined_date {now x : Binary64} (hnow : now.isDefined = true) {e : Element}
    (h : dateOf now e = .ok x) : x.isDefined = true := by
  have hreference : ∃ s m exponent, referenceDate = .finite s m exponent := ⟨_, _, _, rfl⟩
  obtain ⟨_, _, _, hfinite⟩ := hreference
  simp only [dateOf, bind_eq_ok] at h
  obtain ⟨timestamp?, htimestamp, h⟩ := h
  cases timestamp? with
  | some timestamp =>
    rw [pure_eq_ok] at h
    subst h
    exact isDefined_readOr (by simp) htimestamp
  | none =>
    simp only [bind_eq_ok] at h
    obtain ⟨interval?, hinterval, h⟩ := h
    cases interval? with
    | some interval =>
      rw [pure_eq_ok] at h
      subst h
      exact Binary64.isDefined_add (isDefined_readOr (by simp) hinterval) hfinite
    | none =>
      rw [pure_eq_ok] at h
      exact h ▸ hnow

/-- Only the clock can bring an undefined number into a control. -/
theorem areDefined_control {now : Binary64} (hnow : now.isDefined = true) {e : Element}
    {name : String} {rule : Rule} (hrule : rule? name = some rule) {kind : Control}
    (h : rule now e = .ok kind) : AreDefined kind.numbers := by
  have hnone : AreDefined [] := by simp [AreDefined]
  unfold rule? at hrule
  split at hrule <;> cases hrule
  case h_6 =>
    simp only [bind_eq_ok, pure_eq_ok] at h
    obtain ⟨value, hvalue, rfl⟩ := h
    simpa [AreDefined, Control.numbers] using isDefined_numberIn (by simp) hvalue
  case h_9 =>
    simp only [bind_eq_ok, pure_eq_ok] at h
    obtain ⟨timestamp, htimestamp, rfl⟩ := h
    simpa [AreDefined, Control.numbers] using isDefined_date hnow htimestamp
  -- the other kinds have no number of their own
  all_goals
    cases h
    exact hnone

/-! ## Components -/

section
variable {now : Binary64} {e : Element} {c : Component}

theorem isDefined_position (h : component? now e = .ok (some c)) : c.position.isDefined = true := by
  have hy : ∀ p, placementOf e = .ok p → p.frame.y.isDefined = true := fun p hp =>
    areDefined_frame (frameOf_of_placementOf hp) _ (by simp [Rect.numbers])
  rcases component?_cases h with
    ⟨-, p, children, hp, -, hc⟩ | ⟨-, rule, kind, p, -, -, hp, hc⟩ | ⟨-, hc⟩
  · cases hc
    exact hy p hp
  · cases hc
    exact hy p hp
  · cases hc

theorem areDefined_component (hnow : now.isDefined = true) (h : component? now e = .ok (some c)) :
    AreDefined c.numbers := by
  rcases component?_cases h with
    ⟨-, p, children, hp, -, hc⟩ | ⟨-, rule, kind, p, hrule, hkind, hp, hc⟩ | ⟨-, hc⟩
  · cases hc
    exact areDefined_frame (frameOf_of_placementOf hp)
  · cases hc
    intro x hx
    rcases List.mem_append.mp hx with hx | hx
    · exact areDefined_frame (frameOf_of_placementOf hp) x hx
    · exact areDefined_control hnow hrule hkind x hx
  · cases hc

end

/-- The numbers of a screen's components are defined, and those of all that these hold. -/
theorem areDefined_nodes {now : Binary64} (hnow : now.isDefined = true) {screen : Site}
    {cs : List Component}
    (hcs : ∀ c ∈ cs, ∃ s ∈ screen.descendants, component? now s.element = .ok (some c)) :
    ∀ n ∈ nodesIn cs, AreDefined n.numbers := by
  intro n hn
  obtain ⟨s, -, hs⟩ := site_of_mem_nodesIn hcs hn
  exact areDefined_component hnow hs

end Storyboard.Layout
