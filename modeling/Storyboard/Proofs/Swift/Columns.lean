import Storyboard.Proofs.Swift.Writable
/-!
# Columns pass over spacers

A column is written with one position in hand, that of the last component that was no spacer. So the
space above a component is measured from the nearest component above it that is no spacer, however many
spacers stand between the two, and a component with nothing but spacers above it has no space of its
own. Spacers themselves are written as they are. So putting spacers in and taking spacers out changes
nothing about how the other components are written.

* `positionBehind`: the position in hand behind some components.
* `columnFrom_cons_eq`: one step, the same for spacers and others.
* `fragment_of_columnFrom`: what is written for each component, by its number.
* `columnFrom_unspaced`: without its spacers a column has the same fragments for the others.
* `spacers_passed_over`: the fragments of a column, and of any column with other spacers.
-/
namespace Storyboard.Layout

def Component.isSpacer : Component → Bool
  | .spacer .. => true
  | _ => false

/-- The components that are no spacers. -/
def unspaced (cs : List Component) : List Component := cs.filter (!·.isSpacer)

end Storyboard.Layout

namespace Storyboard.Swift

open Storyboard.Layout
open Storyboard.Number (Binary64)

/-- The position in hand behind components: that of the last one that is no spacer, and `previous` if
there is none. -/
def positionBehind (previous : Option Binary64) : List Component → Option Binary64
  | [] => previous
  | c :: rest => positionBehind (if c.isSpacer then previous else some c.position) rest

/-- What is written for a component with the position `previous` in hand. -/
def fragment (settings : Settings) (previous : Option Binary64) (c : Component) : Written String :=
  if c.isSpacer then expression none c else do expression (← topAbove settings previous c) c

/-- How the components of a column are spaced, by their numbers: what is written for each of them. -/
structure IsSpaced (settings : Settings) (cs : List Component) (fragments : List String) : Prop where
  length_eq : fragments.length = cs.length
  /-- A spacer is written as it is. -/
  spacer : ∀ (i : Nat) c, cs[i]? = some c → c.isSpacer = true →
    ∃ s, fragments[i]? = some s ∧ expression none c = .ok s
  /-- The first other component has no space above it. -/
  first : ∀ (i : Nat) c, cs[i]? = some c → c.isSpacer = false →
    (∀ j < i, ∀ b, cs[j]? = some b → b.isSpacer = true) →
    ∃ s, fragments[i]? = some s ∧ expression none c = .ok s
  /-- Any further one has the space to the last component before it that is no spacer. -/
  later : ∀ (i : Nat) c, cs[i]? = some c → c.isSpacer = false →
    ∀ (j : Nat) b, j < i → cs[j]? = some b → b.isSpacer = false →
    (∀ k, j < k → k < i → ∀ a, cs[k]? = some a → a.isSpacer = true) →
    ∃ top s, topPadding settings b.position c.position = .ok top ∧
      fragments[i]? = some s ∧ expression (some top) c = .ok s

/-! ## The position in hand -/

theorem positionBehind_append (previous : Option Binary64) (front back : List Component) :
    positionBehind previous (front ++ back) = positionBehind (positionBehind previous front) back := by
  induction front generalizing previous with
  | nil => rfl
  | cons c rest ih => simp only [List.cons_append, positionBehind, ih]

/-- A component that is passed changes the position in hand exactly if it is no spacer. -/
theorem positionBehind_take_succ (previous : Option Binary64) {cs : List Component} {i : Nat}
    {c : Component} (hc : cs[i]? = some c) :
    positionBehind previous (cs.take (i + 1)) =
      if c.isSpacer then positionBehind previous (cs.take i) else some c.position := by
  rw [List.take_add_one, hc, positionBehind_append]
  rfl

section
variable {cs : List Component} {i : Nat} (hi : i ≤ cs.length)
include hi

theorem positionBehind_take_of_spacers (previous : Option Binary64)
    (h : ∀ j < i, ∀ b, cs[j]? = some b → b.isSpacer = true) :
    positionBehind previous (cs.take i) = previous := by
  induction i with
  | zero => rfl
  | succ i ih =>
    have hc : cs[i]? = some cs[i] := List.getElem?_eq_getElem hi
    rw [positionBehind_take_succ previous hc, if_pos (h i (Nat.lt_succ_self i) _ hc)]
    exact ih (Nat.le_of_succ_le hi) fun j hj => h j (Nat.lt_succ_of_lt hj)

theorem positionBehind_take_of_last (previous : Option Binary64) {j : Nat} {b : Component} (hj : j < i)
    (hb : cs[j]? = some b) (hview : b.isSpacer = false)
    (h : ∀ k, j < k → k < i → ∀ a, cs[k]? = some a → a.isSpacer = true) :
    positionBehind previous (cs.take i) = some b.position := by
  induction i with
  | zero => omega
  | succ i ih =>
    rcases Nat.lt_succ_iff_lt_or_eq.mp hj with hlt | rfl
    · have hc : cs[i]? = some cs[i] := List.getElem?_eq_getElem hi
      rw [positionBehind_take_succ previous hc, if_pos (h i hlt (Nat.lt_succ_self i) _ hc)]
      exact ih (Nat.le_of_succ_le hi) hlt fun k hjk hki => h k hjk (Nat.lt_succ_of_lt hki)
    · rw [positionBehind_take_succ previous hb, if_neg (by simp [hview])]

end

/-! ## Columns, step by step -/

section
variable {settings : Settings}

/-- One step: the component is written, and the position in hand moves on. -/
theorem columnFrom_cons_eq (previous : Option Binary64) (c : Component) (rest : List Component) :
    columnFrom settings previous (c :: rest) = (do
      return (← fragment settings previous c) ::
        (← columnFrom settings (positionBehind previous [c]) rest)) := by
  cases c with
  | spacer height id => rfl
  | control | stack =>
    rw [columnFrom_cons (by simp)]
    simp only [fragment, Component.isSpacer, Bool.false_eq_true, if_false, bind_assoc]
    rfl

theorem columnFrom_cons_eq_ok {previous : Option Binary64} {c : Component} {rest : List Component}
    {fragments : List String} : columnFrom settings previous (c :: rest) = .ok fragments ↔
      ∃ s ss, fragment settings previous c = .ok s ∧
        columnFrom settings (positionBehind previous [c]) rest = .ok ss ∧ fragments = s :: ss := by
  simp only [columnFrom_cons_eq, bind_eq_ok, pure_eq_ok]
  constructor
  · rintro ⟨s, hs, ss, hss, rfl⟩
    exact ⟨s, ss, hs, hss, rfl⟩
  · rintro ⟨s, ss, hs, hss, rfl⟩
    exact ⟨s, hs, ss, hss, rfl⟩

theorem length_columnFrom {previous : Option Binary64} {cs : List Component} {fragments : List String}
    (h : columnFrom settings previous cs = .ok fragments) : fragments.length = cs.length := by
  induction cs generalizing previous fragments with
  | nil =>
    cases h
    rfl
  | cons c rest ih =>
    obtain ⟨s, ss, -, hss, rfl⟩ := columnFrom_cons_eq_ok.mp h
    rw [List.length_cons, List.length_cons, ih hss]

/-- Each component is written with the position in hand behind those before it. -/
theorem fragment_of_columnFrom {previous : Option Binary64} {cs : List Component}
    {fragments : List String} (h : columnFrom settings previous cs = .ok fragments) {i : Nat}
    {c : Component} (hc : cs[i]? = some c) :
    ∃ s, fragments[i]? = some s ∧ fragment settings (positionBehind previous (cs.take i)) c = .ok s := by
  induction cs generalizing previous fragments i with
  | nil => simp at hc
  | cons first rest ih =>
    obtain ⟨s, ss, hs, hss, rfl⟩ := columnFrom_cons_eq_ok.mp h
    cases i with
    | zero =>
      cases hc
      exact ⟨s, rfl, hs⟩
    | succ i => exact ih hss hc

/-- Without its spacers a column has the same fragments for all other components. -/
theorem columnFrom_unspaced {previous : Option Binary64} {cs : List Component}
    {fragments : List String} (h : columnFrom settings previous cs = .ok fragments) :
    ∃ kept, columnFrom settings previous (unspaced cs) = .ok kept ∧
      (cs.zip fragments).filter (fun p => !p.1.isSpacer) = (unspaced cs).zip kept := by
  induction cs generalizing previous fragments with
  | nil => exact ⟨[], rfl, rfl⟩
  | cons c rest ih =>
    obtain ⟨s, ss, hs, hss, rfl⟩ := columnFrom_cons_eq_ok.mp h
    obtain ⟨kept, hkept, hpairs⟩ := ih hss
    cases hc : c.isSpacer with
    | true =>
      -- a spacer leaves the position in hand as it is
      simp only [positionBehind, hc, if_true] at hkept
      exact ⟨kept, by simpa [unspaced, hc] using hkept, by simpa [unspaced, hc] using hpairs⟩
    | false =>
      have hcons : unspaced (c :: rest) = c :: unspaced rest := by simp [unspaced, hc]
      refine ⟨s :: kept, ?_, ?_⟩
      · rw [hcons]
        exact columnFrom_cons_eq_ok.mpr ⟨s, kept, hs, hkept, rfl⟩
      · rw [hcons, List.zip_cons_cons, List.zip_cons_cons, ← hpairs]
        simp [hc]

/-! ## Fragments by their numbers -/

theorem fragment_of_isSpacer {previous : Option Binary64} {c : Component} (hc : c.isSpacer = true) :
    fragment settings previous c = expression none c := by
  rw [fragment, if_pos hc]

/-- What is written for a component is an expression of it, with some space above. -/
theorem expression_of_fragment {previous : Option Binary64} {c : Component} {s : String}
    (h : fragment settings previous c = .ok s) : ∃ top, expression top c = .ok s := by
  unfold fragment at h
  split at h
  · exact ⟨none, h⟩
  · obtain ⟨top, -, hs⟩ := bind_eq_ok.mp h
    exact ⟨top, hs⟩

theorem fragment_none {c : Component} : fragment settings none c = expression none c := by
  unfold fragment
  split
  · rfl
  · rfl

theorem fragment_some_eq_ok {y : Binary64} {c : Component} (hc : c.isSpacer = false) {s : String} :
    fragment settings (some y) c = .ok s ↔
      ∃ top, topPadding settings y c.position = .ok top ∧ expression (some top) c = .ok s := by
  simp only [fragment, hc, Bool.false_eq_true, if_false, topAbove, bind_eq_ok, map_eq_ok]
  constructor
  · rintro ⟨_, ⟨top, htop, rfl⟩, hs⟩
    exact ⟨top, htop, hs⟩
  · rintro ⟨top, htop, hs⟩
    exact ⟨some top, ⟨top, htop, rfl⟩, hs⟩

theorem isSpaced_of_columnFrom {cs : List Component} {fragments : List String}
    (h : columnFrom settings none cs = .ok fragments) : IsSpaced settings cs fragments where
  length_eq := length_columnFrom h
  spacer i c hc hspacer := by
    obtain ⟨s, hs, hfragment⟩ := fragment_of_columnFrom h hc
    exact ⟨s, hs, fragment_of_isSpacer hspacer ▸ hfragment⟩
  first i c hc _ hfirst := by
    have hi : i ≤ cs.length := Nat.le_of_lt (List.getElem?_eq_some_iff.mp hc).1
    obtain ⟨s, hs, hfragment⟩ := fragment_of_columnFrom h hc
    rw [positionBehind_take_of_spacers hi none hfirst, fragment_none] at hfragment
    exact ⟨s, hs, hfragment⟩
  later i c hc hview j b hj hb hbview hbetween := by
    have hi : i ≤ cs.length := Nat.le_of_lt (List.getElem?_eq_some_iff.mp hc).1
    obtain ⟨s, hs, hfragment⟩ := fragment_of_columnFrom h hc
    rw [positionBehind_take_of_last hi none hj hb hbview hbetween, fragment_some_eq_ok hview]
      at hfragment
    obtain ⟨top, htop, hexpression⟩ := hfragment
    exact ⟨top, s, htop, hs, hexpression⟩

/-- A column that can be written is its fragments with an empty line between neighbours. -/
theorem exists_fragments (hs : settings.hasFinitePadding = true) {cs : List Component}
    (h : ∀ c ∈ cs, c.isWritable = true) :
    ∃ fragments, columnFrom settings none cs = .ok fragments ∧
      column settings cs = .ok ("\n\n".intercalate fragments) := by
  obtain ⟨fragments, hfragments⟩ := exists_columnFrom hs none h
  refine ⟨fragments, hfragments, ?_⟩
  rw [column, hfragments]
  rfl

end

/-- **Columns pass over spacers.** With finite paddings, components that can be written are written with
an empty line between neighbours: a spacer as it is, the first other component without space above it,
and any further one with the space to the last component before it that is no spacer. In any column that
differs in its spacers only, every other component is written the same way. -/
theorem spacers_passed_over (settings : Settings) (cs : List Component)
    (hs : settings.hasFinitePadding = true) (h : ∀ c ∈ cs, c.isWritable = true) :
    ∃ fragments, column settings cs = .ok ("\n\n".intercalate fragments) ∧
      IsSpaced settings cs fragments ∧
      ∀ ds, (∀ d ∈ ds, d.isWritable = true) → unspaced ds = unspaced cs →
        ∃ others, column settings ds = .ok ("\n\n".intercalate others) ∧
          IsSpaced settings ds others ∧
          (ds.zip others).filter (fun p => !p.1.isSpacer) =
            (cs.zip fragments).filter fun p => !p.1.isSpacer := by
  obtain ⟨fragments, hfragments, hcolumn⟩ := exists_fragments hs h
  refine ⟨fragments, hcolumn, isSpaced_of_columnFrom hfragments, fun ds hds hsame => ?_⟩
  obtain ⟨others, hothers, hcolumn'⟩ := exists_fragments hs hds
  refine ⟨others, hcolumn', isSpaced_of_columnFrom hothers, ?_⟩
  -- both are written like the one column that has no spacers
  obtain ⟨kept, hkept, hpairs⟩ := columnFrom_unspaced hfragments
  obtain ⟨kept', hkept', hpairs'⟩ := columnFrom_unspaced hothers
  rw [hsame, hkept] at hkept'
  cases hkept'
  rw [hpairs, hpairs', hsame]

def labelAt (y : Binary64) (text : String) : Component :=
  .control (.label text) ⟨{ Rect.standard with y := y }, "", ""⟩

/-- Two labels, with spacers in front of them, between them and behind them. -/
def spacedLabels : List Component :=
  [.spacer 3 "", labelAt 10 "a", .spacer 500 "", .spacer 7 "", labelAt 30 "b", .spacer 0 ""]

/-- The second label is 20 below the first one, with the spacers and without them. -/
theorem spacers_passed_over_spacedLabels : Settings.standard.hasFinitePadding = true ∧
    (∀ c ∈ spacedLabels, c.isWritable = true) ∧
    ∃ fragments others, column Settings.standard spacedLabels = .ok ("\n\n".intercalate fragments) ∧
      fragments[4]? = some "Text(\"b\")\n    .padding(.top, 20)" ∧
      column Settings.standard (unspaced spacedLabels) = .ok ("\n\n".intercalate others) ∧
      others[1]? = some "Text(\"b\")\n    .padding(.top, 20)" ∧
      ((unspaced spacedLabels).zip others).filter (fun p => !p.1.isSpacer) =
        (spacedLabels.zip fragments).filter fun p => !p.1.isSpacer := by
  have hs : Settings.standard.hasFinitePadding = true := by decide +kernel
  have h : ∀ c ∈ spacedLabels, c.isWritable = true := by decide +kernel
  have htop : topPadding Settings.standard 10 30 = .ok 20 := by decide +kernel
  have htext : expression (some 20) (labelAt 30 "b") = .ok "Text(\"b\")\n    .padding(.top, 20)" := by
    decide +kernel
  obtain ⟨fragments, hcolumn, hspaced, hall⟩ :=
    spacers_passed_over Settings.standard spacedLabels hs h
  obtain ⟨others, hcolumn', hspaced', hpairs⟩ := hall (unspaced spacedLabels) (by decide +kernel) rfl
  refine ⟨hs, h, fragments, others, hcolumn, ?_, hcolumn', ?_, hpairs⟩
  · -- of the components between the labels, numbered 2 and 3, both are spacers
    obtain ⟨top, s, htop', hfragment, hexpression⟩ := hspaced.later 4 (labelAt 30 "b") rfl rfl 1
      (labelAt 10 "a") (by decide) rfl rfl fun k hk hk4 a ha => by
        obtain rfl | rfl : k = 2 ∨ k = 3 := by omega
        · cases ha; rfl
        · cases ha; rfl
    cases htop.symm.trans htop'
    cases htext.symm.trans hexpression
    exact hfragment
  · obtain ⟨top, s, htop', hfragment, hexpression⟩ := hspaced'.later 1 (labelAt 30 "b") rfl rfl 0
      (labelAt 10 "a") (by decide) rfl rfl fun k hk hk1 => by omega
    cases htop.symm.trans htop'
    cases htext.symm.trans hexpression
    exact hfragment

end Storyboard.Swift
