import Storyboard.Proofs.Layout.Extracted
import Storyboard.Proofs.Layout.Numbers
import Storyboard.Proofs.Layout.Screens
import Storyboard.Proofs.Markup.Readable.Document
import Storyboard.Proofs.Number.FloatLiteral
import Storyboard.Proofs.Number.Reading
/-!
# The numbers of sliders and date pickers

A slider takes its number from one text, a date picker from the first of two that spells a numeral, and
both do without any. The number is finite, and then written as a floating-point literal, unless that
numeral is so great that it is rounded to infinity. A date counted from the reference date is no
exception: the reference date is far below half a unit in the last place of the greatest number.

* `Overflows`: a text spells a numeral that is rounded to infinity.
* `isReadFrom_slider`, `isReadFrom_date`: the number is infinite exactly then.
* `numbers_written`: how the number of any slider and any date picker of a document is written.
-/
namespace Storyboard.Swift

open Storyboard.Layout
open Storyboard.Markup
open Storyboard.Number
open Storyboard.Number.Binary64 (overflow)

/-! ## Numbers from texts -/

/-- The text, if there is one, spells the numeral, which is rounded to infinity. -/
def Overflows (text? : Option String) (n : Numeral) : Prop :=
  ∃ text ∈ text?, n.IsSpelled text.toList ∧ overflow ≤ n.magnitude

theorem Overflows.unique {text? : Option String} {m n : Numeral} (hm : Overflows text? m)
    (hn : Overflows text? n) : m = n := by
  obtain ⟨s, hs, hm, -⟩ := hm
  obtain ⟨t, ht, hn, -⟩ := hn
  have hst : s = t := Option.mem_unique hs ht
  have hread := ofChars?_eq_some_iff.mpr hm
  rw [hst, ofChars?_eq_some_iff.mpr hn] at hread
  exact (Option.some.inj hread).symm

/-- A number that is infinite exactly if the text it was read from overflows. -/
inductive IsReadFrom (text? : Option String) : Binary64 → Prop where
  | finite {x : Binary64} : x.isFinite = true → (∀ n, ¬Overflows text? n) → IsReadFrom text? x
  | infinite {n : Numeral} : Overflows text? n → IsReadFrom text? (.infinite n.negative)

theorem IsReadFrom.isFinite_iff {text? : Option String} {x : Binary64} (h : IsReadFrom text? x) :
    x.isFinite = true ↔ ∀ n, ¬Overflows text? n := by
  cases h with
  | finite hx hnone => exact ⟨fun _ => hnone, fun _ => hx⟩
  | infinite hn => exact ⟨fun h => (by cases h), fun h => absurd hn (h _)⟩

theorem IsReadFrom.text_eq {text? : Option String} {x : Binary64} (h : IsReadFrom text? x) {n : Numeral}
    (hn : Overflows text? n) : x.text = if n.negative then "-inf" else "inf" := by
  cases h with
  | finite _ hnone => exact absurd hn (hnone n)
  | infinite hm => rw [hm.unique hn]; rfl

theorem not_overflows {text? : Option String} (h : ∀ text ∈ text?, ¬∃ n : Numeral, n.IsSpelled text.toList)
    (n : Numeral) : ¬Overflows text? n := fun ⟨text, htext, hspelled, _⟩ => h text htext ⟨n, hspelled⟩

theorem isReadFrom_value {text : String} {n : Numeral} (h : n.IsSpelled text.toList) :
    IsReadFrom (some text) n.value := by
  have hround := n.roundsTo_value
  by_cases hover : overflow ≤ n.magnitude
  · rw [hround.eq_infinite hover]
    exact .infinite ⟨text, rfl, h, hover⟩
  · refine .finite (hround.isFinite_iff.mpr (lt_of_not_ge hover)) ?_
    rintro m ⟨_, ⟨⟩, hm, hmover⟩
    have hread := ofChars?_eq_some_iff.mpr hm
    rw [ofChars?_eq_some_iff.mpr h] at hread
    exact hover (Option.some.inj hread ▸ hmover)

/-- Of a text without separators the default is kept, or the text spells the number. -/
theorem readOr_cases {text? : Option String} (h : ∀ text ∈ text?, isUnseparatedText text = true)
    (default : Option Binary64) :
    (Numeral.readOr default text? = .ok default ∧
      ∀ text ∈ text?, ¬∃ n : Numeral, n.IsSpelled text.toList) ∨
    ∃ text n, text? = some text ∧ Numeral.IsSpelled n text.toList ∧
      Numeral.readOr default text? = .ok (some n.value) := by
  cases text? with
  | none => exact .inl ⟨rfl, by simp⟩
  | some text =>
    by_cases hspelled : ∃ n : Numeral, n.IsSpelled text.toList
    · obtain ⟨n, hn⟩ := hspelled
      have hplain : text.toList.any Text.isSeparator = false := by
        simpa [isUnseparatedText] using h text rfl
      refine .inr ⟨text, n, rfl, hn, ?_⟩
      rw [Numeral.readOr, Numeral.read_of_isSpelled hn, if_neg (by rw [hplain]; decide)]
      rfl
    · refine .inl ⟨?_, by simpa using hspelled⟩
      rw [Numeral.readOr, Numeral.read_of_not_isSpelled hspelled]
      rfl

/-! ## Sliders -/

theorem isReadFrom_slider {e : Element} (h : e.isUnseparated = true) {x : Binary64}
    (hx : numberIn e "value" 50 = .ok x) : IsReadFrom (e.attribute? "value") x := by
  have hunseparated : ∀ text ∈ e.attribute? "value", isUnseparatedText text = true :=
    fun _ => isUnseparated_attribute h
  unfold numberIn at hx
  rcases readOr_cases hunseparated (some 50) with ⟨hread, hnone⟩ | ⟨text, n, htext, hn, hread⟩
  · rw [hread] at hx
    cases hx
    exact .finite (by decide) (not_overflows hnone)
  · rw [hread] at hx
    cases hx
    exact htext ▸ isReadFrom_value hn

/-! ## Date pickers -/

/-- The text that a date picker takes its date from: its time stamp if that is a numeral, and else the
interval of its date. -/
def dateText? (e : Element) : Option String :=
  ((e.attribute? "timestamp").filter fun text => (Numeral.ofChars? text.toList).isSome) <|>
    (e.firstChildWith? "date" [("key", "date")]).bind (·.attribute? "timeIntervalSinceReferenceDate")

/-- A sum of which one side is small beside the last place of the greatest number does not overflow. -/
theorem isFinite_add {x y : Binary64} (hx : x.isFinite = true) (hy : y.isFinite = true)
    (hxmost : |x.value| ≤ (2 ^ 53 - 1) * 2 ^ Binary64.greatestExponent)
    (hymost : |y.value| < 1 / 2 * 2 ^ Binary64.greatestExponent) : (x + y).isFinite = true := by
  obtain ⟨negative, hround, -⟩ := Binary64.roundsTo_add hx hy
  refine hround.isFinite_iff.mpr ?_
  calc |x.value + y.value| ≤ |x.value| + |y.value| := abs_add_le _ _
    _ < (2 ^ 53 - 1) * 2 ^ Binary64.greatestExponent + 1 / 2 * 2 ^ Binary64.greatestExponent :=
      add_lt_add_of_le_of_lt hxmost hymost
    _ = overflow := by rw [overflow]; ring

theorem isFinite_referenceDate : referenceDate.isFinite = true ∧
    |referenceDate.value| < 1 / 2 * 2 ^ Binary64.greatestExponent := by
  have hdate := Binary64.isInteger_ofInt (n := 978307200) (by decide)
  have hvalue : |referenceDate.value| = 978307200 := by
    rw [show referenceDate.value = ((978307200 : Int) : ℚ) from hdate.value]
    norm_num
  refine ⟨hdate.isFinite, ?_⟩
  have hpow : (2 : ℚ) ^ (31 : Int) ≤ 2 ^ Binary64.greatestExponent :=
    zpow_le_zpow_right₀ one_le_two (by decide)
  rw [hvalue]
  norm_num at hpow ⊢
  linarith

theorem isReadFrom_add_referenceDate {text : String} {n : Numeral} (h : n.IsSpelled text.toList) :
    IsReadFrom (some text) (n.value + referenceDate) := by
  obtain ⟨hdate, hsmall⟩ := isFinite_referenceDate
  have hvalue := isReadFrom_value h
  have hround := n.roundsTo_value
  generalize n.value = x at hvalue hround ⊢
  cases hvalue with
  | finite hx hnone => exact .finite (isFinite_add hx hdate hround.abs_value_le hsmall) hnone
  | infinite hover => exact .infinite hover

theorem isReadFrom_date {now : Binary64} (hnow : now.isFinite = true) {e : Element}
    (h : e.isUnseparated = true) {x : Binary64} (hx : dateOf now e = .ok x) :
    IsReadFrom (dateText? e) x := by
  have hstamp : ∀ text ∈ e.attribute? "timestamp", isUnseparatedText text = true :=
    fun _ => isUnseparated_attribute h
  have hinterval : ∀ text ∈ (e.firstChildWith? "date" [("key", "date")]).bind
      (·.attribute? "timeIntervalSinceReferenceDate"), isUnseparatedText text = true := by
    intro text htext
    obtain ⟨date, hdate, hvalue⟩ := Option.bind_eq_some_iff.mp htext
    exact isUnseparated_attribute (isUnseparated_firstChildWith h hdate) hvalue
  simp only [dateOf, bind_eq_ok] at hx
  obtain ⟨stamp?, hread, hx⟩ := hx
  unfold dateText?
  rcases readOr_cases hstamp none with ⟨hkept, hnone⟩ | ⟨text, n, htext, hn, hstated⟩
  · have hskipped : (e.attribute? "timestamp").filter
        (fun text => (Numeral.ofChars? text.toList).isSome) = none := by
      refine Option.filter_eq_none_iff.mpr fun text htext hsome => ?_
      obtain ⟨n, hn⟩ := Option.isSome_iff_exists.mp hsome
      exact hnone text htext ⟨n, ofChars?_eq_some_iff.mp hn⟩
    cases hkept.symm.trans hread
    simp only [bind_eq_ok] at hx
    obtain ⟨interval?, hread, hx⟩ := hx
    rw [hskipped]
    rcases readOr_cases hinterval none with ⟨hkept, hnone⟩ | ⟨text, n, htext, hn, hstated⟩
    · cases hkept.symm.trans hread
      rw [pure_eq_ok] at hx
      exact hx ▸ .finite hnow (not_overflows hnone)
    · cases hstated.symm.trans hread
      rw [pure_eq_ok] at hx
      rw [htext]
      exact hx ▸ isReadFrom_add_referenceDate hn
  · cases hstated.symm.trans hread
    rw [pure_eq_ok] at hx
    have htaken : (e.attribute? "timestamp").filter
        (fun text => (Numeral.ofChars? text.toList).isSome) = some text := by
      rw [htext]
      exact Option.filter_some_pos (by rw [ofChars?_eq_some_iff.mpr hn]; rfl)
    rw [htaken]
    exact hx ▸ isReadFrom_value hn

/-! ## Views -/

/-- The component of an element that is a control. -/
theorem exists_control_component (now : Binary64) {e : Element} (h : e.isUnseparated = true) {rule : Rule}
    (hstack : isStackName e.name = false) (hrule : rule? e.name = some rule) :
    ∃ kind p, component? now e = .ok (some (.control kind p)) ∧ rule now e = .ok kind := by
  obtain ⟨c?, hc, -⟩ := exists_component? now h
  rcases component?_cases hc with
    ⟨hname, -⟩ | ⟨-, found, kind, p, hfound, hkind, -, rfl⟩ | ⟨hmapped, -⟩
  · rw [hstack] at hname
    cases hname
  · cases hrule.symm.trans hfound
    exact ⟨kind, p, hc, hkind⟩
  · simp [isMapped, hrule] at hmapped

/-- **How the numbers of a document are written.** Each slider and each date picker has a view that holds
one number. That is a floating-point literal unless the text it comes from spells a numeral that is rounded
to infinity, and a word for infinity of that sign then; no number is undefined. -/
theorem numbers_written {bytes : List UInt8} {d : Document} (hd : Document.ofBytes bytes = .ok d)
    {now : Binary64} (hnow : now.isFinite = true) {s : Site} (hs : s ∈ d.sites) (top : Option Int) :
    (s.name = "slider" → ∃ x p, component? now s.element = .ok (some (.control (.slider x) p)) ∧
      expression top (.control (.slider x) p) =
        .ok (withModifiers ("Slider(value: .constant(" ++ x.text ++ "), in: 0...100)")
          (allModifiers [] top p.constraints)) ∧
      (IsFloatLiteral x.text.toList ↔ ∀ n, ¬Overflows (s.attribute? "value") n) ∧
      ∀ n, Overflows (s.attribute? "value") n → x.text = if n.negative then "-inf" else "inf") ∧
    (s.name = "datePicker" → ∃ x p, component? now s.element = .ok (some (.control (.datePicker x) p)) ∧
      expression top (.control (.datePicker x) p) =
        .ok (withModifiers ("DatePicker(\"Select Date\", selection: .constant(Date(timeIntervalSince1970: " ++
          x.text ++ ")))") (allModifiers [".datePickerStyle(.compact)"] top p.constraints)) ∧
      (IsFloatLiteral x.text.toList ↔ ∀ n, ¬Overflows (dateText? s.element) n) ∧
      ∀ n, Overflows (dateText? s.element) n → x.text = if n.negative then "-inf" else "inf") := by
  have hunseparated := Document.isUnseparated_sites (isUnseparated_ofBytes hd) s hs
  constructor
  · intro hname
    obtain ⟨kind, p, hc, hkind⟩ := exists_control_component now hunseparated
      (by rw [show s.element.name = "slider" from hname]; decide)
      (by rw [show s.element.name = "slider" from hname]; rfl)
    simp only [bind_eq_ok, pure_eq_ok] at hkind
    obtain ⟨x, hx, rfl⟩ := hkind
    have hread := isReadFrom_slider hunseparated hx
    exact ⟨x, p, hc, rfl, isFloatLiteral_text_iff.trans hread.isFinite_iff, fun _ => hread.text_eq⟩
  · intro hname
    obtain ⟨kind, p, hc, hkind⟩ := exists_control_component now hunseparated
      (by rw [show s.element.name = "datePicker" from hname]; decide)
      (by rw [show s.element.name = "datePicker" from hname]; rfl)
    simp only [bind_eq_ok, pure_eq_ok] at hkind
    obtain ⟨x, hx, rfl⟩ := hkind
    have hread := isReadFrom_date hnow hunseparated hx
    exact ⟨x, p, hc, rfl, isFloatLiteral_text_iff.trans hread.isFinite_iff, fun _ => hread.text_eq⟩

/-- A slider far below all finite numbers, and a date picker whose time stamp is no numeral. -/
def farSlider : String :=
  "<d><slider value='-1e400'/><datePicker timestamp='now'>" ++
    "<date key='date' timeIntervalSinceReferenceDate='1e22'/></datePicker></d>"

theorem numbers_written_farSlider : ∃ d slider picker x p y q, Document.ofText farSlider = .ok d ∧
    slider ∈ d.sites ∧ component? 42 slider.element = .ok (some (.control (.slider x) p)) ∧
    x.text = "-inf" ∧ (∃ n, Overflows (slider.attribute? "value") n) ∧
    picker ∈ d.sites ∧ component? 42 picker.element = .ok (some (.control (.datePicker y) q)) ∧
    y.text = "1.0000000000000977e+22" ∧ ∀ n, ¬Overflows (dateText? picker.element) n := by
  have hread : (Document.ofText farSlider).toOption.map (fun d => d.sites.map fun s =>
      (s.name, (component? 42 s.element).toOption.join.bind fun c => c.numbers.getLast?.map Binary64.text)) =
      some [("d", none), ("slider", some "-inf"), ("datePicker", some "1.0000000000000977e+22"),
        ("date", none)] := by
    decide +kernel
  cases hd : Document.ofText farSlider with
  | error fault =>
    rw [hd] at hread
    cases hread
  | ok d =>
    rw [hd] at hread
    simp only [Except.toOption, Option.map_some, Option.some.injEq, List.map_eq_cons_iff, Prod.mk.injEq]
      at hread
    obtain ⟨_, _, hsites, -, slider, _, rfl, ⟨hslider, hx⟩, picker, _, rfl, ⟨hpicker, hy⟩, -⟩ := hread
    have hwritten := fun s (hs : s ∈ d.sites) =>
      @numbers_written (Text.utf8 (String.ofList (Text.trim farSlider.toList))) d hd 42 (by decide) s hs none
    have hmems : slider ∈ d.sites ∧ picker ∈ d.sites := by simp [hsites]
    obtain ⟨x, p, hc, -, hliteral, -⟩ := (hwritten slider hmems.1).1 hslider
    obtain ⟨y, q, hc', -, hliteral', -⟩ := (hwritten picker hmems.2).2 hpicker
    have hx : x.text = "-inf" := by
      simpa [hc, Except.toOption, Component.numbers, Rect.numbers, Control.numbers] using hx
    have hy : y.text = "1.0000000000000977e+22" := by
      simpa [hc', Except.toOption, Component.numbers, Rect.numbers, Control.numbers] using hy
    refine ⟨d, slider, picker, x, p, y, q, rfl, hmems.1, hc, hx, ?_, hmems.2, hc', hy, ?_⟩
    · by_contra hnone
      have hletterless := (hliteral.mpr fun n hn => hnone ⟨n, hn⟩).letterless
      rw [hx] at hletterless
      exact hletterless (by decide)
    · refine hliteral'.mp (isFloatLiteral_text_iff.mpr ?_)
      cases y with
      | finite => rfl
      | undefined => exact absurd hy (by decide)
      | infinite negative => cases negative <;> exact absurd hy (by decide)

/-- An infinite slider is no literal. -/
theorem infinite_slider_written : ∃ d c, Document.ofText "<slider value='1e400'/>" = .ok d ∧
    component? 42 d.root = .ok (some c) ∧
    expression none c = .ok "Slider(value: .constant(inf), in: 0...100)" ∧
    ¬IsFloatLiteral "inf".toList := by
  have hread : ((Document.ofText "<slider value='1e400'/>").toOption.bind fun d =>
      (component? 42 d.root).toOption.bind fun c? => c?.bind fun c => (expression none c).toOption) =
      some "Slider(value: .constant(inf), in: 0...100)" := by
    decide +kernel
  cases hd : Document.ofText "<slider value='1e400'/>" with
  | error fault =>
    rw [hd] at hread
    cases hread
  | ok d =>
    cases hc : component? 42 d.root with
    | error cause => simp [hd, hc, Except.toOption] at hread
    | ok c? =>
      cases c? with
      | none => simp [hd, hc, Except.toOption] at hread
      | some c =>
        cases he : expression none c with
        | error cause => simp [hd, hc, he, Except.toOption] at hread
        | ok text =>
          simp only [hd, hc, he, Except.toOption, Option.bind_some, Option.some.injEq] at hread
          exact ⟨d, c, rfl, hc, by rw [he, hread], fun h => h.letterless (by decide)⟩

end Storyboard.Swift
