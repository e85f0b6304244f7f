import Storyboard.Conversion.Flow
import Storyboard.Proofs.Number.Characters
import Storyboard.Proofs.Swift.Payloads
import Storyboard.Proofs.Swift.Writable
import Storyboard.Proofs.Text.Joining
/-!
# Printing in one pass

A screen is written from the inside out: each level of the component tree is one text that the level
around it cuts into lines, indents and joins again. The same text comes out of a printer that goes over
the tree once and puts each line where it belongs, four spaces in for each level.

* `lineAt`, `printed`, `printedBody`: the printer, line by line.
* `printed_shift`: a component that stands deeper is the same lines further in.
* `expression_eq_joined`, `screenBody_eq_joined`: the lines joined are the expression and the body.
* `linesText_bodyLines`: a body that is moved into a file is printed where it is moved to.
-/
namespace Storyboard.Swift

open Storyboard.Layout
open Storyboard.Number (Binary64)
open Storyboard.Text

/-! ## The printer -/

/-- A line `depth` levels deep, each of which is four spaces. -/
def lineAt (depth : Nat) (s : String) : String := padded (4 * depth) s

def printedBlock (depth : Nat) (head : String) (content : List String) : List String :=
  lineAt depth (head ++ " \x7b") :: content ++ [lineAt depth "\x7d"]

/-- The lines of the view that a picker holds. -/
def printedLoop (depth : Nat) (options : List String) : List String :=
  [lineAt depth ("ForEach(0..<" ++ toString options.length ++ ", id: \\.self) \x7b index in"),
    lineAt (depth + 1) ("Text([" ++ ", ".intercalate (options.map literal) ++ "][index])"),
    lineAt depth "\x7d"]

/-- The lines of a control, without its modifiers. -/
def printedView (depth : Nat) : Control → List String
  | .label text => [lineAt depth ("Text(" ++ literal text ++ ")")]
  | .button title =>
    printedBlock depth ("Button(action: \x7b print(" ++ literal (title ++ " tapped!") ++ ") \x7d)")
      [lineAt (depth + 1) ("Text(" ++ literal title ++ ")")]
  | .textField placeholder =>
    [lineAt depth ("TextField(" ++ literal placeholder ++ ", text: .constant(\"\"))")]
  | .image name => [lineAt depth ("Image(" ++ literal name ++ ")")]
  | .textView text => [lineAt depth ("TextEditor(text: .constant(" ++ literal text ++ "))")]
  | .slider value => [lineAt depth ("Slider(value: .constant(" ++ value.text ++ "), in: 0...100)")]
  | .toggle isOn =>
    printedBlock depth ("Toggle(isOn: .constant(" ++ boolText isOn ++ "))")
      [lineAt (depth + 1) "Text(\"Toggle\")"]
  | .picker options =>
    printedBlock depth "Picker(\"Select\", selection: .constant(0))" (printedLoop (depth + 1) options)
  | .datePicker timestamp =>
    [lineAt depth ("DatePicker(\"Select Date\", selection: .constant(Date(timeIntervalSince1970: " ++
      timestamp.text ++ ")))")]
  | .table => printedBlock depth "List" []
  | .scroll => printedBlock depth "ScrollView" []
  | .unknown => []

/-- The integer part of a finite number. -/
def wholePart (x : Binary64) : Int :=
  match x.truncate with
  | .ok n => n
  | .error _ => 0

mutual

/-- The lines of a component, `top` points below the one before it. -/
def printed (depth : Nat) (top : Option Int) : Component → List String
  | .control kind p =>
    printedView depth kind ++
      (allModifiers (fixedModifiers kind) top p.constraints).map (lineAt (depth + 1))
  | .stack axis p children =>
    printedBlock depth (stackName axis) (printedAll (depth + 1) children) ++
      (allModifiers [] top p.constraints).map (lineAt (depth + 1))
  | .spacer height _ =>
    [lineAt depth ("Spacer().padding(.vertical, " ++ toString (wholePart height) ++ ")")]

/-- The lines of the children of a stack, in order. -/
def printedAll (depth : Nat) : List Component → List String
  | [] => []
  | c :: rest => printed depth none c ++ printedAll depth rest

end

/-- The space between two positions, held within the bounds of the settings. -/
def heldPadding (settings : Settings) (previous current : Binary64) : Int :=
  wholePart (Binary64.larger settings.minTopPadding
    (Binary64.smaller settings.maxTopPadding (current - previous)))

/-- The lines of each component of a column, below a component at the position `previous`. -/
def printedColumn (depth : Nat) (settings : Settings) (previous : Option Binary64) :
    List Component → List (List String)
  | [] => []
  | .spacer height id :: rest =>
    printed depth none (.spacer height id) :: printedColumn depth settings previous rest
  | c :: rest =>
    printed depth (previous.map fun y => heldPadding settings y c.position) c ::
      printedColumn depth settings (some c.position) rest

/-- The lines of the components that no stack among them draws, with an empty line between
neighbours. -/
def printedBody (depth : Nat) (settings : Settings) (cs : List Component) : List String :=
  [""].intercalate (printedColumn depth settings none (unowned cs))

/-! ## Deeper -/

theorem lineAt_lineAt (k d : Nat) (s : String) : lineAt k (lineAt d s) = lineAt (k + d) s := by
  apply String.toList_inj.mp
  simp [lineAt, padded, spaces, Nat.mul_add, ← List.replicate_append_replicate]

@[simp] theorem lineAt_zero (s : String) : lineAt 0 s = s := by
  simp [lineAt, padded, spaces]

theorem printedBlock_shift (k d : Nat) (head : String) (content : List String) :
    printedBlock (k + d) head (content.map (lineAt k)) = (printedBlock d head content).map (lineAt k) := by
  simp [printedBlock, lineAt_lineAt]

theorem printedLoop_shift (k d : Nat) (options : List String) :
    printedLoop (k + d) options = (printedLoop d options).map (lineAt k) := by
  simp [printedLoop, lineAt_lineAt, Nat.add_assoc]

theorem printedView_shift (k d : Nat) (kind : Control) :
    printedView (k + d) kind = (printedView d kind).map (lineAt k) := by
  cases kind <;>
    simp [printedView, printedBlock, lineAt_lineAt, Nat.add_assoc, ← printedLoop_shift]

theorem map_lineAt_shift (k d : Nat) (ls : List String) :
    ls.map (lineAt (k + d + 1)) = (ls.map (lineAt (d + 1))).map (lineAt k) := by
  simp [lineAt_lineAt, Nat.add_assoc]

mutual

/-- A component `k` levels deeper is its lines `k` levels further in. -/
theorem printed_shift (k d : Nat) (top : Option Int) : ∀ c : Component,
    printed (k + d) top c = (printed d top c).map (lineAt k)
  | .control kind p => by
    rw [printed, printed, List.map_append, printedView_shift, map_lineAt_shift]
  | .stack axis p children => by
    rw [printed, printed, List.map_append, Nat.add_assoc k d 1, printedAll_shift k (d + 1) children,
      printedBlock_shift, ← Nat.add_assoc, map_lineAt_shift]
  | .spacer height id => by
    rw [printed, printed, List.map_singleton, lineAt_lineAt]

theorem printedAll_shift (k d : Nat) : ∀ cs : List Component,
    printedAll (k + d) cs = (printedAll d cs).map (lineAt k)
  | [] => rfl
  | c :: rest => by
    rw [printedAll, printedAll, List.map_append, printed_shift k d none c, printedAll_shift k d rest]

end

theorem printedColumn_shift (k d : Nat) (settings : Settings) (previous : Option Binary64)
    (cs : List Component) : printedColumn (k + d) settings previous cs =
      (printedColumn d settings previous cs).map (List.map (lineAt k)) := by
  induction cs generalizing previous with
  | nil => rfl
  | cons c rest ih => cases c <;> simp only [printedColumn, List.map_cons, printed_shift k d, ih]

/-! ## Texts without line breaks -/

/-- No character of a number breaks a line. -/
theorem isUnbroken_of_isWritten {s : List Char} (h : Number.IsWritten s) : IsUnbroken s := by
  intro c hc
  rcases Bool.or_eq_true_iff.mp (h c hc) with hdigit | hother
  · simp only [Char.isDigit, Bool.and_eq_true, decide_eq_true_eq] at hdigit
    have hrange : 48 ≤ c.toNat ∧ c.toNat ≤ 57 := hdigit
    simp only [isLineBreak, inRanges, List.any_cons, List.any_nil, Bool.or_false,
      Bool.or_eq_false_iff, Bool.and_eq_false_iff, decide_eq_false_iff_not]
    omega
  · have hothers : ['.', '-', '+', 'e', 'i', 'n', 'f', 'a'].any isLineBreak = false := by decide
    rw [List.any_eq_false] at hothers
    exact Bool.eq_false_iff.mpr (hothers c (by simpa using hother))

theorem isUnbroken_numberText (x : Binary64) : IsUnbroken x.text.toList :=
  isUnbroken_of_isWritten (Number.isWritten_text x)

theorem isUnbroken_toString_nat (n : Nat) : IsUnbroken (toString n).toList :=
  isUnbroken_of_isWritten (Number.isWritten_toString_nat n)

theorem isUnbroken_toString_int (n : Int) : IsUnbroken (toString n).toList :=
  isUnbroken_of_isWritten (Number.isWritten_toString_int n)

theorem isUnbroken_literal {s : String} (h : IsUnbroken s.toList) : IsUnbroken (literal s).toList := by
  rw [literal, String.toList_append, String.toList_append]
  exact isUnbroken_append.mpr ⟨isUnbroken_append.mpr ⟨by decide, h⟩, by decide⟩

theorem isUnbroken_commaSeparated {ss : List String} (h : ∀ s ∈ ss, IsUnbroken s.toList) :
    IsUnbroken (", ".intercalate ss).toList := by
  rw [String.toList_intercalate]
  induction ss with
  | nil => decide
  | cons s rest ih =>
    obtain ⟨hs, hrest⟩ := List.forall_mem_cons.mp h
    cases rest with
    | nil => simpa using hs
    | cons t more =>
      rw [List.map_cons, List.map_cons, List.intercalate_cons_cons, ← List.map_cons]
      exact isUnbroken_append.mpr ⟨isUnbroken_append.mpr ⟨hs, by decide⟩, ih hrest⟩

/-! ## Printed lines -/

theorem inked_lineAt {s : String} (h : IsInkedLine s) (depth : Nat) : IsInkedLine (lineAt depth s) :=
  h.prepend (by simpa using isUnbroken_spaces (4 * depth))

/-- A text between two pieces of code, the first of which can be seen. -/
theorem inked_between {front back : String} (hfront : IsInkedLine front)
    (hback : IsUnbroken back.toList) {s : String} (hs : IsUnbroken s.toList) :
    IsInkedLine (front ++ s ++ back) := (hfront.append hs).append hback

theorem inked_printedBlock {depth : Nat} {head : String} {content : List String}
    (hhead : IsInkedLine head) (hcontent : ∀ l ∈ content, IsInkedLine l) :
    ∀ l ∈ printedBlock depth head content, IsInkedLine l := by
  intro l hl
  rcases List.mem_append.mp hl with hl | hl
  · rcases List.mem_cons.mp hl with rfl | hl
    · exact inked_lineAt (hhead.append (by decide)) depth
    · exact hcontent l hl
  · rw [List.mem_singleton.mp hl]
    exact inked_lineAt (by decide) depth

theorem inked_chosen {options : List String} (h : ∀ s ∈ options, IsUnbroken s.toList) :
    IsInkedLine ("Text([" ++ ", ".intercalate (options.map literal) ++ "][index])") :=
  inked_between (by decide) (by decide) (isUnbroken_commaSeparated
    (List.forall_mem_map.mpr fun s hs => isUnbroken_literal (h s hs)))

theorem inked_printedLoop {options : List String} (h : ∀ s ∈ options, IsUnbroken s.toList)
    (depth : Nat) : ∀ l ∈ printedLoop depth options, IsInkedLine l :=
  List.forall_mem_cons.mpr
    ⟨inked_lineAt (inked_between (by decide) (by decide) (isUnbroken_toString_nat _)) _,
      List.forall_mem_cons.mpr ⟨inked_lineAt (inked_chosen h) _,
        List.forall_mem_singleton.mpr (inked_lineAt (by decide) _)⟩⟩

theorem inked_printedView {depth : Nat} {kind : Control}
    (h : ∀ s ∈ Control.texts kind, IsUnbroken s.toList) :
    ∀ l ∈ printedView depth kind, IsInkedLine l := by
  have hone : ∀ {d : Nat} {s : String}, IsInkedLine s → ∀ l ∈ [lineAt d s], IsInkedLine l :=
    fun hs => List.forall_mem_singleton.mpr (inked_lineAt hs _)
  cases kind with
  | label text | textField text | image text | textView text =>
    exact hone (inked_between (by decide) (by decide) (isUnbroken_literal (h text List.mem_cons_self)))
  | button title =>
    obtain ⟨htapped, htitle⟩ := List.forall_mem_cons.mp h
    exact inked_printedBlock (inked_between (by decide) (by decide) (isUnbroken_literal htapped))
      (hone (inked_between (by decide) (by decide)
        (isUnbroken_literal (htitle title List.mem_cons_self))))
  | slider x | datePicker x =>
    exact hone (inked_between (by decide) (by decide) (isUnbroken_numberText x))
  | toggle isOn =>
    refine inked_printedBlock (inked_between (by decide) (by decide) ?_) (hone (by decide))
    cases isOn <;> decide
  | picker options => exact inked_printedBlock (by decide) (inked_printedLoop h _)
  | table | scroll => exact inked_printedBlock (by decide) fun l hl => absurd hl List.not_mem_nil
  | unknown => exact fun l hl => absurd hl List.not_mem_nil

theorem inked_allModifiers {fixed : List String} (hfixed : ∀ m ∈ fixed, IsInkedLine m)
    (top : Option Int) (constraints : String) :
    ∀ m ∈ allModifiers fixed top constraints, IsInkedLine m := by
  intro m hm
  rcases List.mem_append.mp hm with hm | hm
  · rcases List.mem_append.mp hm with hm | hm
    · exact hfixed m hm
    · cases top with
      | none => cases hm
      | some n =>
        rw [List.mem_singleton.mp hm]
        exact inked_between (by decide) (by decide) (isUnbroken_toString_int n)
  · exact isInkedLine_of_mem_inkedLines hm

theorem inked_fixedModifiers (kind : Control) : ∀ m ∈ fixedModifiers kind, IsInkedLine m := by
  cases kind <;> simp only [fixedModifiers] <;> decide

theorem inked_map_lineAt {ls : List String} (h : ∀ l ∈ ls, IsInkedLine l) (depth : Nat) :
    ∀ l ∈ ls.map (lineAt depth), IsInkedLine l := List.forall_mem_map.mpr fun l hl =>
  inked_lineAt (h l hl) depth

theorem inked_stackName (axis : Axis) : IsInkedLine (stackName axis) := by cases axis <;> decide

mutual

/-- Each line of a component has something on it, and no break in it. -/
theorem inked_printed {depth : Nat} {top : Option Int} : ∀ {c : Component},
    (∀ s ∈ Component.texts c, IsUnbroken s.toList) → ∀ l ∈ printed depth top c, IsInkedLine l
  | .control kind p, h => by
    rw [printed]
    exact List.forall_mem_append.mpr ⟨inked_printedView h,
      inked_map_lineAt (inked_allModifiers (inked_fixedModifiers kind) top p.constraints) _⟩
  | .stack axis p children, h => by
    rw [printed]
    exact List.forall_mem_append.mpr
      ⟨inked_printedBlock (inked_stackName axis) (inked_printedAll h),
        inked_map_lineAt (inked_allModifiers (by simp) top p.constraints) _⟩
  | .spacer height id, _ => by
    rw [printed, List.forall_mem_singleton]
    exact inked_lineAt (inked_between (by decide) (by decide) (isUnbroken_toString_int _)) _

theorem inked_printedAll {depth : Nat} : ∀ {cs : List Component},
    (∀ s ∈ textsIn cs, IsUnbroken s.toList) → ∀ l ∈ printedAll depth cs, IsInkedLine l
  | [], _ => fun l hl => absurd hl List.not_mem_nil
  | c :: rest, h => by
    obtain ⟨hc, hrest⟩ := List.forall_mem_append.mp h
    exact List.forall_mem_append.mpr ⟨inked_printed hc, inked_printedAll hrest⟩

end

/-! ## The joined lines -/

theorem block_joined (head : String) {content : List String} (h : ∀ l ∈ content, IsInkedLine l) :
    block head (joined content) = joined (printedBlock 0 head (content.map (lineAt 1))) := by
  have hempty := joined_isEmpty content fun l hl => (h l (List.mem_of_mem_head? hl)).ne_empty
  unfold block printedBlock
  by_cases hnil : content = []
  · rw [if_pos (hempty.mpr hnil), hnil]
    simp only [List.map_nil, List.cons_append, List.nil_append, joined_cons_cons, joined_singleton,
      lineAt_zero, String.append_assoc]
    rfl
  · rw [if_neg (mt hempty.mp hnil), indent_joined 4 h, joined_append (List.cons_ne_nil _ _)
      (List.cons_ne_nil _ _), ← List.singleton_append, joined_append (List.cons_ne_nil _ _) (by simpa)]
    simp only [joined_singleton, lineAt_zero, String.append_assoc]
    rfl

theorem withModifiers_joined {body : List String} (hbody : body ≠ []) {modifiers : List String}
    (h : ∀ m ∈ modifiers, IsInkedLine m) :
    withModifiers (joined body) modifiers = joined (body ++ modifiers.map (lineAt 1)) := by
  unfold withModifiers
  by_cases hnil : modifiers = []
  · rw [if_pos (List.isEmpty_iff.mpr hnil), hnil, List.map_nil, List.append_nil]
  · rw [if_neg (mt List.isEmpty_iff.mp hnil), ← joined, indent_joined 4 h,
      joined_append hbody (by simpa)]
    rfl

theorem printedView_ne_nil {kind : Control} (h : kind.isKnown = true) (depth : Nat) :
    printedView depth kind ≠ [] := by
  cases kind with
  | unknown => cases h
  | _ => exact List.cons_ne_nil _ _

theorem printed_ne_nil {depth : Nat} {top : Option Int} : ∀ {c : Component}, c.isWritable = true →
    printed depth top c ≠ []
  | .control kind p, h => by
    rw [printed]
    exact List.append_ne_nil_of_left_ne_nil (printedView_ne_nil h depth) _
  | .stack axis p children, _ => by
    rw [printed]
    exact List.cons_ne_nil _ _
  | .spacer height id, _ => by
    rw [printed]
    exact List.cons_ne_nil _ _

theorem optionLoop_eq_joined {options : List String} (h : ∀ s ∈ options, IsUnbroken s.toList) :
    optionLoop options = joined (printedLoop 0 options) := by
  have hindent := indent_joined 4 (List.forall_mem_singleton.mpr (inked_chosen h))
  rw [joined_singleton, List.map_singleton, joined_singleton] at hindent
  have hcut : (", id: \\.self) \x7b index in\n" : String) = ", id: \\.self) \x7b index in" ++ "\n" := rfl
  have hend : ("\n\x7d" : String) = "\n" ++ "\x7d" := rfl
  rw [optionLoop, hindent, printedLoop, joined_cons_cons, joined_cons_cons, joined_singleton, hcut, hend]
  simp only [lineAt_zero, String.append_assoc]
  rfl

theorem viewOf_eq_joined {kind : Control} (hknown : kind.isKnown = true)
    (h : ∀ s ∈ Control.texts kind, IsUnbroken s.toList) :
    viewOf kind = .ok (joined (printedView 0 kind)) := by
  cases kind with
  | label | textField | image | textView | slider | datePicker =>
    rw [viewOf, printedView, joined_singleton, lineAt_zero]
  | button title =>
    have hline : IsInkedLine ("Text(" ++ literal title ++ ")") := inked_between (by decide) (by decide)
      (isUnbroken_literal (h title (List.mem_cons_of_mem _ List.mem_cons_self)))
    have hblock := block_joined ("Button(action: \x7b print(" ++ literal (title ++ " tapped!") ++
      ") \x7d)") (List.forall_mem_singleton.mpr hline)
    rw [joined_singleton] at hblock
    rw [viewOf, hblock]
    rfl
  | toggle isOn =>
    have hline : IsInkedLine "Text(\"Toggle\")" := by decide
    have hblock := block_joined ("Toggle(isOn: .constant(" ++ boolText isOn ++ "))")
      (List.forall_mem_singleton.mpr hline)
    rw [joined_singleton] at hblock
    rw [viewOf, hblock]
    rfl
  | picker options =>
    have h : ∀ s ∈ options, IsUnbroken s.toList := h
    rw [viewOf, optionLoop_eq_joined h, block_joined _ (inked_printedLoop h 0), ← printedLoop_shift]
    rfl
  | table | scroll =>
    have hnone : ∀ l ∈ ([] : List String), IsInkedLine l := by simp
    exact congrArg Except.ok (block_joined _ hnone)
  | unknown => cases hknown

theorem printedAll_eq_flatten (depth : Nat) : ∀ cs : List Component,
    printedAll depth cs = (cs.map (printed depth none)).flatten
  | [] => rfl
  | c :: rest => by
    rw [printedAll, printedAll_eq_flatten depth rest, List.map_cons, List.flatten_cons]

theorem joined_printedAll {cs : List Component} (h : areWritable cs = true) :
    joined (cs.map fun c => joined (printed 0 none c)) = joined (printedAll 0 cs) := by
  rw [printedAll_eq_flatten, ← joined_flatten, List.map_map]
  · rfl
  · exact List.forall_mem_map.mpr fun c hc => printed_ne_nil (areWritable_iff.mp h c hc)

mutual

/-- The expression of a component is its lines, printed at depth zero and joined. -/
theorem expression_eq_joined (top : Option Int) : ∀ {c : Component}, c.isWritable = true →
    (∀ s ∈ Component.texts c, IsUnbroken s.toList) → expression top c = .ok (joined (printed 0 top c))
  | .control kind p, hwritable, htexts => by
    rw [expression, viewOf_eq_joined hwritable htexts, printed]
    exact congrArg Except.ok (withModifiers_joined (printedView_ne_nil hwritable 0)
      (inked_allModifiers (inked_fixedModifiers kind) top p.constraints))
  | .stack axis p children, hwritable, htexts => by
    rw [expression, expressions_eq_joined hwritable htexts, printed, printedAll_shift 1 0]
    have hnil : printedBlock 0 (stackName axis) ((printedAll 0 children).map (lineAt 1)) ≠ [] :=
      List.cons_ne_nil _ _
    rw [← withModifiers_joined hnil (inked_allModifiers (by simp) top p.constraints),
      ← block_joined _ (inked_printedAll htexts), ← joined_printedAll hwritable]
    rfl
  | .spacer height id, hwritable, _ => by
    obtain ⟨n, hn⟩ := Binary64.truncate_isOk_iff.mpr hwritable
    have hwhole : wholePart height = n := by rw [wholePart, hn]
    rw [expression, integerPart_eq_ok.mpr hn, printed, joined_singleton, lineAt_zero, hwhole]
    rfl

theorem expressions_eq_joined : ∀ {cs : List Component}, areWritable cs = true →
    (∀ s ∈ textsIn cs, IsUnbroken s.toList) →
      expressions cs = .ok (cs.map fun c => joined (printed 0 none c))
  | [], _, _ => rfl
  | c :: rest, hwritable, htexts => by
    rw [areWritable, Bool.and_eq_true] at hwritable
    obtain ⟨hc, hrest⟩ := List.forall_mem_append.mp htexts
    rw [expressions, expression_eq_joined none hwritable.1 hc,
      expressions_eq_joined hwritable.2 hrest]
    rfl

end

/-! ## Columns -/

/-- The texts that the components quote have no line breaks. -/
def AreUnbroken (cs : List Component) : Prop := ∀ s ∈ textsIn cs, IsUnbroken s.toList

theorem topAbove_eq {settings : Settings} (hs : settings.hasFinitePadding = true)
    (previous : Option Binary64) (c : Component) :
    topAbove settings previous c = .ok (previous.map fun y => heldPadding settings y c.position) := by
  cases previous with
  | none => rfl
  | some y =>
    obtain ⟨n, hn⟩ := exists_topPadding hs y c.position
    have hheld : heldPadding settings y c.position = n := by
      rw [heldPadding, wholePart, integerPart_eq_ok.mp hn]
    rw [topAbove, hn, Option.map_some, hheld]
    rfl

theorem printedColumn_cons {depth : Nat} {settings : Settings} {previous : Option Binary64}
    {c : Component} {rest : List Component} (hc : ∀ height id, c ≠ .spacer height id) :
    printedColumn depth settings previous (c :: rest) =
      printed depth (previous.map fun y => heldPadding settings y c.position) c ::
        printedColumn depth settings (some c.position) rest := by
  cases c with
  | spacer height id => exact absurd rfl (hc height id)
  | control | stack => rfl

/-- Each component of a column is its lines joined. -/
theorem columnFrom_eq_joined {settings : Settings} (hs : settings.hasFinitePadding = true)
    (previous : Option Binary64) {cs : List Component} (hwritable : ∀ c ∈ cs, c.isWritable = true)
    (htexts : AreUnbroken cs) :
    columnFrom settings previous cs = .ok ((printedColumn 0 settings previous cs).map joined) := by
  induction cs generalizing previous with
  | nil => rfl
  | cons c rest ih =>
    obtain ⟨hc, hrest⟩ := List.forall_mem_cons.mp hwritable
    obtain ⟨hctexts, hresttexts⟩ := List.forall_mem_append.mp htexts
    by_cases hspacer : ∃ height id, c = .spacer height id
    · obtain ⟨height, id, rfl⟩ := hspacer
      rw [columnFrom, expression_eq_joined none hc hctexts, ih previous hrest hresttexts, printedColumn]
      rfl
    · have hno : ∀ height id, c ≠ .spacer height id := fun height id he => hspacer ⟨height, id, he⟩
      rw [columnFrom_cons hno, printedColumn_cons hno, topAbove_eq hs,
        ih (some c.position) hrest hresttexts]
      dsimp only [bind, Except.bind]
      rw [expression_eq_joined _ hc hctexts]
      rfl

/-- A component of a column takes at least one line, and all its lines have something on them. -/
theorem inked_printedColumn {depth : Nat} {settings : Settings} {previous : Option Binary64}
    {cs : List Component} (hwritable : ∀ c ∈ cs, c.isWritable = true) (htexts : AreUnbroken cs) :
    ∀ ls ∈ printedColumn depth settings previous cs, ls ≠ [] ∧ ∀ l ∈ ls, IsInkedLine l := by
  induction cs generalizing previous with
  | nil => exact fun ls hls => absurd hls List.not_mem_nil
  | cons c rest ih =>
    obtain ⟨hc, hrest⟩ := List.forall_mem_cons.mp hwritable
    obtain ⟨hctexts, hresttexts⟩ := List.forall_mem_append.mp htexts
    have hone : ∀ top, printed depth top c ≠ [] ∧ ∀ l ∈ printed depth top c, IsInkedLine l := fun top =>
      ⟨printed_ne_nil hc, inked_printed hctexts⟩
    cases c with
    | spacer height id => exact List.forall_mem_cons.mpr ⟨hone none, ih hrest hresttexts⟩
    | control | stack => exact List.forall_mem_cons.mpr ⟨hone _, ih hrest hresttexts⟩

theorem areUnbroken_iff {cs : List Component} :
    AreUnbroken cs ↔ ∀ c ∈ cs, ∀ s ∈ Component.texts c, IsUnbroken s.toList := by
  induction cs with
  | nil => simp [AreUnbroken, textsIn]
  | cons c rest ih => rw [List.forall_mem_cons, ← ih, AreUnbroken, textsIn, List.forall_mem_append]; rfl

theorem areUnbroken_unowned {cs : List Component} (h : AreUnbroken cs) : AreUnbroken (unowned cs) :=
  areUnbroken_iff.mpr fun c hc => areUnbroken_iff.mp h c (List.mem_of_mem_filter hc)

theorem screenBody_eq_joined {settings : Settings} (hs : settings.hasFinitePadding = true)
    {cs : List Component} (hwritable : ∀ c ∈ cs, c.isWritable = true) (htexts : AreUnbroken cs) :
    screenBody settings cs = .ok (joined (printedBody 0 settings cs)) := by
  have hkept : ∀ c ∈ unowned cs, c.isWritable = true := fun c hc =>
    hwritable c (List.mem_of_mem_filter hc)
  have htexts := areUnbroken_unowned htexts
  rw [screenBody, column, columnFrom_eq_joined hs none hkept htexts, printedBody,
    ← joined_blankSeparated fun ls hls => (inked_printedColumn hkept htexts ls hls).1]
  rfl

/-! ## Files -/

/-- A body that is moved into a file is printed at the depth it is moved to. -/
theorem linesText_bodyLines (settings : Settings) {cs : List Component}
    (hwritable : ∀ c ∈ cs, c.isWritable = true) (htexts : AreUnbroken cs) (depth : Nat) :
    linesText (bodyLines (4 * depth) (joined (printedBody 0 settings cs))) =
      linesText (printedBody depth settings cs) := by
  have hlines : ∀ ls ∈ printedColumn 0 settings none (unowned cs), ls ≠ [] ∧ ∀ l ∈ ls, IsInkedLine l :=
    inked_printedColumn (fun c hc => hwritable c (List.mem_of_mem_filter hc))
      (areUnbroken_unowned htexts)
  have hunbroken : ∀ l ∈ printedBody 0 settings cs, IsUnbroken l.toList :=
    forall_mem_blankSeparated (by decide) fun ls hls l hl => ((hlines ls hls).2 l hl).unbroken
  have hdeeper : (printedBody 0 settings cs).map (hung (4 * depth)) = printedBody depth settings cs := by
    have hshift : printedColumn depth settings none (unowned cs) =
        (printedColumn 0 settings none (unowned cs)).map (List.map (lineAt depth)) :=
      printedColumn_shift depth 0 settings none (unowned cs)
    have hhung : ∀ ls ∈ printedColumn 0 settings none (unowned cs),
        ls.map (hung (4 * depth)) = ls.map (lineAt depth) := fun ls hls =>
      List.map_congr_left fun l hl => hung_of_isInkedLine ((hlines ls hls).2 l hl) _
    rw [printedBody, map_hung_blankSeparated, printedBody, hshift, List.map_congr_left hhung]
  cases hbody : printedBody 0 settings cs with
  | nil =>
    rw [← hdeeper, hbody]
    rfl
  | cons first rest =>
    have hhead : first ∈ (printedBody 0 settings cs).head? := hbody ▸ rfl
    have hfirst : first ≠ "" := (head_blankSeparated hlines first hhead).ne_empty
    have hfilled : ¬(joined (first :: rest)).isEmpty = true := by
      simp [joined_isEmpty (first :: rest) fun l hl => Option.some.inj hl ▸ hfirst]
    rw [hbody] at hunbroken hdeeper
    have hmoved : linesText [joined ((first :: rest).map (hung (4 * depth)))] =
        linesText ((first :: rest).map (hung (4 * depth))) := linesText_joined (by simp)
    rw [bodyLines, if_neg hfilled, ← hdeeper, ← hmoved, ← hang_joined (4 * depth) hfirst hunbroken]
    rfl

end Storyboard.Swift
