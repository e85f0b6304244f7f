import Mathlib.Data.List.Forall2
import Storyboard.Proofs.Text.Relining
import Storyboard.Swift.Spacing
import Storyboard.Swift.ViewFile
/-!
# Files written in segments

A generated file is one text, and nothing in it tells the literals that quote a text of the document
from the code around them. The same file can be written in segments, code and literals in turn, with
every step of the printer done on segments. Run together, the segments are the file.

* `Segment`: a stretch of code, or a literal.
* `expressionSegments`, `columnSegments`, `screenSegments` and so on: the printer, on segments.
* `expression_eq`, `screenBody_eq`: run together, the segments are what the printer writes.
-/
namespace Storyboard.Swift

open Storyboard.Layout
open Storyboard.Number (Binary64)
open Storyboard.Text

inductive Segment where
  | code (chars : List Char)
  /-- What stands between two double quotes. -/
  | literal (body : List Char)
  deriving Repr, DecidableEq

def Segment.chars : Segment → List Char
  | .code s => s
  | .literal body => '"' :: body ++ ['"']

def Segment.body? : Segment → Option (List Char)
  | .code _ => none
  | .literal body => some body

/-- The segments run together. -/
def charsOf (ss : List Segment) : List Char := ss.flatMap Segment.chars

def textOf (ss : List Segment) : String := String.ofList (charsOf ss)

/-- What the literals among the segments hold, in order. -/
def bodiesOf (ss : List Segment) : List (List Char) := ss.filterMap Segment.body?

def code (s : String) : List Segment := [.code s.toList]

def quote (s : String) : List Segment := [.literal s.toList]

@[simp] theorem charsOf_nil : charsOf [] = [] := rfl

@[simp] theorem charsOf_cons (s : Segment) (ss : List Segment) :
    charsOf (s :: ss) = s.chars ++ charsOf ss := rfl

@[simp] theorem charsOf_append (ss ts : List Segment) :
    charsOf (ss ++ ts) = charsOf ss ++ charsOf ts := by simp [charsOf]

@[simp] theorem textOf_append (ss ts : List Segment) : textOf (ss ++ ts) = textOf ss ++ textOf ts := by
  simp [textOf]

@[simp] theorem textOf_code (s : String) : textOf (code s) = s := by
  simp [textOf, code, Segment.chars]

@[simp] theorem textOf_quote (s : String) : textOf (quote s) = literal s := by
  apply String.toList_inj.mp
  simp [textOf, quote, Segment.chars, literal]

@[simp] theorem bodiesOf_append (ss ts : List Segment) :
    bodiesOf (ss ++ ts) = bodiesOf ss ++ bodiesOf ts := by simp [bodiesOf]

@[simp] theorem bodiesOf_code (s : String) : bodiesOf (code s) = [] := rfl

/-! ## Indenting -/

/-- The edits of a segment. A literal has at least its closing quote behind it. -/
def Segment.reline (pad : List Char → List Char) (after : List Char) : Segment → Segment
  | .code s => .code (Text.reline pad after s)
  | .literal body => .literal (Text.reline pad ('"' :: after) body)

def relineAll (pad : List Char → List Char) : List Segment → List Segment
  | [] => []
  | s :: rest => s.reline pad (charsOf rest) :: relineAll pad rest

def indentSegments (n : Nat) (ss : List Segment) : List Segment :=
  .code (indentPad n (firstLine (charsOf ss))) :: relineAll (indentPad n) ss

def hangSegments (n : Nat) (ss : List Segment) : List Segment :=
  relineAll (hangPad n) (ss ++ [.code ['\n']])

theorem Segment.chars_reline (pad : List Char → List Char) (after : List Char) (s : Segment) :
    (s.reline pad after).chars = Text.reline pad after s.chars := by
  cases s with
  | code s => rfl
  | literal body =>
    have hquote : ∀ ahead, edit pad '"' ahead = ['"'] := fun _ => rfl
    simp [Segment.reline, Segment.chars, Text.reline, reline_append, hquote]

theorem charsOf_relineAll (pad : List Char → List Char) (ss : List Segment) :
    charsOf (relineAll pad ss) = Text.reline pad [] (charsOf ss) := by
  induction ss with
  | nil => rfl
  | cons s rest ih => simp [relineAll, ih, Segment.chars_reline, reline_append]

@[simp] theorem textOf_indentSegments (n : Nat) (ss : List Segment) :
    textOf (indentSegments n ss) = indent n (textOf ss) := by
  simp [textOf, indent, indentSegments, indentChars_eq, charsOf_relineAll, Segment.chars]

@[simp] theorem textOf_hangSegments (n : Nat) (ss : List Segment) :
    textOf (hangSegments n ss) = hang n (textOf ss) := by
  simp [textOf, hang, hangSegments, hangChars_eq, charsOf_relineAll, Segment.chars]

/-! ## Expressions -/

def blockSegments (head content : List Segment) : List Segment :=
  if (textOf content).isEmpty then head ++ code " \x7b\n\x7d"
  else head ++ code " \x7b\n" ++ indentSegments 4 content ++ code "\n\x7d"

/-- Modifiers hold no literals. -/
def modifiedSegments (body : List Segment) (modifiers : List String) : List Segment :=
  body ++ code (withModifiers "" modifiers)

def optionSegments (options : List String) : List Segment :=
  code ("ForEach(0..<" ++ toString options.length ++ ", id: \\.self) \x7b index in\n") ++
    indentSegments 4 (code "Text([" ++ (code ", ").intercalate (options.map quote) ++ code "][index])") ++
    code "\n\x7d"

def viewSegments : Control → Written (List Segment)
  | .label text => .ok (code "Text(" ++ quote text ++ code ")")
  | .button title =>
    .ok (blockSegments
      (code "Button(action: \x7b print(" ++ quote (title ++ " tapped!") ++ code ") \x7d)")
      (code "Text(" ++ quote title ++ code ")"))
  | .textField placeholder =>
    .ok (code "TextField(" ++ quote placeholder ++ code ", text: .constant(\"\"))")
  | .image name => .ok (code "Image(" ++ quote name ++ code ")")
  | .textView text => .ok (code "TextEditor(text: .constant(" ++ quote text ++ code "))")
  | .picker options =>
    .ok (blockSegments (code "Picker(\"Select\", selection: .constant(0))") (optionSegments options))
  | kind => code <$> viewOf kind

mutual

def expressionSegments (top : Option Int) : Component → Written (List Segment)
  | .control kind p => do
    return modifiedSegments (← viewSegments kind)
      (allModifiers (fixedModifiers kind) top p.constraints)
  | .stack axis p children => do
    return modifiedSegments
      (blockSegments (code (stackName axis)) ((code "\n").intercalate (← childSegments children)))
      (allModifiers [] top p.constraints)
  | .spacer height id => code <$> expression top (.spacer height id)

def childSegments : List Component → Written (List (List Segment))
  | [] => return []
  | c :: rest => return (← expressionSegments none c) :: (← childSegments rest)

end

@[simp] theorem textOf_intercalate (sep : String) (sss : List (List Segment)) :
    textOf ((code sep).intercalate sss) = sep.intercalate (sss.map textOf) := by
  induction sss with
  | nil => rfl
  | cons ss rest ih =>
    cases rest with
    | nil => simp
    | cons ts more =>
      rw [List.intercalate_cons_cons, textOf_append, textOf_append, textOf_code, ih]
      simp [String.intercalate_cons_cons, String.append_assoc]

@[simp] theorem textOf_blockSegments (head content : List Segment) :
    textOf (blockSegments head content) = block (textOf head) (textOf content) := by
  unfold blockSegments block
  split <;> simp [String.append_assoc]

@[simp] theorem textOf_modifiedSegments (body : List Segment) (modifiers : List String) :
    textOf (modifiedSegments body modifiers) = withModifiers (textOf body) modifiers := by
  unfold modifiedSegments withModifiers
  split <;> simp [String.append_assoc]

@[simp] theorem textOf_optionSegments (options : List String) :
    textOf (optionSegments options) = optionLoop options := by
  have hquote : textOf ∘ quote = literal := funext textOf_quote
  unfold optionSegments optionLoop
  rw [textOf_append, textOf_append, textOf_indentSegments, textOf_append, textOf_append,
    textOf_intercalate, List.map_map, hquote, textOf_code, textOf_code, textOf_code, textOf_code]

theorem viewOf_eq (kind : Control) : viewOf kind = textOf <$> viewSegments kind := by
  cases kind <;> simp [viewOf, viewSegments, Functor.map, Except.map, String.append_assoc]

mutual

/-- Run together, the segments of an expression are the expression. -/
theorem expression_eq (top : Option Int) : ∀ c : Component,
    expression top c = textOf <$> expressionSegments top c
  | .control kind p => by
    rw [expression, expressionSegments, viewOf_eq]
    simp
  | .stack axis p children => by
    rw [expression, expressionSegments, expressions_eq children]
    simp
  | .spacer height id => by
    rw [expressionSegments]
    simp

theorem expressions_eq : ∀ cs : List Component,
    expressions cs = List.map textOf <$> childSegments cs
  | [] => rfl
  | c :: rest => by
    rw [expressions, childSegments, expression_eq none c, expressions_eq rest]
    simp

end

/-! ## Columns -/

def columnSegmentsFrom (settings : Settings) (previous : Option Binary64) :
    List Component → Written (List (List Segment))
  | [] => return []
  | .spacer height id :: rest =>
    return (← expressionSegments none (.spacer height id)) ::
      (← columnSegmentsFrom settings previous rest)
  | c :: rest => do
    let top ← match previous with
      | none => pure none
      | some y => some <$> topPadding settings y c.position
    return (← expressionSegments top c) :: (← columnSegmentsFrom settings (some c.position) rest)

/-- The body of a screen. -/
def bodySegments (settings : Settings) (cs : List Component) : Written (List Segment) :=
  return (code "\n\n").intercalate (← columnSegmentsFrom settings none (unowned cs))

theorem columnFrom_eq (settings : Settings) (previous : Option Binary64) (cs : List Component) :
    columnFrom settings previous cs = List.map textOf <$> columnSegmentsFrom settings previous cs := by
  induction cs generalizing previous with
  | nil => rfl
  | cons c rest ih =>
    cases c with
    | spacer height id => simp [columnFrom, columnSegmentsFrom, expression_eq, ih]
    | control kind p => cases previous <;> simp [columnFrom, columnSegmentsFrom, expression_eq, ih]
    | stack axis p children =>
      cases previous <;> simp [columnFrom, columnSegmentsFrom, expression_eq, ih]

theorem screenBody_eq (settings : Settings) (cs : List Component) :
    screenBody settings cs = textOf <$> bodySegments settings cs := by
  rw [screenBody, column, columnFrom_eq, bodySegments]
  simp

/-! ## Files -/

def linesSegments (ls : List (List Segment)) : List Segment := ls.flatMap (· ++ code "\n")

/-- A file with the given lines inside. -/
def fileSegments (name : String) (inner : List (List Segment)) : List Segment :=
  linesSegments ((header name).map code ++ inner ++ (footer name).map code)

theorem textOf_linesSegments (ls : List (List Segment)) :
    textOf (linesSegments ls) = linesText (ls.map textOf) := by
  induction ls with
  | nil => rfl
  | cons line rest ih =>
    have htext : linesText ((line :: rest).map textOf) =
        textOf line ++ "\n" ++ linesText (rest.map textOf) := by simp [linesText]
    have hsegments : linesSegments (line :: rest) = line ++ code "\n" ++ linesSegments rest := rfl
    rw [htext, hsegments, textOf_append, textOf_append, textOf_code, ih]

theorem textOf_fileSegments (name : String) (inner : List (List Segment)) :
    textOf (fileSegments name inner) = (ViewFile.ofLines name (inner.map textOf)).text := by
  simp [fileSegments, textOf_linesSegments, ViewFile.ofLines, Function.comp_def]

/-- The lines of a body. -/
def bodyLineSegments (n : Nat) (body : List Segment) : List (List Segment) :=
  if (textOf body).isEmpty then [] else [code (String.ofList (spaces n)) ++ hangSegments n body]

theorem map_bodyLineSegments (n : Nat) (body : List Segment) :
    (bodyLineSegments n body).map textOf = bodyLines n (textOf body) := by
  unfold bodyLineSegments bodyLines
  split <;> simp

def screenSegments (body : List Segment) : List (List Segment) :=
  screenOpening.map code ++ bodyLineSegments 12 body ++ screenClosing.map code

theorem map_screenSegments (body : List Segment) :
    (screenSegments body).map textOf = screenLines (textOf body) := by
  simp [screenSegments, screenLines, map_bodyLineSegments, Function.comp_def]

def linkSegments (link : Link) : List Segment :=
  code "                NavigationLink(" ++ quote link.title ++
    code ", destination: " ++ code link.view ++ code "())"

def flowRootSegments (title : String) (body : List Segment) (links : List Link) :
    List (List Segment) :=
  [code "        NavigationStack \x7b", code "            VStack \x7b"] ++ bodyLineSegments 16 body ++
    links.map linkSegments ++
    [code "            \x7d", code "            .navigationTitle(" ++ quote title ++ code ")",
      code "        \x7d"]

theorem textOf_linkSegments (link : Link) : textOf (linkSegments link) = linkLine link := by
  unfold linkSegments linkLine
  rw [textOf_append, textOf_append, textOf_append, textOf_append]
  rw [textOf_code, textOf_quote, textOf_code, textOf_code, textOf_code]

theorem map_flowRootSegments (title : String) (body : List Segment) (links : List Link) :
    (flowRootSegments title body links).map textOf = flowRootLines title (textOf body) links := by
  have hlinks : textOf ∘ linkSegments = linkLine := funext textOf_linkSegments
  simp only [flowRootSegments, flowRootLines, List.map_append, List.map_cons, List.map_nil,
    List.map_map, hlinks, map_bodyLineSegments, textOf_append, textOf_code, textOf_quote]

def flowChildSegments (title : String) : List (List Segment) :=
  [code "        VStack \x7b",
    code "            Text(" ++ quote ("current view is " ++ title) ++ code ")", code "        \x7d",
    code "        .padding()", code "        .navigationTitle(" ++ quote title ++ code ")"]

theorem map_flowChildSegments (title : String) :
    (flowChildSegments title).map textOf = flowChildLines title := by
  simp only [flowChildSegments, flowChildLines, List.map_cons, List.map_nil, textOf_append,
    textOf_code, textOf_quote]

def tabSegments (tab : Tab) : List (List Segment) :=
  [code ("            " ++ tab.view ++ "()"), code "                .tabItem \x7b",
    code "                    Label(" ++ quote tab.title ++ code ", systemImage: " ++ quote tab.icon ++
      code ")",
    code "                \x7d"]

def tabBarSegments (tabs : List Tab) : List (List Segment) :=
  [code "        TabView \x7b"] ++ tabs.flatMap tabSegments ++ [code "        \x7d"]

theorem map_tabSegments (tab : Tab) : (tabSegments tab).map textOf = tabLines tab := by
  simp only [tabSegments, tabLines, List.map_cons, List.map_nil, textOf_append, textOf_code,
    textOf_quote]

theorem map_tabBarSegments (tabs : List Tab) :
    (tabBarSegments tabs).map textOf = tabBarLines tabs := by
  simp [tabBarSegments, tabBarLines, List.map_flatMap, map_tabSegments]

end Storyboard.Swift
