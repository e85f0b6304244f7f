import Storyboard.Proofs.Layout.Drawing
import Storyboard.Proofs.Number.Characters
import Storyboard.Proofs.Swift.Columns
import Storyboard.Proofs.Swift.Payloads
import Storyboard.Proofs.Text.Brackets
/-!
# Expressions and files are bracketed

Every piece of code that the printer writes around something else opens brackets in front of it and closes
the same ones behind it. So what is written is bracketed, if the texts that are quoted have no brackets
and the modifiers that come from constraints are bracketed.

* `IsBracketable`: what a component has to bring.
* `balanced_expression`, `balanced_body`: expressions and bodies, at any depth.
* `bracketed_screenFile`, `bracketed_flowRootFile`, `bracketed_flowChildFile`, `bracketed_tabBarFile`: the
  four kinds of file.
-/
namespace Storyboard.Swift

open Storyboard.Layout
open Storyboard.Number (Binary64)
open Storyboard.Text

/-! ## Texts without brackets -/

theorem isUnbracketed_of_isWritten {s : String} (h : Number.IsWritten s.toList) : IsUnbracketed s :=
  fun c hc => isBracket_eq_false (by decide) (h c hc)

theorem isUnbracketed_literal {s : String} (h : IsUnbracketed s) : IsUnbracketed (literal s) :=
  isUnbracketed_append.mpr ⟨isUnbracketed_append.mpr ⟨by decide, h⟩, by decide⟩

theorem isUnbracketed_options {options : List String} (h : ∀ s ∈ options, IsUnbracketed s) :
    IsUnbracketed (", ".intercalate (options.map literal)) := by
  rw [isUnbracketed_iff, brackets_intercalate (by decide), List.flatMap_map, List.flatMap_eq_nil_iff]
  exact fun s hs => isUnbracketed_iff.mp (isUnbracketed_literal (h s hs))

/-- A text without brackets, in code that closes what it opens. -/
theorem balanced_around {front back s : String} (hcode : IsBalanced (brackets front ++ brackets back))
    (hs : IsUnbracketed s) : IsBalanced (brackets (front ++ s ++ back)) := by
  rw [brackets_append, brackets_append, isUnbracketed_iff.mp hs, List.append_nil]
  exact hcode

/-! ## Pieces of code -/

theorem brackets_block (head content : String) :
    brackets (block head content) = brackets head ++ (['\x7b'] ++ brackets content ++ ['\x7d']) := by
  have hempty : brackets " \x7b\n\x7d" = ['\x7b', '\x7d'] := rfl
  have hopening : brackets " \x7b\n" = ['\x7b'] := rfl
  have hclosing : brackets "\n\x7d" = ['\x7d'] := rfl
  unfold block
  split
  · rename_i hnone
    have hcontent : content = "" := by simpa using hnone
    rw [brackets_append, hempty, hcontent]
    rfl
  · simp only [brackets_append, brackets_indent, hopening, hclosing, List.append_assoc]

theorem balanced_block {head content : String} (hhead : IsBalanced (brackets head))
    (hcontent : IsBalanced (brackets content)) : IsBalanced (brackets (block head content)) := by
  rw [brackets_block]
  exact hhead.append (IsBalanced.insert (by decide) hcontent)

theorem balanced_optionLoop {options : List String} (h : ∀ s ∈ options, IsUnbracketed s) :
    IsBalanced (brackets (optionLoop options)) := by
  have hcount : IsUnbracketed (toString options.length) :=
    isUnbracketed_of_isWritten (Number.isWritten_toString_nat options.length)
  unfold optionLoop
  simp only [brackets_append, brackets_indent]
  rw [isUnbracketed_iff.mp hcount, isUnbracketed_iff.mp (isUnbracketed_options h)]
  decide +kernel

/-- The view of a control whose texts have no brackets. -/
theorem balanced_viewOf {kind : Control} (h : ∀ s ∈ Control.texts kind, IsUnbracketed s) {view : String}
    (hview : viewOf kind = .ok view) : IsBalanced (brackets view) := by
  cases kind with
  | label text | textField text | image text | textView text =>
    cases hview
    exact balanced_around (by decide) (isUnbracketed_literal (h text List.mem_cons_self))
  | button title =>
    cases hview
    obtain ⟨htapped, htitle⟩ := List.forall_mem_cons.mp h
    have htitle := isUnbracketed_literal (htitle title List.mem_cons_self)
    exact balanced_block (balanced_around (by decide) (isUnbracketed_literal htapped))
      (balanced_around (by decide) htitle)
  | slider x | datePicker x =>
    cases hview
    exact balanced_around (by decide) (isUnbracketed_of_isWritten (Number.isWritten_text x))
  | toggle isOn =>
    cases hview
    have hbool : IsUnbracketed (boolText isOn) := by cases isOn <;> decide
    exact balanced_block (balanced_around (by decide) hbool) (by decide)
  | picker options =>
    cases hview
    exact balanced_block (by decide) (balanced_optionLoop h)
  | table | scroll =>
    cases hview
    exact balanced_block (by decide) (by decide)
  | unknown => cases hview

theorem balanced_fixedModifiers (kind : Control) : ∀ m ∈ fixedModifiers kind, IsBalanced (brackets m) := by
  cases kind <;> simp only [fixedModifiers] <;> decide

theorem brackets_withModifiers (body : String) (modifiers : List String) :
    brackets (withModifiers body modifiers) = brackets body ++ modifiers.flatMap brackets := by
  have hfeed : brackets "\n" = [] := rfl
  unfold withModifiers
  split
  · rename_i hnone
    rw [List.isEmpty_iff.mp hnone, List.flatMap_nil, List.append_nil]
  · rw [brackets_append, brackets_append, hfeed, List.append_nil, brackets_indent,
      brackets_intercalate (by decide)]

theorem balanced_allModifiers {fixed : List String} (hfixed : ∀ m ∈ fixed, IsBalanced (brackets m))
    (top : Option Int) {constraints : String} (hconstraints : IsBracketed constraints) :
    IsBalanced ((allModifiers fixed top constraints).flatMap brackets) := by
  have htop : IsBalanced
      ((top.map fun n => ".padding(.top, " ++ toString n ++ ")").toList.flatMap brackets) := by
    cases top with
    | none => exact isBalanced_nil
    | some n =>
      rw [Option.map_some, Option.toList_some, List.flatMap_singleton]
      exact balanced_around (by decide) (isUnbracketed_of_isWritten (Number.isWritten_toString_int n))
  rw [allModifiers, List.flatMap_append, List.flatMap_append, brackets_inkedLines]
  exact ((isBalanced_flatMap hfixed).append htop).append (isBracketed_iff.mp hconstraints)

/-! ## Components -/

/-- The texts that a component itself quotes. -/
def ownTexts : Component → List String
  | .control kind _ => Control.texts kind
  | _ => []

/-- The modifiers from the constraints of a component itself. -/
def ownConstraints : Component → String
  | .control _ p => p.constraints
  | .stack _ p _ => p.constraints
  | .spacer _ _ => ""

/-- What the component itself quotes has no brackets, and the modifiers from its constraints are
bracketed. -/
structure IsBracketable (c : Component) : Prop where
  texts : ∀ s ∈ ownTexts c, IsUnbracketed s
  constraints : IsBracketed (ownConstraints c)

mutual

/-- The expression of a component is bracketed if all its nodes can be. -/
theorem balanced_expression (top : Option Int) : ∀ (c : Component) {s : String},
    (∀ n ∈ c.nodes, IsBracketable n) → expression top c = .ok s → IsBalanced (brackets s)
  | .control kind p, s, hc, h => by
    simp only [expression, bind_eq_ok, pure_eq_ok] at h
    obtain ⟨view, hview, rfl⟩ := h
    have hself : IsBracketable (.control kind p) := hc _ (by simp [Component.nodes])
    rw [brackets_withModifiers]
    exact (balanced_viewOf hself.texts hview).append
      (balanced_allModifiers (balanced_fixedModifiers kind) top hself.constraints)
  | .stack axis p children, s, hc, h => by
    simp only [expression, bind_eq_ok, pure_eq_ok] at h
    obtain ⟨ss, hss, rfl⟩ := h
    simp only [Component.nodes] at hc
    obtain ⟨hself, hchildren⟩ := List.forall_mem_cons.mp hc
    have hname : IsBalanced (brackets (stackName axis)) := by cases axis <;> decide
    have hcontent : IsBalanced (brackets ("\n".intercalate ss)) := by
      rw [brackets_intercalate (by decide)]
      exact isBalanced_flatMap (balanced_expressions children hchildren hss)
    rw [brackets_withModifiers]
    exact (balanced_block hname hcontent).append
      (balanced_allModifiers (by simp) top hself.constraints)
  | .spacer height id, s, _, h => by
    simp only [expression, bind_eq_ok, pure_eq_ok] at h
    obtain ⟨n, -, rfl⟩ := h
    exact balanced_around (by decide) (isUnbracketed_of_isWritten (Number.isWritten_toString_int n))

theorem balanced_expressions : ∀ (cs : List Component) {ss : List String},
    (∀ n ∈ nodesIn cs, IsBracketable n) → expressions cs = .ok ss → ∀ s ∈ ss, IsBalanced (brackets s)
  | [], ss, _, h => by
    rw [expressions, pure_eq_ok] at h
    subst h
    simp
  | c :: rest, ss, hcs, h => by
    simp only [expressions, bind_eq_ok, pure_eq_ok] at h
    obtain ⟨s, hs, more, hmore, rfl⟩ := h
    obtain ⟨hc, hrest⟩ := List.forall_mem_append.mp hcs
    exact List.forall_mem_cons.mpr
      ⟨balanced_expression none c hc hs, balanced_expressions rest hrest hmore⟩

end

/-! ## Bodies -/

theorem balanced_columnFrom {settings : Settings} {previous : Option Binary64} {cs : List Component}
    (hcs : ∀ n ∈ nodesIn cs, IsBracketable n) {ss : List String}
    (h : columnFrom settings previous cs = .ok ss) : ∀ s ∈ ss, IsBalanced (brackets s) := by
  induction cs generalizing previous ss with
  | nil =>
    rw [columnFrom, pure_eq_ok] at h
    subst h
    simp
  | cons c rest ih =>
    obtain ⟨hc, hrest⟩ := List.forall_mem_append.mp hcs
    obtain ⟨s, more, hs, hmore, rfl⟩ := columnFrom_cons_eq_ok.mp h
    obtain ⟨top, hs⟩ := expression_of_fragment hs
    exact List.forall_mem_cons.mpr ⟨balanced_expression top c hc hs, ih hrest hmore⟩

/-- The body of a screen is bracketed if all that it draws can be. -/
theorem balanced_body {settings : Settings} {cs : List Component}
    (hcs : ∀ n ∈ nodesIn (unowned cs), IsBracketable n) {body : String}
    (h : screenBody settings cs = .ok body) : IsBalanced (brackets body) := by
  simp only [screenBody, column, bind_eq_ok, pure_eq_ok] at h
  obtain ⟨ss, hss, rfl⟩ := h
  rw [brackets_intercalate (by decide)]
  exact isBalanced_flatMap (balanced_columnFrom hcs hss)

/-- Moving a body into a file keeps its brackets. -/
theorem brackets_bodyLines (n : Nat) (body : String) :
    (bodyLines n body).flatMap brackets = brackets body := by
  unfold bodyLines
  split
  · rename_i hnone
    have hbody : body = "" := by simpa using hnone
    rw [hbody]
    rfl
  · have hspaces : brackets (String.ofList (spaces n)) = [] := by
      simp [brackets, spaces, isBracket, bracketPairs]
    rw [List.flatMap_singleton, brackets_append, hspaces, List.nil_append, brackets_hang]

/-! ## Files -/

/-- A file is bracketed if its lines are and its name has no brackets. -/
theorem bracketed_ofLines {name : String} (hname : IsUnbracketed name) {inner : List String}
    (hinner : IsBalanced (inner.flatMap brackets)) : IsBracketed (ViewFile.ofLines name inner).text := by
  have hheader : (header name).flatMap brackets = ['\x7b', '\x7b'] := by
    simp only [header, List.flatMap_cons, List.flatMap_nil, brackets_append,
      isUnbracketed_iff.mp hname, List.append_nil]
    decide +kernel
  have hfooter : (footer name).flatMap brackets = ['\x7d', '\x7d', '\x7b', '(', ')', '\x7d'] := by
    simp only [footer, List.flatMap_cons, List.flatMap_nil, brackets_append,
      isUnbracketed_iff.mp hname, List.append_nil]
    decide +kernel
  rw [isBracketed_iff, ViewFile.ofLines, brackets_linesText, List.flatMap_append, List.flatMap_append,
    hheader, hfooter]
  exact IsBalanced.insert (by decide) hinner

section
variable {name title body : String} (hname : IsUnbracketed name)
include hname

theorem bracketed_screenFile (hbody : IsBalanced (brackets body)) :
    IsBracketed (screenFile name body).text := by
  refine bracketed_ofLines hname ?_
  rw [screenLines, List.flatMap_append, List.flatMap_append, brackets_bodyLines]
  exact IsBalanced.insert (by decide +kernel) hbody

theorem bracketed_flowChildFile (htitle : IsUnbracketed title) :
    IsBracketed (flowChildFile name title).text := by
  refine bracketed_ofLines hname ?_
  have hshown := isUnbracketed_iff.mp (isUnbracketed_literal (isUnbracketed_append.mpr
    ⟨by decide, htitle⟩ : IsUnbracketed ("current view is " ++ title)))
  have htitle := isUnbracketed_iff.mp (isUnbracketed_literal htitle)
  simp only [flowChildLines, List.flatMap_cons, List.flatMap_nil, brackets_append, hshown, htitle,
    List.append_nil]
  decide +kernel

theorem bracketed_flowRootFile (htitle : IsUnbracketed title) (hbody : IsBalanced (brackets body))
    {links : List Link} (hlinks : ∀ link ∈ links, IsUnbracketed link.title ∧ IsUnbracketed link.view) :
    IsBracketed (flowRootFile name title body links).text := by
  refine bracketed_ofLines hname ?_
  have hlines : IsBalanced ((links.map linkLine).flatMap brackets) := by
    rw [List.flatMap_map]
    refine isBalanced_flatMap fun link hlink => ?_
    obtain ⟨hlinktitle, hview⟩ := hlinks link hlink
    unfold linkLine
    simp only [brackets_append]
    rw [isUnbracketed_iff.mp (isUnbracketed_literal hlinktitle), isUnbracketed_iff.mp hview]
    decide +kernel
  have hopening : ["        NavigationStack \x7b", "            VStack \x7b"].flatMap brackets =
      ['\x7b', '\x7b'] := rfl
  have hclosing : ["            \x7d", "            .navigationTitle(" ++ literal title ++ ")",
      "        \x7d"].flatMap brackets = ['\x7d', '(', ')', '\x7d'] := by
    simp only [List.flatMap_cons, List.flatMap_nil, brackets_append,
      isUnbracketed_iff.mp (isUnbracketed_literal htitle), List.append_nil]
    decide +kernel
  rw [flowRootLines, List.flatMap_append, List.flatMap_append, List.flatMap_append, brackets_bodyLines,
    hopening, hclosing, List.append_assoc ['\x7b', '\x7b']]
  exact IsBalanced.insert (by decide) (hbody.append hlines)

theorem bracketed_tabBarFile {tabs : List Tab}
    (htabs : ∀ tab ∈ tabs, IsUnbracketed tab.view ∧ IsUnbracketed tab.title ∧ IsUnbracketed tab.icon) :
    IsBracketed (tabBarFile name tabs).text := by
  refine bracketed_ofLines hname ?_
  have hlines : IsBalanced ((tabs.flatMap tabLines).flatMap brackets) := by
    rw [List.flatMap_assoc]
    refine isBalanced_flatMap fun tab htab => ?_
    obtain ⟨hview, htitle, hicon⟩ := htabs tab htab
    have htitle := isUnbracketed_iff.mp (isUnbracketed_literal htitle)
    have hicon := isUnbracketed_iff.mp (isUnbracketed_literal hicon)
    simp only [tabLines, List.flatMap_cons, List.flatMap_nil, brackets_append, htitle, hicon,
      isUnbracketed_iff.mp hview, List.append_nil]
    decide +kernel
  have hopening : ["        TabView \x7b"].flatMap brackets = ['\x7b'] := rfl
  have hclosing : ["        \x7d"].flatMap brackets = ['\x7d'] := rfl
  rw [tabBarLines, List.flatMap_append, List.flatMap_append, hopening, hclosing]
  exact IsBalanced.insert (by decide) hlines

end

end Storyboard.Swift
