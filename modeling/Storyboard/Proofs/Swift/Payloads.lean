import Storyboard.Proofs.Outcome
import Storyboard.Proofs.Swift.Segments
import Storyboard.Proofs.Swift.StringLiteral
/-!
# Texts in literals

Nothing is escaped when a text is quoted, so a literal stands for its text only as long as the text has
nothing to escape. The body of a screen is indented after its texts are quoted, and that turns every
line break in a literal into a line feed; the titles and icons of the templates are left alone.

* `Component.texts`: the texts that an expression quotes, in order.
* `Kept`, `Fed`: what is left of a text before and after a body is moved into its file.
* `kept_expression`, `kept_body`: the literals of expressions and bodies are what is left of the texts.
* `carries_of_fed`, `carries_template`: when a literal stands for its text.
-/
namespace Storyboard.Swift

open Storyboard.Layout
open Storyboard.Number (Binary64)
open Storyboard.Text

def Control.texts : Control → List String
  | .label text => [text]
  | .button title => [title ++ " tapped!", title]
  | .textField placeholder => [placeholder]
  | .image name => [name]
  | .textView text => [text]
  | .picker options => options
  | _ => []

mutual

/-- The texts that the expression of a component quotes, in order. -/
def Component.texts : Component → List String
  | .control kind _ => Control.texts kind
  | .stack _ _ children => textsIn children
  | .spacer _ _ => []

def textsIn : List Component → List String
  | [] => []
  | c :: rest => Component.texts c ++ textsIn rest

end

/-! ## What is left of a text -/

def isBroken (s : List Char) : Bool := s.any isLineBreak

/-- The literal holds the text, or both have a line break. -/
def Kept (s : String) (body : List Char) : Prop :=
  body = s.toList ∨ isBroken s.toList = true ∧ isBroken body = true

/-- The literal holds the text, which has no line break, or has a line feed in place of one. -/
def Fed (s : String) (body : List Char) : Prop :=
  isBroken s.toList = false ∧ body = s.toList ∨ isBroken s.toList = true ∧ '\n' ∈ body

theorem Fed.kept {s : String} {body : List Char} (h : Fed s body) : Kept s body := by
  rcases h with ⟨-, hbody⟩ | ⟨hs, hfeed⟩
  · exact .inl hbody
  · exact .inr ⟨hs, List.any_eq_true.mpr ⟨'\n', hfeed, by decide⟩⟩

/-- Indenting a literal feeds it; its closing quote stands behind it. -/
theorem Kept.fed {s : String} {body : List Char} (h : Kept s body) (pad : List Char → List Char)
    (after : List Char) : Fed s (reline pad ('"' :: after) body) := by
  have hbroken : isBroken body = true → '\n' ∈ reline pad ('"' :: after) body := fun hb =>
    feed_mem_reline pad (List.cons_ne_nil _ _) (by simp) (List.any_eq_true.mp hb)
  rcases h with rfl | ⟨hs, hb⟩
  · cases hs : isBroken s.toList with
    | true => exact .inr ⟨hs, hbroken hs⟩
    | false => exact .inl ⟨hs, reline_of_unbroken pad _ (by simpa [isBroken] using hs)⟩
  · exact .inr ⟨hs, hbroken hb⟩

theorem fed_relineAll {texts : List String} {ss : List Segment} (pad : List Char → List Char)
    (h : List.Forall₂ Kept texts (bodiesOf ss)) :
    List.Forall₂ Fed texts (bodiesOf (relineAll pad ss)) := by
  induction ss generalizing texts with
  | nil => simpa [relineAll, bodiesOf] using h
  | cons s rest ih =>
    cases s with
    | code s => exact ih h
    | literal body =>
      cases h with
      | cons hkept hrest => exact .cons (hkept.fed pad _) (ih hrest)

theorem fed_indentSegments {texts : List String} {ss : List Segment} (n : Nat)
    (h : List.Forall₂ Kept texts (bodiesOf ss)) :
    List.Forall₂ Fed texts (bodiesOf (indentSegments n ss)) :=
  fed_relineAll _ h

theorem fed_hangSegments {texts : List String} {ss : List Segment} (n : Nat)
    (h : List.Forall₂ Kept texts (bodiesOf ss)) :
    List.Forall₂ Fed texts (bodiesOf (hangSegments n ss)) := by
  refine fed_relineAll _ ?_
  have hend : bodiesOf [.code ['\n']] = [] := rfl
  rwa [bodiesOf_append, hend, List.append_nil]

/-- Where nothing is written, nothing is quoted. -/
theorem bodiesOf_of_isEmpty {ss : List Segment} (h : (textOf ss).isEmpty = true) : bodiesOf ss = [] := by
  have hchars : ∀ s ∈ ss, s.chars = [] := by simpa [textOf, charsOf] using h
  refine List.filterMap_eq_nil_iff.mpr fun s hs => ?_
  cases s with
  | code _ => rfl
  | literal body => exact absurd (hchars _ hs) (List.cons_ne_nil _ _)

/-! ## Expressions -/

theorem kept_quotes (texts : List String) :
    List.Forall₂ Kept texts ((texts.map quote).flatMap bodiesOf) := by
  induction texts with
  | nil => exact .nil
  | cons s rest ih => exact .cons (.inl rfl) ih

theorem bodiesOf_intercalate (sep : String) (sss : List (List Segment)) :
    bodiesOf ((code sep).intercalate sss) = sss.flatMap bodiesOf := by
  induction sss with
  | nil => rfl
  | cons ss rest ih =>
    cases rest with
    | nil => simp
    | cons ts more =>
      rw [List.intercalate_cons_cons, bodiesOf_append, bodiesOf_append, bodiesOf_code, ih]
      simp

theorem kept_block {heads texts : List String} {head content : List Segment}
    (hhead : List.Forall₂ Kept heads (bodiesOf head))
    (hcontent : List.Forall₂ Kept texts (bodiesOf content)) :
    List.Forall₂ Kept (heads ++ texts) (bodiesOf (blockSegments head content)) := by
  unfold blockSegments
  split
  · rename_i hempty
    rw [bodiesOf_of_isEmpty hempty] at hcontent
    cases hcontent
    simpa using hhead
  · simp only [bodiesOf_append, bodiesOf_code, List.append_nil]
    exact List.rel_append hhead ((fed_indentSegments 4 hcontent).imp fun _ _ => Fed.kept)

theorem kept_options (options : List String) :
    List.Forall₂ Kept options (bodiesOf (optionSegments options)) := by
  unfold optionSegments
  rw [bodiesOf_append, bodiesOf_append, bodiesOf_code, bodiesOf_code, List.nil_append, List.append_nil]
  refine (fed_indentSegments 4 ?_).imp fun _ _ => Fed.kept
  rw [bodiesOf_append, bodiesOf_append, bodiesOf_code, bodiesOf_code, List.nil_append,
    List.append_nil, bodiesOf_intercalate]
  exact kept_quotes options

theorem kept_code (s : String) : List.Forall₂ Kept [] (bodiesOf (code s)) := .nil

theorem kept_quote (s : String) : List.Forall₂ Kept [s] (bodiesOf (quote s)) :=
  .cons (.inl rfl) .nil

theorem kept_map_code {w : Written String} {ss : List Segment} (h : code <$> w = .ok ss) :
    List.Forall₂ Kept [] (bodiesOf ss) := by
  obtain ⟨s, -, rfl⟩ := map_eq_ok.mp h
  exact .nil

theorem kept_view {kind : Control} {ss : List Segment} (h : viewSegments kind = .ok ss) :
    List.Forall₂ Kept (Control.texts kind) (bodiesOf ss) := by
  have hone : ∀ (s front behind : String),
      List.Forall₂ Kept [s] (bodiesOf (code front ++ quote s ++ code behind)) := fun s front behind => by
    rw [bodiesOf_append, bodiesOf_append, bodiesOf_code, bodiesOf_code, List.nil_append, List.append_nil]
    exact kept_quote s
  cases kind with
  | label text | textField placeholder | image name | textView text =>
    simp only [viewSegments, Except.ok.injEq] at h
    subst h
    exact hone _ _ _
  | button title =>
    simp only [viewSegments, Except.ok.injEq] at h
    subst h
    exact kept_block (hone _ _ _) (hone _ _ _)
  | picker options =>
    simp only [viewSegments, Except.ok.injEq] at h
    subst h
    exact kept_block (kept_code _) (kept_options options)
  | slider | toggle | datePicker | table | scroll | unknown =>
    rw [viewSegments] at h
    · exact kept_map_code h
    all_goals simp

mutual

theorem kept_expression {top : Option Int} : ∀ (c : Component) {ss : List Segment},
    expressionSegments top c = .ok ss → List.Forall₂ Kept (Component.texts c) (bodiesOf ss)
  | .control kind p, ss, h => by
    simp only [expressionSegments, bind_eq_ok, pure_eq_ok] at h
    obtain ⟨view, hview, rfl⟩ := h
    rw [modifiedSegments, bodiesOf_append, bodiesOf_code, List.append_nil]
    exact kept_view hview
  | .stack axis p children, ss, h => by
    simp only [expressionSegments, bind_eq_ok, pure_eq_ok] at h
    obtain ⟨sss, hsss, rfl⟩ := h
    rw [modifiedSegments, bodiesOf_append, bodiesOf_code, List.append_nil]
    refine kept_block (kept_code _) ?_
    rw [bodiesOf_intercalate]
    exact kept_children children hsss
  | .spacer height id, ss, h => kept_map_code h

theorem kept_children : ∀ (cs : List Component) {sss : List (List Segment)},
    childSegments cs = .ok sss → List.Forall₂ Kept (textsIn cs) (sss.flatMap bodiesOf)
  | [], sss, h => by
    rw [childSegments, pure_eq_ok] at h
    subst h
    exact .nil
  | c :: rest, sss, h => by
    simp only [childSegments, bind_eq_ok, pure_eq_ok] at h
    obtain ⟨ss, hss, more, hmore, rfl⟩ := h
    exact List.rel_append (kept_expression c hss) (kept_children rest hmore)

end

theorem kept_column {settings : Settings} {previous : Option Binary64} {cs : List Component}
    {sss : List (List Segment)} (h : columnSegmentsFrom settings previous cs = .ok sss) :
    List.Forall₂ Kept (textsIn cs) (sss.flatMap bodiesOf) := by
  induction cs generalizing previous sss with
  | nil =>
    rw [columnSegmentsFrom, pure_eq_ok] at h
    subst h
    exact .nil
  | cons c rest ih =>
    have hcons : ∃ top ss more previous', expressionSegments top c = .ok ss ∧
        columnSegmentsFrom settings previous' rest = .ok more ∧ ss :: more = sss := by
      cases c with
      | spacer height id =>
        simp only [columnSegmentsFrom, bind_eq_ok, pure_eq_ok] at h
        obtain ⟨ss, hss, more, hmore, rfl⟩ := h
        exact ⟨_, ss, more, _, hss, hmore, rfl⟩
      | control | stack =>
        cases previous <;>
        · simp only [columnSegmentsFrom, bind_eq_ok, pure_eq_ok] at h
          obtain ⟨top, -, ss, hss, more, hmore, rfl⟩ := h
          exact ⟨top, ss, more, _, hss, hmore, rfl⟩
    obtain ⟨top, ss, more, previous', hss, hmore, rfl⟩ := hcons
    exact List.rel_append (kept_expression c hss) (ih hmore)

theorem kept_body {settings : Settings} {cs : List Component} {ss : List Segment}
    (h : bodySegments settings cs = .ok ss) :
    List.Forall₂ Kept (textsIn (unowned cs)) (bodiesOf ss) := by
  simp only [bodySegments, bind_eq_ok, pure_eq_ok] at h
  obtain ⟨sss, hsss, rfl⟩ := h
  rw [bodiesOf_intercalate]
  exact kept_column hsss

/-- A body is fed as it is moved into its file. -/
theorem fed_bodyLines {texts : List String} {body : List Segment} (n : Nat)
    (h : List.Forall₂ Kept texts (bodiesOf body)) :
    List.Forall₂ Fed texts ((bodyLineSegments n body).flatMap bodiesOf) := by
  unfold bodyLineSegments
  split
  · rename_i hempty
    rw [bodiesOf_of_isEmpty hempty] at h
    cases h
    exact .nil
  · rw [List.flatMap_singleton, bodiesOf_append, bodiesOf_code, List.nil_append]
    exact fed_hangSegments n h

/-! ## Files -/

/-- A text on its way into a file: inside a body, or directly into a template. -/
inductive Payload where
  | body (text : String)
  | template (text : String)
  deriving Repr, DecidableEq

def Payload.text : Payload → String
  | .body text => text
  | .template text => text

/-- The text has nothing that would have to be escaped: no double quote, no backslash, and no line
break, of which a template minds only two. -/
def Payload.survives : Payload → Bool
  | .body text => text.toList.all fun c => c != '"' && c != '\\' && !isLineBreak c
  | .template text => text.toList.all isVerbatim

/-- The literal is well formed and stands for the text, exactly if the text survives. -/
def Carries (p : Payload) (body : List Char) : Prop :=
  literalValue body = some p.text.toList ↔ p.survives = true

/-- The file is written in the segments, and their literals carry the payloads, in order. -/
def Emits (file : ViewFile) (ss : List Segment) (payloads : List Payload) : Prop :=
  textOf ss = file.text ∧ List.Forall₂ Carries payloads (bodiesOf ss)

theorem carries_template (s : String) : Carries (.template s) s.toList := by
  unfold Carries
  rw [Payload.text, literalValue_self_iff, Payload.survives, List.all_eq_true]

/-- A character that breaks no line needs no escape exactly if it is verbatim. -/
theorem isVerbatim_of_unbroken {c : Char} (h : isLineBreak c = false) :
    isVerbatim c = (c != '"' && c != '\\' && !isLineBreak c) := by
  have hfeed : c ≠ '\n' := by
    rintro rfl
    cases h
  have hreturn : c ≠ '\r' := by
    rintro rfl
    cases h
  rw [isVerbatim, bne_iff_ne.mpr hfeed, bne_iff_ne.mpr hreturn, h]
  simp

theorem carries_of_fed {s : String} {body : List Char} (h : Fed s body) : Carries (.body s) body := by
  unfold Carries
  rw [Payload.text, Payload.survives, List.all_eq_true]
  rcases h with ⟨hs, rfl⟩ | ⟨hs, hfeed⟩
  · have hunbroken : ∀ c ∈ s.toList, isLineBreak c = false := by simpa [isBroken] using hs
    rw [literalValue_self_iff]
    exact forall₂_congr fun c hc => by rw [isVerbatim_of_unbroken (hunbroken c hc)]
  · obtain ⟨c, hc, hbreak⟩ := List.any_eq_true.mp hs
    rw [literalValue_feed hfeed]
    refine ⟨fun h => (nomatch h), fun h => ?_⟩
    simpa [hbreak] using h c hc

theorem carries_bodies {texts : List String} {bodies : List (List Char)}
    (h : List.Forall₂ Fed texts bodies) : List.Forall₂ Carries (texts.map .body) bodies :=
  List.forall₂_map_left_iff.mpr (h.imp fun _ _ => carries_of_fed)

theorem carries_templates (texts : List String) :
    List.Forall₂ Carries (texts.map .template) ((texts.map quote).flatMap bodiesOf) := by
  induction texts with
  | nil => exact .nil
  | cons s rest ih => exact .cons (carries_template s) ih

theorem flatMap_bodiesOf_code (ls : List String) : (ls.map code).flatMap bodiesOf = [] := by
  simp [List.flatMap_eq_nil_iff]

/-- A file quotes what its lines quote. -/
theorem bodiesOf_fileSegments (name : String) (inner : List (List Segment)) :
    bodiesOf (fileSegments name inner) = inner.flatMap bodiesOf := by
  have hlines : ∀ ls, bodiesOf (linesSegments ls) = ls.flatMap bodiesOf := fun ls => by
    induction ls with
    | nil => rfl
    | cons line rest ih =>
      have hcons : linesSegments (line :: rest) = line ++ code "\n" ++ linesSegments rest := rfl
      rw [hcons, bodiesOf_append, bodiesOf_append, bodiesOf_code, List.append_nil, ih, List.flatMap_cons]
  rw [fileSegments, hlines, List.flatMap_append, List.flatMap_append, flatMap_bodiesOf_code,
    flatMap_bodiesOf_code, List.nil_append, List.append_nil]

section
variable {settings : Settings} {cs : List Component} {body : List Segment}

theorem emits_screen (name : String) (h : bodySegments settings cs = .ok body) :
    Emits (screenFile name (textOf body)) (fileSegments name (screenSegments body))
      ((textsIn (unowned cs)).map .body) := by
  refine ⟨by rw [textOf_fileSegments, map_screenSegments]; rfl, ?_⟩
  rw [bodiesOf_fileSegments, screenSegments, List.flatMap_append, List.flatMap_append,
    flatMap_bodiesOf_code, flatMap_bodiesOf_code, List.nil_append, List.append_nil]
  exact carries_bodies (fed_bodyLines 12 (kept_body h))

theorem emits_flowRoot (name title : String) (links : List Link)
    (h : bodySegments settings cs = .ok body) :
    Emits (flowRootFile name title (textOf body) links)
      (fileSegments name (flowRootSegments title body links))
      ((textsIn (unowned cs)).map .body ++ (links.map Link.title ++ [title]).map .template) := by
  refine ⟨by rw [textOf_fileSegments, map_flowRootSegments]; rfl, ?_⟩
  have hlines : (flowRootSegments title body links).flatMap bodiesOf =
      (bodyLineSegments 16 body).flatMap bodiesOf ++
        ((links.map Link.title ++ [title]).map quote).flatMap bodiesOf := by
    simp only [flowRootSegments, List.flatMap_append, List.map_append, List.map_map, List.flatMap_map,
      List.append_assoc]
    rfl
  rw [bodiesOf_fileSegments, hlines]
  exact List.rel_append (carries_bodies (fed_bodyLines 16 (kept_body h))) (carries_templates _)

theorem emits_flowChild (name title : String) :
    Emits (flowChildFile name title) (fileSegments name (flowChildSegments title))
      (["current view is " ++ title, title].map .template) := by
  refine ⟨by rw [textOf_fileSegments, map_flowChildSegments]; rfl, ?_⟩
  rw [bodiesOf_fileSegments]
  exact carries_templates _

theorem emits_tabBar (name : String) (tabs : List Tab) :
    Emits (tabBarFile name tabs) (fileSegments name (tabBarSegments tabs))
      ((tabs.flatMap fun tab => [tab.title, tab.icon]).map .template) := by
  refine ⟨by rw [textOf_fileSegments, map_tabBarSegments]; rfl, ?_⟩
  have hlines : (tabBarSegments tabs).flatMap bodiesOf =
      ((tabs.flatMap fun tab => [tab.title, tab.icon]).map quote).flatMap bodiesOf := by
    rw [tabBarSegments, List.flatMap_append, List.flatMap_append, List.flatMap_assoc, List.map_flatMap,
      List.flatMap_assoc, List.flatMap_singleton, List.flatMap_singleton, bodiesOf_code, bodiesOf_code,
      List.nil_append, List.append_nil]
    rfl
  rw [bodiesOf_fileSegments, hlines]
  exact carries_templates _

end

end Storyboard.Swift
