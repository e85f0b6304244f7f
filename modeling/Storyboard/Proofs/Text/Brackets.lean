import Mathlib.Data.List.Basic
import Storyboard.Proofs.Text.Joining
import Storyboard.Proofs.Text.Relining
/-!
# Brackets

A text is gone over with the closing brackets that are still awaited, innermost first: an opening bracket
awaits its partner, and a closing one has to be the one that is awaited next. The text is bracketed if
that never fails and nothing is awaited at its end.

Only the brackets of a text count. Joining texts joins their brackets, and indenting, which edits line
breaks and adds spaces, keeps them.

* `awaited`, `IsBracketed`: going over a text, and what it is to be bracketed.
* `awaited_brackets`: only the brackets count.
* `IsBalanced.append`, `IsBalanced.insert`: bracketed pieces beside and inside each other.
* `brackets_indent`, `brackets_hang`, `brackets_inkedLines`: what cutting and indenting keeps.
-/
namespace Storyboard.Text

/-- The brackets that open, each with the one that closes it. -/
def bracketPairs : List (Char × Char) := [('(', ')'), ('[', ']'), ('\x7b', '\x7d')]

def isBracket (c : Char) : Bool := bracketPairs.any fun p => c == p.1 || c == p.2

/-- The closing brackets awaited behind a character, where `before` are awaited in front of it. There is
no answer for a closing bracket that is not awaited next. -/
def awaitedNext (before : List Char) (c : Char) : Option (List Char) :=
  match bracketPairs.lookup c with
  | some closing => some (closing :: before)
  | none =>
    if isBracket c then
      match before with
      | [] => none
      | first :: rest => if c = first then some rest else none
    else some before

/-- The closing brackets awaited behind a text. -/
def awaited (before : List Char) (s : List Char) : Option (List Char) := s.foldlM awaitedNext before

/-- The brackets of the text are matched, and properly nested. -/
def IsBracketed (s : String) : Prop := awaited [] s.toList = some []

instance : DecidablePred IsBracketed := fun s =>
  inferInstanceAs (Decidable (awaited [] s.toList = some []))

/-- No character of the text is a bracket. -/
def IsUnbracketed (s : String) : Prop := ∀ c ∈ s.toList, isBracket c = false

instance : DecidablePred IsUnbracketed := fun s =>
  List.decidableBAll (fun c => isBracket c = false) s.toList

/-- The brackets of a text. -/
def brackets (s : String) : List Char := s.toList.filter isBracket

/-! ## Going over brackets -/

@[simp] theorem awaited_nil (before : List Char) : awaited before [] = some before := rfl

theorem awaited_cons (before : List Char) (c : Char) (s : List Char) :
    awaited before (c :: s) = (awaitedNext before c).bind (awaited · s) := rfl

theorem awaited_append (before s t : List Char) :
    awaited before (s ++ t) = (awaited before s).bind (awaited · t) := List.foldlM_append

/-- What is awaited further out does not matter. -/
theorem awaitedNext_append {before after : List Char} {c : Char}
    (h : awaitedNext before c = some after) (outer : List Char) :
    awaitedNext (before ++ outer) c = some (after ++ outer) := by
  unfold awaitedNext at h ⊢
  split
  · rename_i closing hclosing
    simp only [hclosing, Option.some.injEq] at h
    subst h
    rfl
  · rename_i hnone
    simp only [hnone] at h
    split
    · rename_i hbracket
      simp only [hbracket, if_true] at h
      cases before with
      | nil => cases h
      | cons first rest =>
        simp only at h
        split at h
        · rename_i hfirst
          cases h
          simp [hfirst]
        · cases h
    · rename_i hplain
      simp only [hplain, Bool.false_eq_true, if_false, Option.some.injEq] at h
      subst h
      rfl

theorem awaited_outer {before after s : List Char} (h : awaited before s = some after)
    (outer : List Char) : awaited (before ++ outer) s = some (after ++ outer) := by
  induction s generalizing before with
  | nil =>
    cases h
    rfl
  | cons c rest ih =>
    rw [awaited_cons] at h ⊢
    obtain ⟨next, hnext, h⟩ := Option.bind_eq_some_iff.mp h
    rw [awaitedNext_append hnext outer, Option.bind_some]
    exact ih h

theorem awaitedNext_of_plain {c : Char} (h : isBracket c = false) (before : List Char) :
    awaitedNext before c = some before := by
  have hnone : bracketPairs.lookup c = none := by
    rw [List.lookup_eq_none_iff]
    intro p hp
    simp only [isBracket, List.any_eq_false, Bool.or_eq_true, not_or, Bool.not_eq_true] at h
    rw [bne, (h p hp).1, Bool.not_false]
  simp [awaitedNext, hnone, h]

/-- Only the brackets count. -/
theorem awaited_brackets (before s : List Char) :
    awaited before (s.filter isBracket) = awaited before s := by
  induction s generalizing before with
  | nil => rfl
  | cons c rest ih =>
    cases hc : isBracket c with
    | true =>
      rw [List.filter_cons_of_pos hc, awaited_cons, awaited_cons]
      congr 1
      funext next
      exact ih next
    | false =>
      rw [List.filter_cons_of_neg (by simp [hc]), ih, awaited_cons, awaitedNext_of_plain hc]
      rfl

/-! ## Balanced brackets -/

/-- The brackets are matched, and properly nested. -/
def IsBalanced (bs : List Char) : Prop := awaited [] bs = some []

instance : DecidablePred IsBalanced := fun bs => inferInstanceAs (Decidable (awaited [] bs = some []))

theorem isBracketed_iff {s : String} : IsBracketed s ↔ IsBalanced (brackets s) := by
  unfold IsBracketed IsBalanced brackets
  rw [awaited_brackets]

example : IsBracketed "f(x[0]) \x7b \x7d" ∧ ¬IsBracketed "f(x[0)]" ∧ ¬IsBracketed "f(x" := by decide

theorem isBalanced_nil : IsBalanced [] := rfl

/-- Balanced brackets leave awaited what is awaited in front of them. -/
theorem IsBalanced.awaited_eq {bs : List Char} (h : IsBalanced bs) (before : List Char) :
    awaited before bs = some before := by
  simpa using awaited_outer h before

theorem IsBalanced.append {bs cs : List Char} (hb : IsBalanced bs) (hc : IsBalanced cs) :
    IsBalanced (bs ++ cs) := by
  unfold IsBalanced
  rw [awaited_append, hb.awaited_eq, Option.bind_some, hc.awaited_eq]

/-- Balanced brackets can be put in anywhere. -/
theorem IsBalanced.insert {front back bs : List Char} (h : IsBalanced (front ++ back))
    (hb : IsBalanced bs) : IsBalanced (front ++ bs ++ back) := by
  unfold IsBalanced at h ⊢
  rw [awaited_append] at h
  rw [awaited_append, awaited_append]
  obtain ⟨between, hfront, hback⟩ := Option.bind_eq_some_iff.mp h
  rw [hfront, Option.bind_some, hb.awaited_eq, Option.bind_some, hback]

theorem isBalanced_flatMap {α : Type} {f : α → List Char} {as : List α}
    (h : ∀ a ∈ as, IsBalanced (f a)) : IsBalanced (as.flatMap f) := by
  induction as with
  | nil => exact isBalanced_nil
  | cons a rest ih =>
    obtain ⟨ha, hrest⟩ := List.forall_mem_cons.mp h
    exact ha.append (ih hrest)

/-! ## The brackets of a text -/

theorem isUnbracketed_iff {s : String} : IsUnbracketed s ↔ brackets s = [] := by
  simp [IsUnbracketed, brackets, List.filter_eq_nil_iff]

@[simp] theorem brackets_append (s t : String) : brackets (s ++ t) = brackets s ++ brackets t := by
  simp [brackets]

theorem brackets_join (ss : List String) : brackets (String.join ss) = ss.flatMap brackets := by
  simp only [brackets, String.toList_join, List.filter_flatMap]
  rfl

theorem isUnbracketed_append {s t : String} :
    IsUnbracketed (s ++ t) ↔ IsUnbracketed s ∧ IsUnbracketed t := by
  simp [isUnbracketed_iff]

/-- Texts with a separator without brackets between neighbours. -/
theorem brackets_intercalate {sep : String} (hsep : IsUnbracketed sep) (ss : List String) :
    brackets (sep.intercalate ss) = ss.flatMap brackets := by
  induction ss with
  | nil => rfl
  | cons s rest ih =>
    cases rest with
    | nil => simp
    | cons t more =>
      rw [String.intercalate_cons_cons, brackets_append, brackets_append, isUnbracketed_iff.mp hsep, ih]
      simp

theorem brackets_linesText (ls : List String) : brackets (linesText ls) = ls.flatMap brackets := by
  have hfeed : brackets "\n" = [] := rfl
  rw [linesText, brackets_join, List.flatMap_map]
  refine List.flatMap_congr fun l _ => ?_
  rw [brackets_append, hfeed, List.append_nil]

/-! ## Cutting and indenting -/

/-- What holds of no bracket tells characters from brackets. -/
theorem isBracket_eq_false {p : Char → Bool}
    (hbrackets : ∀ q ∈ bracketPairs, p q.1 = false ∧ p q.2 = false) {c : Char} (h : p c = true) :
    isBracket c = false := by
  by_contra hc
  rw [Bool.not_eq_false] at hc
  obtain ⟨q, hq, hmatch⟩ := List.any_eq_true.mp hc
  obtain ⟨hopening, hclosing⟩ := hbrackets q hq
  simp only [Bool.or_eq_true, beq_iff_eq] at hmatch
  rcases hmatch with rfl | rfl
  · rw [hopening] at h
    cases h
  · rw [hclosing] at h
    cases h

theorem isBracket_of_lineBreak {c : Char} (h : isLineBreak c = true) : isBracket c = false :=
  isBracket_eq_false (by decide) h

theorem isBracket_of_blank {c : Char} (h : isBlank c = true) : isBracket c = false :=
  isBracket_eq_false (by decide) h

/-- The padding of a line is spaces, or nothing. -/
theorem filter_padding (bare : Bool) (n : Nat) :
    (if bare = true then [] else spaces n).filter isBracket = [] := by
  split
  · rfl
  · simp [spaces, isBracket, bracketPairs]

/-- Edits of line breaks keep the brackets, if the padding has none. -/
theorem filter_reline {pad : List Char → List Char} (hpad : ∀ line, (pad line).filter isBracket = [])
    (after s : List Char) : (reline pad after s).filter isBracket = s.filter isBracket := by
  induction s with
  | nil => rfl
  | cons c rest ih =>
    have hedit : (edit pad c (rest ++ after)).filter isBracket = [c].filter isBracket := by
      unfold edit
      split
      · rename_i hbreak
        have hfeed : isBracket '\n' = false := rfl
        have hc := isBracket_of_lineBreak hbreak
        split
        · simp [hc]
        · simp [hc, hfeed, hpad]
      · rfl
    rw [reline, List.filter_append, hedit, ih, ← List.filter_append, List.singleton_append]

@[simp] theorem brackets_indent (n : Nat) (s : String) : brackets (indent n s) = brackets s := by
  have hpad : ∀ line, (indentPad n line).filter isBracket = [] := fun line => filter_padding _ n
  rw [brackets, indent, String.toList_ofList, indentChars_eq, List.filter_append, hpad,
    filter_reline hpad, List.nil_append, brackets]

@[simp] theorem brackets_hang (n : Nat) (s : String) : brackets (hang n s) = brackets s := by
  have hpad : ∀ line, (hangPad n line).filter isBracket = [] := fun line => filter_padding _ n
  have hfeed : ['\n'].filter isBracket = [] := rfl
  rw [brackets, hang, String.toList_ofList, hangChars_eq, filter_reline hpad, List.filter_append, hfeed,
    List.append_nil, brackets]

theorem flatMap_filter_consFirst (c : Char) (ls : List (List Char)) :
    (consFirst c ls).flatMap (List.filter isBracket) =
      [c].filter isBracket ++ ls.flatMap (List.filter isBracket) := by
  cases ls with
  | nil => simp [consFirst]
  | cons line rest =>
    rw [consFirst, List.flatMap_cons, List.flatMap_cons, ← List.append_assoc, ← List.filter_append,
      List.singleton_append]

/-- The lines of a text have its brackets. -/
theorem flatMap_filter_lines (s : List Char) :
    (lines s).flatMap (List.filter isBracket) = s.filter isBracket := by
  induction s using lines.induct with
  | case1 => rfl
  | case2 rest ih =>
    rw [lines, List.flatMap_cons, ih]
    rfl
  | case3 c rest hpair hbreak ih =>
    rw [lines, if_pos hbreak, List.flatMap_cons, ih, List.filter_cons_of_neg]
    · rfl
    · simp [isBracket_of_lineBreak hbreak]
    · exact hpair
  | case4 c rest hpair hbreak ih =>
    rw [lines_cons_of_unbroken (by simpa using hbreak), flatMap_filter_consFirst, ih,
      ← List.filter_append, List.singleton_append]

/-- Leaving out blank lines leaves out no bracket. -/
theorem brackets_inkedLines (s : String) : (inkedLines s).flatMap brackets = brackets s := by
  have hblank : ∀ line : List Char, isBlankText line = true → line.filter isBracket = [] := by
    intro line hline
    rw [List.filter_eq_nil_iff]
    intro c hc
    rw [isBracket_of_blank (List.all_eq_true.mp hline c hc)]
    exact Bool.false_ne_true
  have hkeep : ∀ ls : List (List Char),
      (ls.filter fun line => !isBlankText line).flatMap (List.filter isBracket) =
        ls.flatMap (List.filter isBracket) := by
    intro ls
    induction ls with
    | nil => rfl
    | cons line rest ih =>
      cases hline : isBlankText line with
      | true => simp [hline, hblank line hline, ih]
      | false => simp [hline, ih]
  have hofList : brackets ∘ String.ofList = List.filter isBracket := by
    funext line
    simp [brackets]
  rw [inkedLines, List.flatMap_map]
  change List.flatMap (brackets ∘ String.ofList) _ = _
  rw [hofList, hkeep, flatMap_filter_lines, brackets]

end Storyboard.Text
