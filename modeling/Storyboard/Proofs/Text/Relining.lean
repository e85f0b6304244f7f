import Storyboard.Proofs.Text.Joining
/-!
# Indenting, one character at a time

Indenting cuts a text into lines and puts these together again. Seen from a single character that is
an edit which depends on what stands behind it and on nothing before: a line break becomes a line feed
and the padding of the line it opens, and every other character stays as it is. So a text can be
indented part by part.

* `reline`: the edits of a text, given what stands behind it.
* `indentChars_eq`, `hangChars_eq`: both ways of indenting are edits.
* `reline_append`: a text is edited part by part.
* `reline_of_unbroken`, `feed_mem_reline`: what becomes of a part without and with a line break.
-/
namespace Storyboard.Text

/-- The first line of a text. -/
def firstLine (s : List Char) : List Char := (lines s).headD []

/-- What a character becomes if `ahead` stands behind it, where `pad` gives the padding of a line. A
break that no line follows vanishes, and so does the first half of a pair. -/
def edit (pad : List Char → List Char) (c : Char) (ahead : List Char) : List Char :=
  if isLineBreak c then
    if ahead = [] ∨ c = '\r' ∧ ahead.head? = some '\n' then [] else '\n' :: pad (firstLine ahead)
  else [c]

/-- The edits of a text that has `after` behind it. -/
def reline (pad : List Char → List Char) (after : List Char) : List Char → List Char
  | [] => []
  | c :: rest => edit pad c (rest ++ after) ++ reline pad after rest

/-- Lines put together again, where each but the first is padded. -/
def rejoin (pad : List Char → List Char) : List (List Char) → List Char
  | [] => []
  | first :: rest => joinLines (first :: rest.map fun line => pad line ++ line)

theorem rejoin_consFirst (pad : List Char → List Char) (c : Char) (ls : List (List Char)) :
    rejoin pad (consFirst c ls) = c :: rejoin pad ls := by
  cases ls with
  | nil => simp [consFirst, rejoin, joinLines]
  | cons line rest => cases rest <;> simp [consFirst, rejoin, joinLines]

/-- An empty first line is followed by a break, unless it is the only one. -/
theorem rejoin_break (pad : List Char → List Char) (rest : List Char) :
    rejoin pad ([] :: lines rest) =
      (if rest = [] then [] else '\n' :: pad (firstLine rest)) ++ rejoin pad (lines rest) := by
  by_cases hrest : rest = []
  · simp [hrest, lines, rejoin, joinLines]
  · obtain ⟨line, more, hls⟩ := List.exists_cons_of_ne_nil (mt lines_eq_nil.mp hrest)
    rw [if_neg hrest, firstLine, hls]
    cases more <;> simp [rejoin, joinLines]

/-- Putting the lines of a text together again is an edit of its breaks. -/
theorem rejoin_lines (pad : List Char → List Char) (s : List Char) :
    rejoin pad (lines s) = reline pad [] s := by
  induction s using lines.induct with
  | case1 => rfl
  | case2 rest ih =>
    rw [lines, rejoin_break, ih]
    simp [reline, edit, isLineBreak, inRanges]
  | case3 c rest hpair hbreak ih =>
    have hno : ¬(c = '\r' ∧ rest.head? = some '\n') := by
      rintro ⟨rfl, hhead⟩
      obtain ⟨more, rfl⟩ := List.head?_eq_some_iff.mp hhead
      exact hpair more rfl rfl
    rw [lines, if_pos hbreak, rejoin_break, ih, reline, edit, if_pos hbreak, List.append_nil]
    simp only [hno, or_false]
    exact hpair
  | case4 c rest hpair hbreak ih =>
    rw [lines, if_neg hbreak, rejoin_consFirst, ih, reline, edit, if_neg hbreak, List.singleton_append]
    exact hpair

/-! ## The two ways of indenting -/

/-- What `indent` puts in front of a line. -/
def indentPad (n : Nat) (line : List Char) : List Char := if isBlankText line then [] else spaces n

/-- What `hang` puts in front of a line that is not the first. -/
def hangPad (n : Nat) (line : List Char) : List Char := if line.isEmpty then [] else spaces n

theorem indentChars_eq (n : Nat) (s : List Char) :
    indentChars n s = indentPad n (firstLine s) ++ reline (indentPad n) [] s := by
  have hline : padLine n = fun line => indentPad n line ++ line := by
    funext line
    unfold padLine indentPad
    split <;> rfl
  rw [← rejoin_lines, indentChars, hline, firstLine]
  cases lines s with
  | nil => simp [joinLines, indentPad, isBlankText, rejoin]
  | cons line rest => cases rest <;> simp [rejoin, joinLines]

theorem hangChars_eq (n : Nat) (s : List Char) :
    hangChars n s = reline (hangPad n) [] (s ++ ['\n']) := by
  have hline : hangLine n = fun line => hangPad n line ++ line := by
    funext line
    unfold hangLine hangPad
    split <;> rfl
  rw [← rejoin_lines, hangChars, hline]
  cases lines (s ++ ['\n']) <;> rfl

/-! ## Part by part -/

theorem reline_append (pad : List Char → List Char) (after s t : List Char) :
    reline pad after (s ++ t) = reline pad (t ++ after) s ++ reline pad after t := by
  induction s with
  | nil => rfl
  | cons c rest ih => simp [reline, ih]

theorem reline_of_unbroken (pad : List Char → List Char) (after : List Char) {s : List Char}
    (h : ∀ c ∈ s, isLineBreak c = false) : reline pad after s = s := by
  induction s with
  | nil => rfl
  | cons c rest ih =>
    obtain ⟨hc, hrest⟩ := List.forall_mem_cons.mp h
    rw [reline, ih hrest, edit, hc, if_neg Bool.false_ne_true, List.singleton_append]

/-- A line break in front of something that is no line feed leaves a line feed. -/
theorem feed_mem_reline (pad : List Char → List Char) {after : List Char} (hne : after ≠ [])
    (hafter : after.head? ≠ some '\n') {s : List Char} (h : ∃ c ∈ s, isLineBreak c = true) :
    '\n' ∈ reline pad after s := by
  induction s with
  | nil => simp at h
  | cons c rest ih =>
    rw [reline, List.mem_append]
    by_cases hrest : ∃ d ∈ rest, isLineBreak d = true
    · exact .inr (ih hrest)
    · left
      have hc : isLineBreak c = true := by
        obtain ⟨d, hd, hbreak⟩ := h
        rcases List.mem_cons.mp hd with rfl | hd
        · exact hbreak
        · exact absurd ⟨d, hd, hbreak⟩ hrest
      have hahead : (rest ++ after).head? ≠ some '\n' := by
        cases rest with
        | nil => exact hafter
        | cons d more =>
          intro hd
          simp only [List.cons_append, List.head?_cons, Option.some.injEq] at hd
          exact hrest ⟨d, List.mem_cons_self, hd ▸ rfl⟩
      rw [edit, if_pos hc, if_neg]
      · exact List.mem_cons_self
      · rintro (hnil | ⟨-, hfeed⟩)
        · exact hne (List.append_eq_nil_iff.mp hnil).2
        · exact hahead hfeed

end Storyboard.Text
