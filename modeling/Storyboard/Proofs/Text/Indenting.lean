import Storyboard.Proofs.Text.Joining
/-!
# Indenting in steps and in parts

Indenting a text twice is indenting it once by the sum, and a text in two parts with a line feed between
them is indented part by part. Both come down to the lines: an indented text has the lines of the text
before, the blank ones as they were and each other one behind its spaces. Only an empty line at the very
end is not there any more once the lines are put together, so every further step would lose another one.

* `lines_indentChars`: the lines of an indented text.
* `indentChars_indentChars_iff`: two steps are one exactly if no empty line is lost between them.
* `indent_composes`: texts that do not end in a line break are indented in steps and in parts.
-/
namespace Storyboard.Text

/-- The text is empty or its last character breaks no line. -/
def EndsUnbroken (s : List Char) : Prop := ∀ c ∈ s.getLast?, isLineBreak c = false

instance : DecidablePred EndsUnbroken := fun s => Option.decidableForallMem s.getLast?

/-! ## One line -/

theorem isBlankText_spaces_append (n : Nat) (l : List Char) :
    isBlankText (spaces n ++ l) = isBlankText l := by
  have hspaces : isBlankText (spaces n) = true :=
    List.all_eq_true.mpr fun c hc => List.eq_of_mem_replicate hc ▸ rfl
  rw [isBlankText, List.all_append, ← isBlankText, hspaces, Bool.true_and, isBlankText]

/-- Spaces in front of spaces. -/
theorem padLine_padLine (a b : Nat) (l : List Char) : padLine b (padLine a l) = padLine (a + b) l := by
  cases hl : isBlankText l with
  | true => simp only [padLine, hl, if_true]
  | false =>
    simp only [padLine, hl, isBlankText_spaces_append, Bool.false_eq_true, if_false]
    rw [← List.append_assoc, spaces, spaces, List.replicate_append_replicate, Nat.add_comm, spaces]

theorem isUnbroken_padLine (n : Nat) {l : List Char} (h : IsUnbroken l) : IsUnbroken (padLine n l) := by
  unfold padLine
  split
  · exact h
  · exact isUnbroken_append.mpr ⟨isUnbroken_spaces n, h⟩

theorem padLine_eq_nil {n : Nat} {l : List Char} : padLine n l = [] ↔ l = [] := by
  constructor
  · unfold padLine
    split
    · exact id
    · exact fun h => (List.append_eq_nil_iff.mp h).2
  · rintro rfl
    rfl

/-! ## The last line -/

theorem endsUnbroken_append (front : List Char) {rest : List Char} (h : rest ≠ []) :
    EndsUnbroken (front ++ rest) ↔ EndsUnbroken rest := by
  rw [EndsUnbroken, List.getLast?_append_of_ne_nil front h, EndsUnbroken]

theorem getLast?_cons_lines (line : List Char) {rest : List Char} (h : rest ≠ []) :
    (line :: lines rest).getLast? = (lines rest).getLast? := by
  obtain ⟨first, more, hls⟩ := List.exists_cons_of_ne_nil (mt lines_eq_nil.mp h)
  rw [hls, List.getLast?_cons_cons]

/-- A text that does not end in a line break has something on its last line. -/
theorem EndsUnbroken.getLast?_lines {s : List Char} (h : EndsUnbroken s) :
    (lines s).getLast? ≠ some [] := by
  induction s using lines.induct with
  | case1 => simp [lines]
  | case2 rest ih =>
    by_cases hrest : rest = []
    · subst hrest
      exact absurd (h '\n' rfl) (by decide)
    · rw [lines, getLast?_cons_lines [] hrest]
      exact ih ((endsUnbroken_append ['\r', '\n'] hrest).mp h)
  | case3 c rest hpair hbreak ih =>
    by_cases hrest : rest = []
    · subst hrest
      exact absurd (h c rfl) (by simp [hbreak])
    · rw [lines, if_pos hbreak, getLast?_cons_lines [] hrest]
      · exact ih ((endsUnbroken_append [c] hrest).mp h)
      · exact hpair
  | case4 c rest hpair hbreak ih =>
    rw [lines_cons_of_unbroken (Bool.eq_false_iff.mpr hbreak)]
    by_cases hrest : rest = []
    · simp [hrest, lines, consFirst]
    · have hlast := ih ((endsUnbroken_append [c] hrest).mp h)
      obtain ⟨line, more, hls⟩ := List.exists_cons_of_ne_nil (mt lines_eq_nil.mp hrest)
      rw [hls] at hlast ⊢
      rw [consFirst]
      -- the character goes in front of the first line, which may be the last
      cases more with
      | nil => simp
      | cons second more => rwa [List.getLast?_cons_cons] at hlast ⊢

/-! ## Both steps -/

/-- **The lines of an indented text.** They are those of the text, each that is not blank behind its
spaces. -/
theorem lines_indentChars (n : Nat) {s : List Char} (hlast : (lines s).getLast? ≠ some []) :
    lines (indentChars n s) = (lines s).map (padLine n) := by
  refine lines_joinLines_of_last (List.forall_mem_map.mpr fun l hl => ?_) fun h => hlast ?_
  · exact isUnbroken_padLine n (isUnbroken_of_mem_lines hl)
  · rw [List.getLast?_map, Option.map_eq_some_iff] at h
    obtain ⟨l, hl, hnil⟩ := h
    rw [hl, padLine_eq_nil.mp hnil]

theorem map_padLine_padLine (a b : Nat) (ls : List (List Char)) :
    (ls.map (padLine a)).map (padLine b) = ls.map (padLine (a + b)) := by
  rw [List.map_map]
  exact List.map_congr_left fun l _ => padLine_padLine a b l

/-- An empty line at the end of several leaves its line feed, and the next step drops it. -/
theorem indentChars_indentChars_of_empty_last (a b : Nat) {s : List Char} {front : List (List Char)}
    (hs : lines s = front ++ [[]]) (hne : front ≠ []) :
    indentChars (a + b) s = indentChars b (indentChars a s) ++ ['\n'] := by
  have hunbroken : ∀ l ∈ front.map (padLine a), IsUnbroken l := by
    refine List.forall_mem_map.mpr fun l hl => isUnbroken_padLine a (isUnbroken_of_mem_lines (s := s) ?_)
    rw [hs]
    exact List.mem_append_left _ hl
  have hjoin : ∀ n, indentChars n s = joinLines (front.map (padLine n)) ++ ['\n'] := by
    intro n
    rw [indentChars, hs, List.map_append, joinLines_append (by simpa using hne) (by simp)]
    rfl
  rw [hjoin a, hjoin (a + b), indentChars, lines_joinLines_feed (by simpa using hne) hunbroken,
    map_padLine_padLine]

/-- **Two steps are one** exactly if the text has no empty line at its end, or no other line. -/
theorem indentChars_indentChars_iff (a b : Nat) (s : List Char) :
    indentChars b (indentChars a s) = indentChars (a + b) s ↔
      (lines s).getLast? ≠ some [] ∨ lines s = [[]] := by
  constructor
  · intro h
    by_contra hempty
    rw [not_or, not_not] at hempty
    obtain ⟨hlast, hmore⟩ := hempty
    obtain ⟨front, hs⟩ := List.getLast?_eq_some_iff.mp hlast
    have hne : front ≠ [] := by
      rintro rfl
      exact hmore hs
    rw [indentChars_indentChars_of_empty_last a b hs hne] at h
    simpa using congrArg List.length h
  · rintro (hlast | hempty)
    · rw [indentChars, lines_indentChars a hlast, map_padLine_padLine, indentChars]
    · simp [indentChars, hempty, joinLines, padLine, isBlankText, lines]

/-! ## Both parts -/

theorem lines_append_feed_of_endsUnbroken {s : List Char} (h : EndsUnbroken s) (hne : s ≠ [])
    (t : List Char) : lines (s ++ '\n' :: t) = lines s ++ lines t := by
  obtain ⟨front, c, rfl⟩ := List.eq_nil_or_concat s |>.resolve_left hne
  have hc : isLineBreak c = false := h c (by simp)
  simpa using lines_append_feed_of_closed front hc t

/-- A line feed between two parts stays between them. -/
theorem indentChars_append_feed (n : Nat) {s t : List Char} (hs : EndsUnbroken s) (ht : t ≠ []) :
    indentChars n (s ++ '\n' :: t) = indentChars n s ++ '\n' :: indentChars n t := by
  have htail : (lines t).map (padLine n) ≠ [] := by simpa using mt lines_eq_nil.mp ht
  by_cases hne : s = []
  · -- a first line with nothing on it
    subst hne
    have hlines : lines ('\n' :: t) = [] :: lines t := lines_append_feed (s := []) (by simp [IsUnbroken]) t
    rw [List.nil_append, indentChars, hlines, List.map_cons]
    exact joinLines_append (List.cons_ne_nil [] []) htail
  · have hhead : (lines s).map (padLine n) ≠ [] := by simpa using mt lines_eq_nil.mp hne
    rw [indentChars, lines_append_feed_of_endsUnbroken hs hne, List.map_append,
      joinLines_append hhead htail, indentChars, indentChars]

/-- **Indenting composes.** A text that does not end in a line break is indented in steps: `a` spaces and
then `b` are `a + b`. It is indented in parts: with a line feed and any further text behind it, each on
its own. And its blank lines stay as they are, at every depth. -/
theorem indent_composes {s : String} (hs : EndsUnbroken s.toList) :
    (∀ a b, indent b (indent a s) = indent (a + b) s) ∧
    (∀ (t : String) (n : Nat), t ≠ "" → indent n (s ++ "\n" ++ t) = indent n s ++ "\n" ++ indent n t) ∧
    ∀ n, lines (indent n s).toList =
      (lines s.toList).map fun line => if isBlankText line then line else spaces n ++ line := by
  have hlast := hs.getLast?_lines
  refine ⟨fun a b => ?_, fun t n ht => ?_, fun n => ?_⟩
  · rw [indent, indent, String.toList_ofList,
      (indentChars_indentChars_iff a b s.toList).mpr (.inl hlast), indent]
  · have hparts := indentChars_append_feed n hs (mt String.toList_eq_nil_iff.mp ht)
    apply String.toList_inj.mp
    simpa [indent] using hparts
  · rw [indent, String.toList_ofList, lines_indentChars n hlast]
    rfl

/-- Three lines behind different breaks, the second of them blank. -/
def mixedBreaks : String := "a\r\n \t\u2028b"

theorem indent_composes_mixedBreaks :
    EndsUnbroken mixedBreaks.toList ∧
    indent 2 (indent 1 mixedBreaks) = indent 3 mixedBreaks ∧
    indent 3 mixedBreaks = "   a\n \t\n   b" ∧
    indent 3 (mixedBreaks ++ "\n" ++ "\nc\r") = indent 3 mixedBreaks ++ "\n" ++ indent 3 "\nc\r" ∧
    indent 3 "\nc\r" = "\n   c" ∧
    lines (indent 3 mixedBreaks).toList =
      (lines mixedBreaks.toList).map fun line => if isBlankText line then line else spaces 3 ++ line := by
  have hends : EndsUnbroken mixedBreaks.toList := by decide
  obtain ⟨hsteps, hparts, hlines⟩ := indent_composes hends
  exact ⟨hends, hsteps 1 2, by decide +kernel, hparts _ 3 (by decide), by decide +kernel, hlines 3⟩

end Storyboard.Text
