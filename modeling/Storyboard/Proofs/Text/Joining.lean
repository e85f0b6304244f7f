import Mathlib.Data.List.Basic
import Storyboard.Text.Lines
/-!
# Lines that are joined and cut again

The lines of a text that was joined from lines without breaks are these lines again, so indenting such a
text indents each of its lines. Two details matter: a break at the very end opens no line, so an empty
last line is lost unless a further break follows, and blank lines are not indented.

* `lines_joinLines`, `lines_joinLines_feed`: joined lines are cut at their joints.
* `lines_append_feed_of_closed`: the lines of a text with more text on further lines.
* `indent_joined`, `hang_joined`: joined lines are indented one by one.
* `joined_flatten`, `joined_blankSeparated`: joining groups of lines is joining lines.
-/
namespace Storyboard.Text

def IsUnbroken (s : List Char) : Prop := ∀ c ∈ s, isLineBreak c = false

instance : DecidablePred IsUnbroken := fun s =>
  List.decidableBAll (fun c => isLineBreak c = false) s

/-- A line with something to see on it. -/
structure IsInkedLine (s : String) : Prop where
  unbroken : IsUnbroken s.toList
  inked : isBlankText s.toList = false

instance : DecidablePred IsInkedLine := fun s =>
  decidable_of_iff (IsUnbroken s.toList ∧ isBlankText s.toList = false)
    ⟨fun h => ⟨h.1, h.2⟩, fun h => ⟨h.unbroken, h.inked⟩⟩

theorem IsInkedLine.ne_empty {s : String} (h : IsInkedLine s) : s ≠ "" := by
  rintro rfl
  exact absurd h.inked (by decide)

theorem isUnbroken_append {s t : List Char} :
    IsUnbroken (s ++ t) ↔ IsUnbroken s ∧ IsUnbroken t := List.forall_mem_append

/-- A line stays one with more text on either side. -/
theorem IsInkedLine.append {s t : String} (h : IsInkedLine s) (ht : IsUnbroken t.toList) :
    IsInkedLine (s ++ t) where
  unbroken := by
    rw [String.toList_append]
    exact isUnbroken_append.mpr ⟨h.unbroken, ht⟩
  inked := by
    rw [String.toList_append, isBlankText, List.all_append, ← isBlankText, h.inked, Bool.false_and]

theorem IsInkedLine.prepend {s t : String} (h : IsInkedLine s) (ht : IsUnbroken t.toList) :
    IsInkedLine (t ++ s) where
  unbroken := by
    rw [String.toList_append]
    exact isUnbroken_append.mpr ⟨ht, h.unbroken⟩
  inked := by
    rw [String.toList_append, isBlankText, List.all_append, ← isBlankText, ← isBlankText, h.inked,
      Bool.and_false]

theorem isUnbroken_spaces (n : Nat) : IsUnbroken (spaces n) := fun _ hc =>
  List.eq_of_mem_replicate hc ▸ rfl

/-! ## Cutting -/

theorem lines_eq_nil {s : List Char} : lines s = [] ↔ s = [] := by
  fun_cases lines s with
  | case1 => simp
  | case2 => simp
  | case3 => simp
  | case4 c rest => cases h : lines rest <;> simp [consFirst]

theorem lines_cons_of_unbroken {c : Char} (h : isLineBreak c = false) (rest : List Char) :
    lines (c :: rest) = consFirst c (lines rest) := by
  have hc : c ≠ '\r' := by
    rintro rfl
    exact absurd h (by decide)
  rw [lines, h, if_neg Bool.false_ne_true]
  exact fun _ he => absurd he hc

theorem lines_append_feed {s : List Char} (h : IsUnbroken s) (rest : List Char) :
    lines (s ++ '\n' :: rest) = s :: lines rest := by
  induction s with
  | nil => rfl
  | cons c s ih =>
    obtain ⟨hc, hs⟩ := List.forall_mem_cons.mp h
    rw [List.cons_append, lines_cons_of_unbroken hc, ih hs, consFirst]

/-- A line feed behind a character that is no break ends a line and nothing else. -/
theorem lines_append_feed_of_closed (front : List Char) {c : Char} (hc : isLineBreak c = false)
    (rest : List Char) :
    lines (front ++ c :: '\n' :: rest) = lines (front ++ [c]) ++ lines rest := by
  have hfeed : c ≠ '\n' := by
    rintro rfl
    exact absurd hc (by decide)
  induction front using lines.induct with
  | case1 => simp [lines_cons_of_unbroken hc, lines, consFirst, isLineBreak, inRanges]
  | case2 front ih => simp only [List.cons_append, lines, ih]
  | case3 d front hpair hbreak ih =>
    -- a carriage return does not get its line feed from what stands behind the front
    have hnot : ∀ (behind more : List Char), d = '\r' → front ++ c :: behind = '\n' :: more → False := by
      intro behind more hd he
      cases front with
      | nil => exact hfeed (List.cons.inj he).1
      | cons first front =>
        obtain ⟨rfl, -⟩ := List.cons.inj he
        exact hpair front hd rfl
    rw [List.cons_append, List.cons_append, lines, lines, if_pos hbreak, if_pos hbreak, ih,
      List.cons_append]
    · exact hnot []
    · exact hnot _
  | case4 d front hpair hbreak ih =>
    have hd := Bool.eq_false_iff.mpr hbreak
    rw [List.cons_append, List.cons_append, lines_cons_of_unbroken hd, lines_cons_of_unbroken hd, ih]
    cases hls : lines (front ++ [c]) with
    | nil => exact absurd (lines_eq_nil.mp hls) (by simp)
    | cons first more => rfl

theorem lines_of_unbroken {s : List Char} (h : IsUnbroken s) (hne : s ≠ []) : lines s = [s] := by
  induction s with
  | nil => exact absurd rfl hne
  | cons c s ih =>
    obtain ⟨hc, hs⟩ := List.forall_mem_cons.mp h
    rw [lines_cons_of_unbroken hc]
    by_cases hnil : s = []
    · rw [hnil, lines, consFirst]
    · rw [ih hs hnil, consFirst]

theorem joinLines_cons_cons (first second : List Char) (rest : List (List Char)) :
    joinLines (first :: second :: rest) = first ++ '\n' :: joinLines (second :: rest) := by
  simp [joinLines, List.intercalate_cons_cons]

theorem joinLines_append {ls ms : List (List Char)} (hls : ls ≠ []) (hms : ms ≠ []) :
    joinLines (ls ++ ms) = joinLines ls ++ '\n' :: joinLines ms := by
  induction ls with
  | nil => exact absurd rfl hls
  | cons first rest ih =>
    cases rest with
    | nil =>
      obtain ⟨second, more, rfl⟩ := List.exists_cons_of_ne_nil hms
      simp [joinLines]
    | cons second rest =>
      have hrest := ih (List.cons_ne_nil _ _)
      rw [List.cons_append] at hrest
      rw [List.cons_append, List.cons_append, joinLines_cons_cons, hrest, joinLines_cons_cons,
        List.append_assoc, List.cons_append]

/-- Lines are cut apart again if there is something on the last one. -/
theorem lines_joinLines_of_last {ls : List (List Char)} (h : ∀ l ∈ ls, IsUnbroken l)
    (hlast : ls.getLast? ≠ some []) : lines (joinLines ls) = ls := by
  induction ls with
  | nil => rfl
  | cons first rest ih =>
    obtain ⟨hfirst, hrest⟩ := List.forall_mem_cons.mp h
    cases rest with
    | nil => simpa [joinLines] using lines_of_unbroken hfirst (by simpa using hlast)
    | cons second rest =>
      rw [List.getLast?_cons_cons] at hlast
      rw [joinLines_cons_cons, lines_append_feed hfirst, ih hrest hlast]

theorem lines_joinLines {ls : List (List Char)} (h : ∀ l ∈ ls, IsUnbroken l ∧ l ≠ []) :
    lines (joinLines ls) = ls :=
  lines_joinLines_of_last (fun l hl => (h l hl).1) fun hlast =>
    (h [] (List.mem_of_getLast? hlast)).2 rfl

/-- With a break at the end, the last line may be empty. -/
theorem lines_joinLines_feed {ls : List (List Char)} (hne : ls ≠ []) (h : ∀ l ∈ ls, IsUnbroken l) :
    lines (joinLines ls ++ ['\n']) = ls := by
  induction ls with
  | nil => exact absurd rfl hne
  | cons first rest ih =>
    obtain ⟨hfirst, hrest⟩ := List.forall_mem_cons.mp h
    cases rest with
    | nil => simpa [joinLines, lines] using lines_append_feed hfirst []
    | cons second rest =>
      rw [joinLines_cons_cons, List.append_assoc, List.cons_append, lines_append_feed hfirst,
        ih (List.cons_ne_nil _ _) hrest]

theorem isUnbroken_of_mem_lines {s l : List Char} (h : l ∈ lines s) : IsUnbroken l := by
  have hnil : IsUnbroken [] := fun c hc => absurd hc List.not_mem_nil
  induction s using lines.induct generalizing l with
  | case1 => cases h
  | case2 rest ih =>
    rw [lines] at h
    rcases List.mem_cons.mp h with rfl | h
    · exact hnil
    · exact ih h
  | case3 c rest hpair hbreak ih =>
    rw [lines, if_pos hbreak] at h
    · rcases List.mem_cons.mp h with rfl | h
      · exact hnil
      · exact ih h
    · exact hpair
  | case4 c rest hpair hbreak ih =>
    rw [lines_cons_of_unbroken (Bool.eq_false_iff.mpr hbreak)] at h
    have hc : ∀ l, IsUnbroken l → IsUnbroken (c :: l) := fun l hl =>
      List.forall_mem_cons.mpr ⟨Bool.eq_false_iff.mpr hbreak, hl⟩
    cases hls : lines rest with
    | nil =>
      rw [hls, consFirst, List.mem_singleton] at h
      exact h ▸ hc [] hnil
    | cons first more =>
      rw [hls, consFirst] at h
      rw [hls] at ih
      rcases List.mem_cons.mp h with rfl | h
      · exact hc _ (ih List.mem_cons_self)
      · exact ih (List.mem_cons_of_mem _ h)

theorem isInkedLine_of_mem_inkedLines {s l : String} (h : l ∈ inkedLines s) : IsInkedLine l := by
  obtain ⟨chars, hchars, rfl⟩ := List.mem_map.mp h
  obtain ⟨hmem, hinked⟩ := List.mem_filter.mp hchars
  exact ⟨by simpa using isUnbroken_of_mem_lines hmem, by simpa using hinked⟩

/-! ## Joined lines -/

/-- Lines as one text. -/
def joined (ls : List String) : String := "\n".intercalate ls

theorem toList_joined (ls : List String) : (joined ls).toList = joinLines (ls.map String.toList) :=
  String.toList_intercalate

@[simp] theorem joined_singleton (l : String) : joined [l] = l := by simp [joined]

theorem joined_cons_cons (first second : String) (rest : List String) :
    joined (first :: second :: rest) = first ++ "\n" ++ joined (second :: rest) := by
  simp [joined, String.intercalate_cons_cons]

theorem joined_append {ls ms : List String} (hls : ls ≠ []) (hms : ms ≠ []) :
    joined (ls ++ ms) = joined ls ++ "\n" ++ joined ms :=
  String.intercalate_append_of_ne_nil hls hms

theorem joined_isEmpty (ls : List String) (h : ∀ l ∈ ls.head?, l ≠ "") :
    (joined ls).isEmpty = true ↔ ls = [] := by
  cases ls with
  | nil => simp [joined]
  | cons first rest =>
    have hne : first ≠ "" := h first rfl
    cases rest <;> simp [joined, String.intercalate_cons_cons, hne]

/-- Lines with something on them are cut apart again. -/
theorem lines_joined {ls : List String} (h : ∀ l ∈ ls, IsInkedLine l) :
    lines (joined ls).toList = ls.map String.toList := by
  rw [toList_joined]
  refine lines_joinLines (List.forall_mem_map.mpr fun s hs => ?_)
  exact ⟨(h s hs).unbroken, mt String.toList_eq_nil_iff.mp (h s hs).ne_empty⟩

theorem inkedLines_joined {ls : List String} (h : ∀ l ∈ ls, IsInkedLine l) :
    inkedLines (joined ls) = ls := by
  rw [inkedLines, lines_joined h, List.filter_map, List.map_map, List.filter_eq_self.mpr]
  · simp
  · intro s hs
    simp [(h s hs).inked]

/-- Joining joined groups is joining all their lines. -/
theorem joined_flatten {lss : List (List String)} (h : ∀ ls ∈ lss, ls ≠ []) :
    joined (lss.map joined) = joined lss.flatten := by
  induction lss with
  | nil => rfl
  | cons ls rest ih =>
    obtain ⟨hls, hrest⟩ := List.forall_mem_cons.mp h
    cases rest with
    | nil => simp
    | cons ms more =>
      have hne : (ms :: more).flatten ≠ [] := by
        simp [List.forall_mem_cons.mp hrest |>.1]
      rw [List.flatten_cons, joined_append hls hne, ← ih hrest]
      simp [joined_cons_cons]

/-- Groups of lines with an empty line between neighbours. -/
theorem joined_blankSeparated {lss : List (List String)} (h : ∀ ls ∈ lss, ls ≠ []) :
    "\n\n".intercalate (lss.map joined) = joined ([""].intercalate lss) := by
  induction lss with
  | nil => rfl
  | cons ls rest ih =>
    obtain ⟨hls, hrest⟩ := List.forall_mem_cons.mp h
    cases rest with
    | nil => simp
    | cons ms more =>
      have hne : [""].intercalate (ms :: more) ≠ [] := by
        cases more <;> simp [List.intercalate_cons_cons, List.forall_mem_cons.mp hrest |>.1]
      have hcut : "\n\n".intercalate ((ls :: ms :: more).map joined) =
          joined ls ++ ("\n" ++ "\n") ++ "\n\n".intercalate ((ms :: more).map joined) :=
        String.intercalate_cons_cons
      rw [hcut, ih hrest, List.intercalate_cons_cons, List.append_assoc, joined_append hls (by simp),
        joined_append (by simp) hne, joined_singleton]
      simp only [String.append_assoc, String.empty_append]

theorem forall_mem_blankSeparated {P : String → Prop} (hblank : P "") {lss : List (List String)}
    (h : ∀ ls ∈ lss, ∀ l ∈ ls, P l) : ∀ l ∈ [""].intercalate lss, P l := by
  induction lss with
  | nil => exact fun l hl => absurd hl List.not_mem_nil
  | cons ls rest ih =>
    obtain ⟨hls, hrest⟩ := List.forall_mem_cons.mp h
    cases rest with
    | nil => simpa using hls
    | cons ms more =>
      rw [List.intercalate_cons_cons]
      exact List.forall_mem_append.mpr
        ⟨List.forall_mem_append.mpr ⟨hls, List.forall_mem_singleton.mpr hblank⟩, ih hrest⟩

theorem head_blankSeparated {P : String → Prop} {lss : List (List String)}
    (h : ∀ ls ∈ lss, ls ≠ [] ∧ ∀ l ∈ ls, P l) : ∀ l ∈ ([""].intercalate lss).head?, P l := by
  cases lss with
  | nil => simp
  | cons ls rest =>
    obtain ⟨⟨hne, hls⟩, -⟩ := List.forall_mem_cons.mp h
    obtain ⟨first, more, rfl⟩ := List.exists_cons_of_ne_nil hne
    have hfirst := hls first List.mem_cons_self
    cases rest <;> simpa [List.intercalate_cons_cons] using hfirst

/-! ## Indenting -/

/-- A line `n` spaces in. -/
def padded (n : Nat) (l : String) : String := String.ofList (spaces n) ++ l

/-- A line `n` spaces in, unless it is empty. -/
def hung (n : Nat) (l : String) : String := if l = "" then l else padded n l

theorem hung_of_isInkedLine {l : String} (h : IsInkedLine l) (n : Nat) : hung n l = padded n l :=
  if_neg h.ne_empty

theorem map_hung_blankSeparated (n : Nat) (lss : List (List String)) :
    ([""].intercalate lss).map (hung n) = [""].intercalate (lss.map (List.map (hung n))) := by
  induction lss with
  | nil => rfl
  | cons ls rest ih =>
    cases rest with
    | nil => simp
    | cons ms more =>
      have hblank : hung n "" = "" := rfl
      rw [List.intercalate_cons_cons, List.map_append, List.map_append, ih]
      simp [List.intercalate_cons_cons, hblank]

theorem indent_joined (n : Nat) {ls : List String} (h : ∀ l ∈ ls, IsInkedLine l) :
    indent n (joined ls) = joined (ls.map (padded n)) := by
  have hpad : (ls.map String.toList).map (padLine n) = (ls.map (padded n)).map String.toList := by
    rw [List.map_map, List.map_map]
    refine List.map_congr_left fun s hs => ?_
    simp [padLine, (h s hs).inked, padded]
  rw [indent, indentChars, lines_joined h, hpad, ← toList_joined, String.ofList_toList]

theorem hang_joined (n : Nat) {first : String} (hne : first ≠ "") {rest : List String}
    (h : ∀ l ∈ first :: rest, IsUnbroken l.toList) :
    padded n (hang n (joined (first :: rest))) = joined ((first :: rest).map (hung n)) := by
  have hlines : lines ((joined (first :: rest)).toList ++ ['\n']) =
      first.toList :: rest.map String.toList := by
    rw [toList_joined]
    refine lines_joinLines_feed (by simp) fun l hl => ?_
    obtain ⟨s, hs, rfl⟩ := List.mem_map.mp hl
    exact h s hs
  have hhang : (rest.map String.toList).map (hangLine n) = (rest.map (hung n)).map String.toList := by
    rw [List.map_map, List.map_map]
    refine List.map_congr_left fun s _ => ?_
    by_cases hs : s = "" <;> simp [hangLine, hung, padded, hs]
  have hfirst : hung n first = padded n first := if_neg hne
  apply String.toList_inj.mp
  rw [List.map_cons, hfirst, toList_joined, List.map_cons, ← hhang, hang, hangChars, hlines]
  cases rest <;> simp [padded, joinLines, List.intercalate_cons_cons]

/-! ## Lines of a file -/

theorem linesText_append (ls ms : List String) : linesText (ls ++ ms) = linesText ls ++ linesText ms := by
  simp [linesText]

theorem linesText_joined {ls : List String} (h : ls ≠ []) : linesText [joined ls] = linesText ls := by
  induction ls with
  | nil => exact absurd rfl h
  | cons first rest ih =>
    cases rest with
    | nil => rw [joined_singleton]
    | cons second rest =>
      have hcons : linesText (first :: second :: rest) = first ++ "\n" ++ linesText (second :: rest) := by
        simp [linesText]
      rw [hcons, ← ih (List.cons_ne_nil _ _), joined_cons_cons]
      simp [linesText, String.append_assoc]

end Storyboard.Text
