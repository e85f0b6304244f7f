import Storyboard.Text.Radix
/-!
# String literals

What a literal on one line stands for. Its body ends at the first double quote and must not hold a
line feed or a carriage return. A backslash starts an escape: a single character, or the number of a
character in braces. Any other character stands for itself. A body with an interpolation has no value
of its own.

* `literalValue`: the value of the body of a literal, if it is well formed and has one.
* `literalValue_feed`: no body with a line feed is well formed.
* `literalValue_self_iff`: which bodies stand for themselves.
-/
namespace Storyboard.Swift

open Storyboard.Text

/-- What a backslash and a character stand for. -/
def escaped? (c : Char) : Option Char :=
  match c with
  | '0' => some '\x00'
  | 't' => some '\t'
  | 'n' => some '\n'
  | 'r' => some '\r'
  | '\\' => some '\\'
  | '"' => some '"'
  | '\x27' => some '\x27'
  | _ => none

/-- The character of a number in one to eight hexadecimal digits. -/
def numbered? (digits : List Char) : Option Char :=
  let n := numberOf 16 digits
  if 0 < digits.length ∧ digits.length ≤ 8 ∧ n.isValidChar then some (Char.ofNat n) else none

/-- Characters that stand for themselves. -/
def isVerbatim (c : Char) : Bool := c != '"' && c != '\\' && c != '\n' && c != '\r'

mutual

/-- The value of the body of a literal. -/
def literalValue : List Char → Option (List Char)
  | [] => some []
  | '\\' :: 'u' :: '\x7b' :: rest => numberedValue [] rest
  | '\\' :: c :: rest => do return (← escaped? c) :: (← literalValue rest)
  | c :: rest => if isVerbatim c then (c :: ·) <$> literalValue rest else none

/-- The value of the rest of a body from within a number, of which `digits` are read. -/
def numberedValue (digits : List Char) : List Char → Option (List Char)
  | [] => none
  | '\x7d' :: rest => do return (← numbered? digits) :: (← literalValue rest)
  | c :: rest => if isDigitOf 16 c then numberedValue (digits ++ [c]) rest else none

end

/-- What is known of a body `b` that has the value `v`. -/
structure Reads (b v : List Char) : Prop where
  feed : '\n' ∉ b
  length_le : v.length ≤ b.length
  length_lt : '\\' ∈ b → v.length < b.length

/-- By induction on how a body is read: an escape has more characters than its value. -/
theorem reads_of_value :
    (∀ b v, literalValue b = some v → Reads b v) ∧
      ∀ digits b v, numberedValue digits b = some v → '\n' ∉ b ∧ v.length ≤ b.length := by
  refine literalValue.mutual_induct (fun b => ∀ v, literalValue b = some v → Reads b v)
    (fun digits b => ∀ v, numberedValue digits b = some v → '\n' ∉ b ∧ v.length ≤ b.length)
    ?nil ?number ?escape ?plain ?stray ?cut ?close ?digit ?other
  case nil =>
    intro v h
    rw [literalValue, Option.some.injEq] at h
    subst h
    exact ⟨by simp, by simp, by simp⟩
  case number =>
    intro rest ih v h
    rw [literalValue] at h
    obtain ⟨hfeed, hle⟩ := ih v h
    exact ⟨by simp [hfeed], by simp; omega, fun _ => by simp; omega⟩
  case escape =>
    intro c rest hnumber ih v h
    rw [literalValue] at h
    · simp only [Option.bind_eq_bind, Option.bind_eq_some_iff, Option.pure_def, Option.some.injEq] at h
      obtain ⟨d, hd, w, hw, rfl⟩ := h
      obtain ⟨hfeed, hle, -⟩ := ih w hw
      have hc : c ≠ '\n' := by
        rintro rfl
        cases hd
      exact ⟨by simp [hfeed, hc.symm], by simp; omega, fun _ => by simp; omega⟩
    · exact hnumber
  case plain =>
    intro c rest hnumber hescape hc ih v h
    rw [literalValue, if_pos hc] at h
    · rw [Option.map_eq_map, Option.map_eq_some_iff] at h
      obtain ⟨w, hw, rfl⟩ := h
      obtain ⟨hfeed, hle, hlt⟩ := ih w hw
      simp only [isVerbatim, Bool.and_eq_true, bne_iff_ne, ne_eq] at hc
      refine ⟨?_, by simpa using hle, fun hmem => ?_⟩
      · simp only [List.mem_cons, not_or]
        exact ⟨fun he => hc.1.2 he.symm, hfeed⟩
      · rcases List.mem_cons.mp hmem with he | hmem
        · exact absurd he.symm hc.1.1.2
        · simpa using hlt hmem
    · exact hnumber
    · exact hescape
  case stray =>
    intro c rest hnumber hescape hc v h
    rw [literalValue, if_neg hc] at h
    · cases h
    · exact hnumber
    · exact hescape
  case cut =>
    intro digits v h
    cases h
  case close =>
    intro digits rest ih v h
    simp only [numberedValue, Option.bind_eq_bind, Option.bind_eq_some_iff, Option.pure_def,
      Option.some.injEq] at h
    obtain ⟨d, -, w, hw, rfl⟩ := h
    obtain ⟨hfeed, hle, -⟩ := ih w hw
    exact ⟨by simp [hfeed], by simpa using hle⟩
  case digit =>
    intro digits c rest hclose hc ih v h
    rw [numberedValue, if_pos hc] at h
    · obtain ⟨hfeed, hle⟩ := ih v h
      have hne : c ≠ '\n' := by
        rintro rfl
        cases hc
      exact ⟨by simp [hfeed, hne.symm], by simp; omega⟩
    · exact hclose
  case other =>
    intro digits c rest hclose hc v h
    rw [numberedValue, if_neg hc] at h
    · cases h
    · exact hclose

/-- No body with a line feed is well formed. -/
theorem literalValue_feed {b : List Char} (h : '\n' ∈ b) : literalValue b = none :=
  Option.eq_none_iff_forall_not_mem.mpr fun v hv => (reads_of_value.1 b v hv).feed h

/-- Without a backslash, a body has a value only if all its characters stand for themselves. -/
theorem verbatim_of_value {b v : List Char} (h : literalValue b = some v) (hslash : '\\' ∉ b) :
    ∀ c ∈ b, isVerbatim c = true := by
  induction b generalizing v with
  | nil => simp
  | cons c rest ih =>
    simp only [List.mem_cons, not_or] at hslash
    rw [literalValue] at h
    · split at h
      · rename_i hc
        rw [Option.map_eq_map, Option.map_eq_some_iff] at h
        obtain ⟨w, hw, -⟩ := h
        exact List.forall_mem_cons.mpr ⟨hc, ih hw hslash.2⟩
      · cases h
    · exact fun _ he _ => hslash.1 he.symm
    · exact fun _ _ he _ => hslash.1 he.symm

theorem value_of_verbatim {b : List Char} (h : ∀ c ∈ b, isVerbatim c = true) :
    literalValue b = some b := by
  induction b with
  | nil => rfl
  | cons c rest ih =>
    obtain ⟨hc, hrest⟩ := List.forall_mem_cons.mp h
    have hslash : c ≠ '\\' := by
      rintro rfl
      cases hc
    rw [literalValue, if_pos hc, ih hrest]
    · rfl
    · exact fun _ he _ => hslash he
    · exact fun _ _ he _ => hslash he

/-- A body stands for itself exactly if each of its characters does. -/
theorem literalValue_self_iff {b : List Char} :
    literalValue b = some b ↔ ∀ c ∈ b, isVerbatim c = true := by
  refine ⟨fun h => verbatim_of_value h fun hslash => ?_, value_of_verbatim⟩
  exact Nat.lt_irrefl _ ((reads_of_value.1 b b h).length_lt hslash)

example : literalValue "a\\tb\\u\x7b41\x7d".toList = some ['a', '\t', 'b', 'A'] := by decide

end Storyboard.Swift
