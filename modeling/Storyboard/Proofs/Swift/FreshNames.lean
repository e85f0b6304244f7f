import Mathlib.Data.List.Perm.Subperm
import Mathlib.Data.List.Nodup
import Storyboard.Swift.ViewName
/-!
# View names are fresh

The candidates for a base are pairwise distinct, so one more of them than there are used names
cannot all be used: the search for a name ends at a candidate that is not used, and passes over used
ones only.

* `nameCandidate_injective`: two candidates of one base differ.
* `unusedName_first`: the name chosen is the first candidate that is not used.
* `unusedName_not_mem`: the name chosen is not used.
* `exists_candidate_of_mem`, `first_candidate_used`: names chosen in turn, for one base after the other.
* `unusedNames_fresh`: names chosen in turn differ.
-/
namespace Storyboard.Swift

/-- Numbers are told apart by how they are written. -/
theorem toString_nat_inj {m n : Nat} (h : toString m = toString n) : m = n := by
  have hd : Nat.toDigits 10 m = Nat.toDigits 10 n := by
    simpa [Nat.toString_eq_repr] using congrArg String.toList h
  have := congrArg (Nat.ofDigitChars 10 · 0) hd
  simpa using this

theorem append_toString_inj {stem : String} {m n : Nat}
    (h : stem ++ toString m = stem ++ toString n) : m = n :=
  toString_nat_inj (by simpa using h)

theorem nameCandidate_injective (base : String) : Function.Injective (nameCandidate base) := by
  intro m n h
  unfold nameCandidate at h
  split at h <;> split at h
  · omega
  · -- the bare name is shorter than a numbered one
    have hl := congrArg String.length h
    have hn : 0 < (toString (n + 1)).length := by
      rw [Nat.toString_eq_repr]; exact Nat.length_repr_pos
    simp only [String.length_append] at hl
    omega
  · have hl := congrArg String.length h
    have hm : 0 < (toString (m + 1)).length := by
      rw [Nat.toString_eq_repr]; exact Nat.length_repr_pos
    simp only [String.length_append] at hl
    omega
  · have := append_toString_inj h
    omega

/-- Among one more candidate than there are used names, one is free. -/
theorem exists_unused_candidate (base : String) (used : List String) :
    ∃ n, n ≤ used.length ∧ nameCandidate base n ∉ used := by
  by_contra hall
  push Not at hall
  have hnodup : ((List.range (used.length + 1)).map (nameCandidate base)).Nodup :=
    List.nodup_range.map (nameCandidate_injective base)
  have hsub : (List.range (used.length + 1)).map (nameCandidate base) ⊆ used := by
    intro name hname
    obtain ⟨n, hn, rfl⟩ := List.mem_map.mp hname
    exact hall n (by have := List.mem_range.mp hn; omega)
  have := (hnodup.subperm hsub).length_le
  simp only [List.length_map, List.length_range] at this
  omega

/-- **The first free candidate.** The search takes a candidate that is not used, and every candidate
before it is. -/
theorem unusedName_first (base : String) (used : List String) :
    ∃ n, unusedName base used = nameCandidate base n ∧ nameCandidate base n ∉ used ∧
      ∀ m < n, nameCandidate base m ∈ used := by
  obtain ⟨k, hk, hfree⟩ := exists_unused_candidate base used
  unfold unusedName
  rw [List.find?_map]
  cases hf : (List.range (used.length + 1)).find? ((!used.contains ·) ∘ nameCandidate base) with
  | none =>
    have := List.find?_range_eq_none.mp hf k (by omega)
    simp [hfree] at this
  | some n =>
    obtain ⟨hn, -, hbefore⟩ := List.find?_range_eq_some.mp hf
    refine ⟨n, rfl, by simpa using hn, fun m hm => ?_⟩
    simpa using hbefore m hm

theorem unusedName_not_mem (base : String) (used : List String) : unusedName base used ∉ used := by
  obtain ⟨n, hname, hfree, -⟩ := unusedName_first base used
  rw [hname]
  exact hfree

/-! ## Names chosen in turn -/

/-- Names for the bases in turn, each unused by the names before it. -/
def unusedNames (used : List String) : List String → List String
  | [] => []
  | base :: rest => unusedName base used :: unusedNames (unusedName base used :: used) rest

theorem exists_candidate_of_mem {used bases : List String} {x : String}
    (h : x ∈ unusedNames used bases) : ∃ base ∈ bases, ∃ n, x = nameCandidate base n := by
  induction bases generalizing used with
  | nil => simp [unusedNames] at h
  | cons base rest ih =>
    rcases List.mem_cons.mp h with rfl | h
    · obtain ⟨n, hname, -, -⟩ := unusedName_first base used
      exact ⟨base, List.mem_cons_self, n, hname⟩
    · obtain ⟨later, hlater, hn⟩ := ih h
      exact ⟨later, List.mem_cons_of_mem base hlater, hn⟩

/-- The first candidate for a base is used, whether for this base or before. -/
theorem first_candidate_used {used bases : List String} {base : String} (h : base ∈ bases) :
    nameCandidate base 0 ∈ used ∨ nameCandidate base 0 ∈ unusedNames used bases := by
  induction bases generalizing used with
  | nil => cases h
  | cons b rest ih =>
    simp only [unusedNames, List.mem_cons]
    rcases List.mem_cons.mp h with rfl | h
    · obtain ⟨n, hname, -, hbefore⟩ := unusedName_first base used
      by_cases hn : n = 0
      · exact .inr (.inl (by rw [hname, hn]))
      · exact .inl (hbefore 0 (by omega))
    · have hrest : nameCandidate base 0 ∈ unusedName b used :: used ∨
          nameCandidate base 0 ∈ unusedNames (unusedName b used :: used) rest := ih h
      rcases hrest with hused | hlater
      · rcases List.mem_cons.mp hused with heq | hused
        · exact .inr (.inl heq)
        · exact .inl hused
      · exact .inr (.inr hlater)

/-- Names chosen in turn differ from each other and from the names used before. -/
theorem unusedNames_fresh (used bases : List String) :
    (unusedNames used bases).Nodup ∧ ∀ name ∈ unusedNames used bases, name ∉ used := by
  induction bases generalizing used with
  | nil => simp [unusedNames]
  | cons base rest ih =>
    obtain ⟨hnodup, hfresh⟩ := ih (unusedName base used :: used)
    simp only [List.mem_cons, not_or] at hfresh
    refine ⟨List.nodup_cons.mpr ⟨fun hmem => (hfresh _ hmem).1 rfl, hnodup⟩, fun name hname => ?_⟩
    rcases List.mem_cons.mp hname with rfl | hname
    · exact unusedName_not_mem base used
    · exact (hfresh name hname).2

end Storyboard.Swift
