import Mathlib.Data.Nat.Init
import Mathlib.Logic.Relation
import Storyboard.Proofs.Swift.FreshNames
/-!
# The search for a view name

A search for a view name looks at the candidates for a base in turn. A used one is passed over; the first
that is free is taken, and from then on it is used as well. Nothing in the search bounds it: it ends
because its candidates differ and only finitely many names are used.

* `Turn`: one turn of a search.
* `ends_looking`, `reaches_looking`: a search gets as far as the first free candidate, and no further.
* `end_iff`: the one place where a search ends.
* `Finds`, `finds_iff`: searches for one base after the other.
* `names_found`: what such searches find.
-/
namespace Storyboard.Swift

open Relation (ReflTransGen)

/-- A search under way looks at the candidate of a number, and one that is over has taken a name. -/
inductive NameSearch where
  | looking (n : Nat) (used : List String)
  | taken (name : String) (used : List String)

namespace NameSearch

/-- One turn of a search for a name with this base. -/
inductive Turn (base : String) : NameSearch → NameSearch → Prop where
  | pass {n : Nat} {used : List String} (h : nameCandidate base n ∈ used) :
    Turn base (.looking n used) (.looking (n + 1) used)
  | take {n : Nat} {used : List String} (h : nameCandidate base n ∉ used) :
    Turn base (.looking n used) (.taken (nameCandidate base n) (nameCandidate base n :: used))

/-- The place after any number of turns. -/
def Reaches (base : String) : NameSearch → NameSearch → Prop := ReflTransGen (Turn base)

/-- No search goes on for ever from here. -/
def Ends (base : String) (s : NameSearch) : Prop := Acc (fun after before => Turn base before after) s

variable {base : String} {used : List String}

theorem turn_rightUnique : Relator.RightUnique (Turn base) := by
  intro s t u ht hu
  cases ht with
  | pass h =>
    cases hu with
    | pass => rfl
    | take h' => exact absurd h h'
  | take h =>
    cases hu with
    | pass h' => exact absurd h' h
    | take => rfl

theorem not_turn_taken {name : String} (s : NameSearch) : ¬Turn base (.taken name used) s := by
  intro h
  cases h

/-! ## One search -/

/-- With a free candidate ahead there are finitely many turns left. -/
theorem ends_looking {n k : Nat} (hle : n ≤ k) (hfree : nameCandidate base k ∉ used) :
    Ends base (.looking n used) := by
  have htaken : ∀ name left, Ends base (.taken name left) := fun _ _ =>
    Acc.intro _ fun s h => absurd h (not_turn_taken s)
  induction hle using Nat.decreasingInduction with
  | self =>
    refine Acc.intro _ fun s h => ?_
    cases h with
    | pass hused => exact absurd hused hfree
    | take => exact htaken _ _
  | of_succ n _ ih =>
    refine Acc.intro _ fun s h => ?_
    cases h with
    | pass => exact ih
    | take => exact htaken _ _

/-- Used candidates are passed over one by one. -/
theorem reaches_looking {n : Nat} (h : ∀ m < n, nameCandidate base m ∈ used) :
    Reaches base (.looking 0 used) (.looking n used) := by
  induction n with
  | zero => exact ReflTransGen.refl
  | succ n ih => exact (ih fun m hm => h m (by omega)).tail (.pass (h n (by omega)))

variable (base used)

theorem ends_start : Ends base (.looking 0 used) := by
  obtain ⟨k, -, hfree⟩ := exists_unused_candidate base used
  exact ends_looking (Nat.zero_le k) hfree

theorem reaches_taken :
    Reaches base (.looking 0 used) (.taken (unusedName base used) (unusedName base used :: used)) := by
  obtain ⟨n, hname, hfree, hbefore⟩ := unusedName_first base used
  rw [hname]
  exact (reaches_looking hbefore).tail (.take hfree)

variable {base used}

/-- **Where a search ends.** It has taken the first free candidate, and the names used are that one and
those before. -/
theorem end_iff {last : NameSearch} :
    Reaches base (.looking 0 used) last ∧ (∀ next, ¬Turn base last next) ↔
      last = .taken (unusedName base used) (unusedName base used :: used) := by
  constructor
  · rintro ⟨hreach, hend⟩
    rcases ReflTransGen.total_of_right_unique turn_rightUnique hreach (reaches_taken base used) with h | h
    · rcases h.cases_head with heq | ⟨next, hturn, -⟩
      · exact heq
      · exact absurd hturn (hend next)
    · rcases h.cases_head with heq | ⟨next, hturn, -⟩
      · exact heq.symm
      · exact absurd hturn (not_turn_taken next)
  · rintro rfl
    exact ⟨reaches_taken base used, not_turn_taken⟩

theorem reaches_taken_iff {name : String} {left : List String} :
    Reaches base (.looking 0 used) (.taken name left) ↔
      name = unusedName base used ∧ left = unusedName base used :: used := by
  rw [← NameSearch.taken.injEq, ← end_iff]
  exact ⟨fun h => ⟨h, not_turn_taken⟩, And.left⟩

end NameSearch

open NameSearch

/-! ## One search after the other -/

/-- Searches for the bases in turn, each among the names that the one before left used: `names` are
taken for them, and `left` are the names used after the last. -/
inductive Finds : (used bases names left : List String) → Prop where
  | done {used : List String} : Finds used [] [] used
  | next {base name : String} {used after bases names left : List String}
    (h : Reaches base (.looking 0 used) (.taken name after)) (hrest : Finds after bases names left) :
    Finds used (base :: bases) (name :: names) left

theorem finds_iff {used bases names left : List String} :
    Finds used bases names left ↔
      names = unusedNames used bases ∧ left = (unusedNames used bases).reverse ++ used := by
  induction bases generalizing used names with
  | nil =>
    constructor
    · rintro ⟨⟩
      exact ⟨rfl, rfl⟩
    · rintro ⟨rfl, rfl⟩
      exact .done
  | cons base bases ih =>
    simp only [unusedNames, List.reverse_cons, List.append_assoc, List.singleton_append]
    constructor
    · rintro (_ | ⟨h, hrest⟩)
      obtain ⟨rfl, rfl⟩ := reaches_taken_iff.mp h
      obtain ⟨rfl, rfl⟩ := ih.mp hrest
      exact ⟨rfl, rfl⟩
    · rintro ⟨rfl, rfl⟩
      exact .next (reaches_taken base used) (ih.mpr ⟨rfl, rfl⟩)

/-- **Names are found.** Whatever names are used, the search for a name with any base ends; it ends in one
place only, with the first free candidate taken and nothing else used that was not before. Searches for
any bases in turn find names that all differ and none of which was used. -/
theorem names_found (used : List String) :
    (∀ base, Ends base (.looking 0 used) ∧
      (∀ last, Reaches base (.looking 0 used) last ∧ (∀ next, ¬Turn base last next) ↔
        last = .taken (unusedName base used) (unusedName base used :: used)) ∧
      ∃ n, unusedName base used = nameCandidate base n ∧ nameCandidate base n ∉ used ∧
        ∀ m < n, nameCandidate base m ∈ used) ∧
    ∀ bases,
      (∀ names left, Finds used bases names left ↔
        names = unusedNames used bases ∧ left = (unusedNames used bases).reverse ++ used) ∧
      (unusedNames used bases).Nodup ∧ ∀ name ∈ unusedNames used bases, name ∉ used :=
  ⟨fun base => ⟨ends_start base used, fun _ => end_iff, unusedName_first base used⟩,
    fun bases => ⟨fun _ _ => finds_iff, unusedNames_fresh used bases⟩⟩

example : unusedNames ["AView2", "A2View"] ["A", "A2", "A"] = ["AView", "A2View2", "AView3"] := by
  decide +kernel

end Storyboard.Swift
