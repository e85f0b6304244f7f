import Storyboard.Sorting
/-!
# Sorting is stable

Inserting puts one element into a list, and sorting a list only changes the order of its elements. It
puts nothing behind what it is before, and leaves two elements as they came if neither is before the
other. For that the order must be strict, and what is not before one element must not be before what
that element is not before (`IsWeak`).

* `sorted_perm`: sorting keeps what is there.
* `sorted_map`: sorting by a key of the elements.
* `sorted_settled`: sorting is stable.
-/
namespace Storyboard

variable {α : Type}

theorem insertSorted_perm (before : α → α → Bool) (a : α) (l : List α) :
    (insertSorted before a l).Perm (a :: l) := by
  induction l with
  | nil => exact List.Perm.refl _
  | cons b rest ih =>
    unfold insertSorted
    split
    · exact (ih.cons b).trans (List.Perm.swap a b rest)
    · exact List.Perm.refl _

theorem sorted_cons (before : α → α → Bool) (a : α) (l : List α) :
    sorted before (a :: l) = insertSorted before a (sorted before l) := rfl

/-- Sorting keeps what is there. -/
theorem sorted_perm (before : α → α → Bool) (l : List α) : (sorted before l).Perm l := by
  induction l with
  | nil => exact List.Perm.refl _
  | cons a rest ih =>
    rw [sorted_cons]
    exact (insertSorted_perm before a _).trans (ih.cons a)

/-! ## Sorting by a key -/

theorem insertSorted_map {β : Type} (f : β → α) (before : α → α → Bool) (b : β) (l : List β) :
    insertSorted before (f b) (l.map f) = (insertSorted (fun x y => before (f x) (f y)) b l).map f := by
  induction l with
  | nil => rfl
  | cons c rest ih =>
    by_cases h : before (f c) (f b) = true
    · simp [insertSorted, h, ih]
    · simp [insertSorted, h]

theorem sorted_map {β : Type} (f : β → α) (before : α → α → Bool) (l : List β) :
    sorted before (l.map f) = (sorted (fun x y => before (f x) (f y)) l).map f := by
  induction l with
  | nil => rfl
  | cons b rest ih => rw [List.map_cons, sorted_cons, sorted_cons, ih, insertSorted_map]

/-! ## Stability -/

/-- Between elements of some kind, `before` is a strict order in which elements that are not before each
other stand at one place. -/
structure IsWeak (kind : α → Prop) (before : α → α → Bool) : Prop where
  asymm : ∀ a b, before a b = true → before b a = false
  trans : ∀ a b c, kind b → before b a = false → before c b = false → before c a = false

/-- The first element may stand in front of the second: the second is not before it, and if it is not
before the second either, it came first. -/
def Settled (before : α → α → Bool) (came : α → α → Prop) (a b : α) : Prop :=
  before b a = false ∧ (before a b = false → came a b)

variable {kind : α → Prop} {before : α → α → Bool} {came : α → α → Prop}

/-- An element that came before all others is put in front of those that it is not behind. -/
theorem insertSorted_settled (hweak : IsWeak kind before) {a : α} {l : List α}
    (hl : l.Pairwise (Settled before came)) (hkind : ∀ b ∈ l, kind b) (ha : ∀ b ∈ l, came a b) :
    (insertSorted before a l).Pairwise (Settled before came) := by
  induction l with
  | nil => exact List.pairwise_singleton _ _
  | cons b rest ih =>
    obtain ⟨hb, hrest⟩ := List.pairwise_cons.mp hl
    obtain ⟨hkb, hkrest⟩ := List.forall_mem_cons.mp hkind
    obtain ⟨hab, harest⟩ := List.forall_mem_cons.mp ha
    unfold insertSorted
    split
    · rename_i hba
      refine List.pairwise_cons.mpr ⟨fun c hc => ?_, ih hrest hkrest harest⟩
      rcases List.mem_cons.mp ((insertSorted_perm before a rest).mem_iff.mp hc) with rfl | hc
      · exact ⟨hweak.asymm b c hba, fun h => absurd hba (by simp [h])⟩
      · exact hb c hc
    · rename_i hba
      rw [Bool.not_eq_true] at hba
      refine List.pairwise_cons.mpr ⟨fun c hc => ?_, hl⟩
      rcases List.mem_cons.mp hc with rfl | hc'
      · exact ⟨hba, fun _ => hab⟩
      · have hcb : before c b = false := (hb c hc').1
        exact ⟨hweak.trans a b c hkb hba hcb, fun _ => ha c hc⟩

/-- **Sorting is stable.** Nothing stands behind what it is before, and what is not before each other
stands as it came. -/
theorem sorted_settled (hweak : IsWeak kind before) {l : List α} (hl : l.Pairwise came)
    (hkind : ∀ a ∈ l, kind a) : (sorted before l).Pairwise (Settled before came) := by
  induction l with
  | nil => exact List.Pairwise.nil
  | cons a rest ih =>
    obtain ⟨ha, hrest⟩ := List.pairwise_cons.mp hl
    have hkrest : ∀ b ∈ rest, kind b := fun b hb => hkind b (List.mem_cons_of_mem a hb)
    have hmem : ∀ b ∈ sorted before rest, b ∈ rest := fun b hb =>
      (sorted_perm before rest).mem_iff.mp hb
    rw [sorted_cons]
    apply insertSorted_settled hweak (ih hrest hkrest)
    · intro b hb
      exact hkrest b (hmem b hb)
    · intro b hb
      exact ha b (hmem b hb)

end Storyboard
