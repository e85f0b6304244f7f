import Mathlib.Data.List.SplitBy
import Mathlib.Data.List.TakeWhile
import Storyboard.Markup.Document
/-!
# Readable texts

Whatever a reading takes out of a document, it takes character by character, and each of them is legal
or marks a byte that could not be decoded. So are the characters of names, of numbered references and of
what is put together from them: the texts of entities, default values, and the parts of attribute values.

* `isReadable`, `AreReadable`: the characters that a reading takes.
* `areReadable_runFrom`, `areReadable_nameFrom`, `isReadable_referenceFrom`: what is taken from a text.
* `Draft.IsReadable`: a value under way.
* `Declarations.IsReadable`: what the declarations of a document hold.
-/
namespace Storyboard.Markup

open Storyboard.Text (inRanges isDigitOf)

/-- A character that a reading takes: a legal one, or a mark for a byte that could not be decoded. -/
def isReadable (c : Char) : Bool := isLegal c || c == damageMark

def AreReadable (s : List Char) : Prop := ∀ c ∈ s, isReadable c = true

instance (s : List Char) : Decidable (AreReadable s) :=
  List.decidableBAll (fun c => isReadable c = true) s

theorem isReadable_of_isLegal {c : Char} (h : isLegal c = true) : isReadable c = true := by
  rw [isReadable, h, Bool.true_or]

theorem isReadable_of_isNameStart {c : Char} (h : isNameStart c = true) : isReadable c = true := by
  refine isReadable_of_isLegal ?_
  simp [isNameStart, nameStartRanges, inRanges] at h
  simp [isLegal, inRanges]
  omega

theorem isReadable_of_isNameCharacter {c : Char} (h : isNameCharacter c = true) :
    isReadable c = true := by
  rcases Bool.or_eq_true _ _ ▸ h with h | h
  · exact isReadable_of_isNameStart h
  · refine isReadable_of_isLegal ?_
    simp [inRanges] at h
    simp [isLegal, inRanges]
    omega

/-! ## Lists of characters -/

@[simp] theorem areReadable_nil : AreReadable [] := fun _ h => absurd h List.not_mem_nil

@[simp] theorem areReadable_cons {c : Char} {s : List Char} :
    AreReadable (c :: s) ↔ isReadable c = true ∧ AreReadable s := List.forall_mem_cons

@[simp] theorem areReadable_append {s t : List Char} :
    AreReadable (s ++ t) ↔ AreReadable s ∧ AreReadable t := List.forall_mem_append

@[simp] theorem areReadable_reverse {s : List Char} : AreReadable s.reverse ↔ AreReadable s := by
  simp [AreReadable]

theorem AreReadable.subset {s t : List Char} (ht : AreReadable t) (h : s ⊆ t) : AreReadable s :=
  fun c hc => ht c (h hc)

theorem areReadable_join {texts : List String} :
    AreReadable (String.join texts).toList ↔ ∀ t ∈ texts, AreReadable t.toList := by
  rw [String.toList_join]
  simp only [AreReadable, List.mem_flatMap, forall_exists_index, and_imp]
  exact ⟨fun h t ht c hc => h c t ht hc, fun h c t ht hc => h t ht c hc⟩

theorem areReadable_takeWhile {p : Char → Bool} (hp : ∀ c, p c = true → isReadable c = true)
    (s : List Char) : AreReadable (s.takeWhile p) := fun c hc => hp c (List.mem_takeWhile_imp hc)

/-! ## What is taken from a text -/

theorem areReadable_runFrom (stop : List Char → Bool) {acc : List Char} (hacc : AreReadable acc)
    (s : List Char) : AreReadable (Reading.runFrom stop acc s).1 := by
  induction s generalizing acc with
  | nil => simpa [Reading.runFrom] using hacc
  | cons c rest ih =>
    rw [Reading.runFrom]
    split
    · simpa using hacc
    · rename_i hgoes
      refine ih ?_
      simp only [Bool.or_eq_true, Bool.not_eq_true', not_or, Bool.not_eq_false] at hgoes
      exact areReadable_cons.mpr ⟨by simpa [isReadable] using hgoes.2, hacc⟩

theorem areReadable_unifyLineEnds {s : List Char} (h : AreReadable s) :
    AreReadable (unifyLineEnds s) := by
  have hfeed : isReadable '\n' = true := by decide
  fun_induction unifyLineEnds s with
  | case1 => exact areReadable_nil
  | case2 rest ih =>
    simp only [areReadable_cons] at h
    exact areReadable_cons.mpr ⟨hfeed, ih h.2.2⟩
  | case3 c rest _ ih =>
    obtain ⟨hc, hrest⟩ := areReadable_cons.mp h
    refine areReadable_cons.mpr ⟨?_, ih hrest⟩
    split
    · exact hfeed
    · exact hc

theorem areReadable_nameFrom (s : List Char) : AreReadable (nameFrom s).1 := by
  unfold nameFrom
  split
  · exact areReadable_nil
  · split
    · exact areReadable_takeWhile (fun c => isReadable_of_isNameCharacter) _
    · exact areReadable_nil

theorem isReadable_predefined {name : String} {c : Char} (h : predefined? name = some c) :
    isReadable c = true := by
  unfold predefined? at h
  split at h <;> cases h <;> decide

/-- What is referred to is readable itself, or has a readable name. -/
def Referent.IsReadable : Referent → Prop
  | .character c => isReadable c = true
  | .entity name => AreReadable name.toList

theorem isReadable_numberedFrom {base : Nat} {s : List Char} {referent : Referent}
    (h : (numberedFrom base s).1 = .ok referent) : referent.IsReadable := by
  unfold numberedFrom at h
  dsimp only at h
  split at h
  · split at h
    · rename_i c hc
      rw [← Except.ok.inj h]
      unfold character? at hc
      split at hc
      · rename_i hlegal
        rw [← Option.some.inj hc]
        exact isReadable_of_isLegal hlegal.2
      · cases hc
    · cases h
  · cases h

theorem isReadable_referenceFrom {s : List Char} {referent : Referent}
    (h : (referenceFrom s).1 = .ok referent) : referent.IsReadable := by
  unfold referenceFrom at h
  split at h
  · exact isReadable_numberedFrom h
  · exact isReadable_numberedFrom h
  · have hname := areReadable_nameFrom s
    dsimp only at h
    split at h
    · cases h
    · rename_i name rest _ heq hrest
      rw [← Except.ok.inj h]
      simpa [Referent.IsReadable] using hname
    · cases h

/-- What follows a reference is part of the text. -/
theorem numberedFrom_subset (base : Nat) (s : List Char) : (numberedFrom base s).2 ⊆ s := by
  have hrest : s.dropWhile (isDigitOf base) ⊆ s := (List.dropWhile_suffix _).subset
  unfold numberedFrom
  dsimp only
  split
  · rename_i rest heq
    have hbehind : rest ⊆ s := fun c hc => hrest (heq ▸ List.mem_cons_of_mem _ hc)
    split <;> exact hbehind
  · exact hrest

theorem nameFrom_subset (s : List Char) : (nameFrom s).2 ⊆ s := by
  unfold nameFrom
  split
  · exact List.Subset.refl _
  · split
    · exact (List.dropWhile_suffix _).subset
    · exact List.Subset.refl _

theorem referenceFrom_subset (s : List Char) : (referenceFrom s).2 ⊆ s := by
  unfold referenceFrom
  split
  · rename_i digits
    exact fun c hc => List.mem_cons_of_mem _ (List.mem_cons_of_mem _ (numberedFrom_subset 16 digits hc))
  · rename_i digits _
    exact fun c hc => List.mem_cons_of_mem _ (numberedFrom_subset 10 digits hc)
  · have hrest := nameFrom_subset s
    dsimp only
    split
    · exact hrest
    · rename_i name rest _ hbehind _
      exact fun c hc => hrest (hbehind ▸ List.mem_cons_of_mem _ hc)
    · exact hrest

/-! ## Parts -/

def Part.IsReadable : Part → Prop
  | .characters s => AreReadable s
  | .entity name => AreReadable name.toList

theorem isReadable_charactersPart {acc : List Char} (h : AreReadable acc) :
    ∀ p ∈ charactersPart acc, p.IsReadable := by
  unfold charactersPart
  split
  · simp
  · simpa [Part.IsReadable] using h

theorem isReadable_partsFrom (fuel : Nat) {acc s : List Char} (hacc : AreReadable acc)
    (hs : AreReadable s) : ∀ p ∈ (partsFrom fuel acc s).1, p.IsReadable := by
  fun_induction partsFrom fuel acc s with
  | case1 | case2 | case3 | case4 => exact isReadable_charactersPart hacc
  | case5 acc fuel rest c behind href _ ih =>
    have hc : (Referent.character c).IsReadable := isReadable_referenceFrom (by rw [href])
    have hbehind : AreReadable behind :=
      (areReadable_cons.mp hs).2.subset (by simpa [href] using referenceFrom_subset rest)
    exact ih (areReadable_cons.mpr ⟨hc, hacc⟩) hbehind
  | case6 acc fuel rest name behind href c hpredefined _ ih =>
    have hbehind : AreReadable behind :=
      (areReadable_cons.mp hs).2.subset (by simpa [href] using referenceFrom_subset rest)
    exact ih (areReadable_cons.mpr ⟨isReadable_predefined hpredefined, hacc⟩) hbehind
  | case7 acc fuel rest name behind href _ parts fault hparts _ ih =>
    have hname : (Referent.entity name).IsReadable := isReadable_referenceFrom (by rw [href])
    have hbehind : AreReadable behind :=
      (areReadable_cons.mp hs).2.subset (by simpa [href] using referenceFrom_subset rest)
    have hmore := ih areReadable_nil hbehind
    rw [hparts] at hmore
    exact List.forall_mem_append.mpr
      ⟨isReadable_charactersPart hacc, List.forall_mem_cons.mpr ⟨hname, hmore⟩⟩
  | case8 acc fuel c rest _ _ ih =>
    obtain ⟨hc, hrest⟩ := areReadable_cons.mp hs
    exact ih (areReadable_cons.mpr ⟨hc, hacc⟩) hrest

theorem isReadable_partsOf {s : List Char} (h : AreReadable s) : ∀ p ∈ (partsOf s).1, p.IsReadable :=
  isReadable_partsFrom _ areReadable_nil h

/-- Parts that are readable are written readably. -/
theorem areReadable_rawText {parts : List Part} (h : ∀ p ∈ parts, p.IsReadable) :
    AreReadable (rawText parts).toList := by
  rw [rawText, areReadable_join, List.forall_mem_map]
  intro p hp
  have hreadable := h p hp
  cases p with
  | characters s =>
    rw [areReadable_join, List.forall_mem_map]
    intro c hc
    split
    · decide
    · simpa using hreadable c hc
  | entity name =>
    have hends : AreReadable "&".toList ∧ AreReadable ";".toList := by decide
    simp only [String.toList_append, areReadable_append]
    exact ⟨⟨hends.1, hreadable⟩, hends.2⟩

/-- Squeezing only drops characters and puts single spaces between words. -/
theorem areReadable_squeezed {s : String} (h : AreReadable s.toList) :
    AreReadable (squeezed s).toList := by
  have hwords : ∀ w ∈ wordsBetween s.toList, AreReadable w := by
    intro w hw
    refine h.subset fun c hc => ?_
    rw [← List.flatten_splitBy (fun a b => (a == ' ') == (b == ' ')) s.toList]
    exact List.mem_flatten.mpr ⟨w, (List.mem_filter.mp hw).1, hc⟩
  rw [squeezed, String.toList_intercalate, List.map_map]
  generalize wordsBetween s.toList = words at hwords
  induction words with
  | nil => decide
  | cons w rest ih =>
    obtain ⟨hw, hrest⟩ := List.forall_mem_cons.mp hwords
    cases rest with
    | nil => simpa using hw
    | cons v more =>
      have hspace : isReadable ' ' = true := by decide
      rw [List.map_cons, List.map_cons, List.intercalate_cons_cons, ← List.map_cons]
      simpa [hw, hspace] using ih hrest

/-! ## Values under way -/

structure Draft.IsReadable (d : Draft) : Prop where
  parts : ∀ p ∈ d.parts, p.IsReadable
  run : AreReadable d.run

namespace Draft

variable {d : Draft}

theorem isReadable_empty (words : Bool) : (empty words).IsReadable :=
  ⟨fun _ h => absurd h List.not_mem_nil, areReadable_nil⟩

theorem IsReadable.add (h : d.IsReadable) {s : List Char} (hs : AreReadable s) : (d.add s).IsReadable :=
  ⟨h.parts, areReadable_append.mpr ⟨areReadable_reverse.mpr hs, h.run⟩⟩

theorem IsReadable.addSpace (h : d.IsReadable) : d.addSpace.IsReadable := by
  unfold Draft.addSpace
  split
  · exact h
  · exact ⟨h.parts, areReadable_cons.mpr ⟨by decide, h.run⟩⟩

theorem IsReadable.addNumbered (h : d.IsReadable) {c : Char} (hc : isReadable c = true) :
    (d.addNumbered c).IsReadable := by
  unfold Draft.addNumbered
  split
  · exact h.addSpace
  · exact h.add (by simpa using hc)

theorem IsReadable.addReference (h : d.IsReadable) {name : String} (hname : AreReadable name.toList) :
    (d.addReference name).IsReadable :=
  ⟨List.forall_mem_cons.mpr ⟨hname,
    List.forall_mem_append.mpr ⟨isReadable_charactersPart h.run, h.parts⟩⟩, areReadable_nil⟩

theorem IsReadable.finish (h : d.IsReadable) : ∀ p ∈ d.finish, p.IsReadable := by
  unfold Draft.finish
  have hrun : AreReadable (if d.words && d.spaced then d.run.dropWhile (· == ' ') else d.run) := by
    split
    · exact h.run.subset (List.dropWhile_suffix _).subset
    · exact h.run
  intro p hp
  exact List.forall_mem_append.mpr ⟨isReadable_charactersPart hrun, h.parts⟩ p (List.mem_reverse.mp hp)

end Draft

end Storyboard.Markup
