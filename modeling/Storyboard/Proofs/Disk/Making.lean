import Mathlib.Data.List.DropRight
import Mathlib.Tactic.MkIffOfInductiveProp
import Storyboard.Disk.Address
import Storyboard.Proofs.Disk.Following
/-!
# Directories that can be made

A path passes one place after the other. It leads to a directory if there is a directory at each of
them, and it can be made into one if there is a directory where it starts and nothing but directories in
its way; then those that are missing are added.

* `Path.places`: the places that a path passes.
* `Path.IsParent`: the directory of a path, whose places it passes first.
* `Tree.leads_iff`: when a path leads to a directory.
* `Tree.withDirectories`, `Tree.Makes`: the disk with a path made into a directory, and when it can be.
-/
namespace Storyboard.Disk

namespace Path

/-! ## Places on the way -/

/-- The steps of a path but the empty ones. -/
def properSteps (path : List Char) : List (List Char) := (steps path).filter (· != [])

/-- The places that some steps pass, the one where they start among them. -/
def placesFrom (place : Place) : List (List Char) → List Place
  | [] => [place]
  | step :: rest => place :: placesFrom (stepFrom place step) rest

/-- The places that a path passes from a working directory. -/
def places (working : Place) (path : String) : List Place :=
  placesFrom (Tree.startOf working path) (properSteps path.toList)

@[simp] theorem properSteps_nil : properSteps [] = [] := rfl

theorem properSteps_append {directory : List Char} (h : IsDirectoryPart directory) (s : List Char) :
    properSteps (directory ++ s) = properSteps directory ++ properSteps s := by
  rcases h with rfl | ⟨front, rfl⟩
  · rfl
  · rw [List.append_assoc, List.singleton_append]
    simp [properSteps, steps_append_slash, steps]

theorem properSteps_of_not_mem {s : List Char} (h : '/' ∉ s) (hne : s ≠ []) : properSteps s = [s] := by
  rw [properSteps, steps_of_not_mem h]
  simp [hne]

/-- A path without steps starts at the top, unless it is empty. -/
theorem head_of_properSteps {s : List Char} (hne : s ≠ []) (h : properSteps s = []) :
    s.head? = some '/' := by
  obtain ⟨c, rest, rfl⟩ := List.exists_cons_of_ne_nil hne
  by_contra hc
  have hc : c ≠ '/' := by simpa using hc
  obtain ⟨step, more, hsteps⟩ := List.exists_cons_of_ne_nil (steps_ne_nil rest)
  simp [properSteps, steps, hc, hsteps] at h

theorem placesFrom_concat (place : Place) (before : List (List Char)) (step : List Char) :
    placesFrom place (before ++ [step]) =
      placesFrom place before ++ [stepFrom (before.foldl stepFrom place) step] := by
  induction before generalizing place with
  | nil => rfl
  | cons first rest ih => rw [List.cons_append, placesFrom, ih, placesFrom, List.cons_append, List.foldl_cons]

theorem placesFrom_subset (place : Place) (before last : List (List Char)) :
    ∀ p ∈ placesFrom place before, p ∈ placesFrom place (before ++ last) := by
  induction before generalizing place with
  | nil =>
    rw [placesFrom, List.nil_append]
    exact List.forall_mem_singleton.mpr (by cases last <;> simp [placesFrom])
  | cons step rest ih =>
    rw [placesFrom, List.cons_append, placesFrom]
    exact List.forall_mem_cons.mpr ⟨List.mem_cons_self, fun p hp => List.mem_cons_of_mem _ (ih _ p hp)⟩

theorem start_mem_placesFrom (place : Place) (steps : List (List Char)) :
    place ∈ placesFrom place steps := by
  cases steps <;> simp [placesFrom]

theorem end_mem_placesFrom (place : Place) (steps : List (List Char)) :
    steps.foldl stepFrom place ∈ placesFrom place steps := by
  induction steps generalizing place with
  | nil => exact List.mem_singleton_self place
  | cons step rest ih => exact List.mem_cons_of_mem _ (ih (stepFrom place step))

/-- The last place that a path passes is the one that it leads to. -/
theorem foldl_properSteps (w : Place) (path : String) :
    (properSteps path.toList).foldl stepFrom (Tree.startOf w path) = resolve w path :=
  foldl_filter_steps _ _

theorem resolve_mem_places (w : Place) (path : String) : resolve w path ∈ places w path :=
  foldl_properSteps w path ▸ end_mem_placesFrom _ _

/-! ## The directory of a path -/

theorem dropSlashes_eq (s : List Char) :
    dropSlashes s = if s.all (· == '/') then s else s.rdropWhile (· == '/') := rfl

theorem properSteps_rdropWhile (s : List Char) :
    properSteps (s.rdropWhile (· == '/')) = properSteps s := by
  induction s using List.reverseRecOn with
  | nil => rfl
  | append_singleton s c ih =>
    rw [List.rdropWhile_concat]
    split
    · rename_i hc
      have hend : properSteps (s ++ ['/']) = properSteps s := by
        simp [properSteps, steps_append_slash, steps]
      rw [ih, beq_iff_eq.mp hc, hend]
    · rfl

theorem properSteps_dropSlashes (s : List Char) : properSteps (dropSlashes s) = properSteps s := by
  rw [dropSlashes_eq]
  split
  · rfl
  · exact properSteps_rdropWhile s

theorem dropSlashes_isPrefix (s : List Char) : dropSlashes s <+: s := by
  rw [dropSlashes_eq]
  split
  · exact List.prefix_refl s
  · exact List.rdropWhile_prefix _ s

/-- What is left of a path has no slash at its end, unless the path has no steps. -/
theorem properSteps_of_isDirectoryPart {s : List Char} (h : IsDirectoryPart (dropSlashes s)) :
    properSteps s = [] := by
  have hall : (∀ c ∈ s, (c == '/') = true) → properSteps s = [] := fun hall => by
    rw [← properSteps_rdropWhile, List.rdropWhile_eq_nil_iff.mpr hall, properSteps_nil]
  rw [dropSlashes_eq] at h
  split at h
  · rename_i hslashes
    exact hall (List.all_eq_true.mp hslashes)
  · rcases h with hnil | ⟨front, hlast⟩
    · exact hall (List.rdropWhile_eq_nil_iff.mp hnil)
    · have hend := List.rdropWhile_last_not (· == '/') s (by simp [hlast])
      simp [hlast] at hend

/-- The directory of a path and its last step, which is empty only if the path has no steps at all. -/
structure IsParent (path head tail : List Char) : Prop where
  isPrefix : head <+: path
  steps : properSteps path = properSteps head ++ properSteps tail
  noSlash : '/' ∉ tail
  stepless : tail = [] → properSteps path = []
  shorter : tail ≠ [] → head.length < path.length

theorem isParent_dropSlashes {directory step : List Char} (h : IsDirectoryPart directory)
    (hslash : '/' ∉ step) (hstep : step = [] → properSteps directory = []) :
    IsParent (directory ++ step) (dropSlashes directory) step where
  isPrefix := (dropSlashes_isPrefix directory).trans (List.prefix_append _ _)
  steps := by rw [properSteps_append h, properSteps_dropSlashes]
  noSlash := hslash
  stepless := fun hnil => by rw [hnil, List.append_nil, hstep hnil]
  shorter := fun hne => by
    have hle := (dropSlashes_isPrefix directory).length_le
    have hpos := List.length_pos_iff.mpr hne
    rw [List.length_append]
    omega

theorem IsParent.of_dropSlashes {path head tail : List Char}
    (h : IsParent (dropSlashes path) head tail) : IsParent path head tail where
  isPrefix := h.isPrefix.trans (dropSlashes_isPrefix path)
  steps := by rw [← properSteps_dropSlashes, h.steps]
  noSlash := h.noSlash
  stepless := fun hnil => by rw [← properSteps_dropSlashes, h.stepless hnil]
  shorter := fun hne => Nat.lt_of_lt_of_le (h.shorter hne) (dropSlashes_isPrefix path).length_le

theorem isParent_parentAndStep (path : List Char) :
    IsParent path (parentAndStep path).1 (parentAndStep path).2 := by
  obtain ⟨directory, step, hdirectory, hslash, rfl⟩ := exists_cut path
  rw [parentAndStep, cutLast_append hdirectory hslash]
  by_cases hstep : step = []
  · subst hstep
    obtain ⟨outer, last, houter, hlast, hinner⟩ := exists_cut (dropSlashes directory)
    have hcut := cutLast_append houter hlast
    rw [← hinner] at hcut
    simp only [List.isEmpty_nil, if_true, hcut, List.append_nil]
    refine IsParent.of_dropSlashes (hinner ▸ isParent_dropSlashes houter hlast fun hnil => ?_)
    -- without a last step the path is nothing but slashes
    have hslashes : IsDirectoryPart (dropSlashes directory) := by rwa [hinner, hnil, List.append_nil]
    have hnone := properSteps_of_isDirectoryPart hslashes
    rwa [← properSteps_dropSlashes, hinner, hnil, List.append_nil] at hnone
  · simp only [List.isEmpty_iff, hstep, if_false]
    exact isParent_dropSlashes hdirectory hslash fun hnil => absurd hnil hstep

theorem IsParent.length_le {path head tail : List Char} (h : IsParent path head tail) :
    (properSteps tail).length ≤ 1 := by
  by_cases hne : tail = []
  · simp [hne]
  · rw [properSteps_of_not_mem h.noSlash hne, List.length_singleton]

/-- A path starts where its directory starts. -/
theorem IsParent.startOf_eq {path head tail : List Char} (h : IsParent path head tail)
    (hne : head ≠ []) (w : Place) :
    Tree.startOf w (String.ofList head) = Tree.startOf w (String.ofList path) := by
  obtain ⟨rest, rfl⟩ := h.isPrefix
  rw [Tree.startOf, Tree.startOf, String.toList_ofList, String.toList_ofList,
    List.head?_append_of_ne_nil _ hne]

/-- All the paths on the way to a path start where it does. -/
theorem startOf_of_mem_ancestry (w : Place) {fuel : Nat} {path : List Char} {q : String}
    (hq : q ∈ ancestryFrom fuel path) : Tree.startOf w q = Tree.startOf w (String.ofList path) := by
  induction fuel generalizing path with
  | zero => exact absurd hq List.not_mem_nil
  | succ fuel ih =>
    have hparent := isParent_parentAndStep path
    rw [ancestryFrom] at hq
    rcases hcut : parentAndStep path with ⟨head, tail⟩
    rw [hcut] at hparent hq
    rcases List.mem_cons.mp hq with rfl | habove
    · rfl
    · by_cases hend : (head.isEmpty || tail.isEmpty) = true
      · rw [if_pos hend] at habove
        exact absurd habove List.not_mem_nil
      · have hne : head ≠ [] := fun hnil => by simp [hnil] at hend
        rw [if_neg hend] at habove
        rw [ih habove, hparent.startOf_eq hne]

end Path

namespace Tree

variable {t u : Tree} {w : Place} {path : String}

/-- A path can be followed only from a directory. -/
theorem start_of_locate {target : Target} (h : t.locate w path = .ok target) :
    t.entry? (startOf w path) = some .directory := by
  obtain ⟨hne, -, hwalk, -⟩ := locate_eq_ok.mp h
  change t.walk _ (Path.properSteps path.toList) = _ at hwalk
  cases hsteps : Path.properSteps path.toList with
  | nil =>
    have htop := Path.head_of_properSteps (mt String.toList_eq_nil_iff.mp hne) hsteps
    rw [startOf, if_pos htop]
    rfl
  | cons step rest =>
    rw [hsteps] at hwalk
    exact (walk_cons_eq_ok.mp hwalk).1

/-! ## Paths that lead to directories -/

/-- Steps lead to a directory if there is one at each place that they pass. -/
theorem walk_directory_iff {place target : Place} {steps : List (List Char)} :
    t.walk place steps = .ok target ∧ t.entry? target = some .directory ↔
      (∀ step ∈ steps, (String.ofList step).utf8ByteSize ≤ longestName) ∧
        (∀ p ∈ Path.placesFrom place steps, t.entry? p = some .directory) ∧
        target = steps.foldl Path.stepFrom place := by
  induction steps generalizing place with
  | nil =>
    simp only [walk, Except.ok.injEq, Path.placesFrom, List.forall_mem_singleton, List.foldl_nil]
    constructor
    · rintro ⟨rfl, hdirectory⟩
      exact ⟨by simp, hdirectory, rfl⟩
    · rintro ⟨-, hdirectory, rfl⟩
      exact ⟨rfl, hdirectory⟩
  | cons step rest ih =>
    rw [walk_cons_eq_ok, and_assoc, and_assoc, ih, Path.placesFrom, List.forall_mem_cons,
      List.forall_mem_cons, List.foldl_cons]
    tauto

/-- A path leads to a directory if there is one at each place that it passes. -/
theorem leads_iff :
    (∃ target, t.locate w path = .ok target ∧ t.entry? target.place = some .directory) ↔
      path ≠ "" ∧ path.utf8ByteSize ≤ longestPath ∧
        (∀ step ∈ Path.properSteps path.toList, (String.ofList step).utf8ByteSize ≤ longestName) ∧
        ∀ p ∈ Path.places w path, t.entry? p = some .directory := by
  constructor
  · rintro ⟨target, hlocate, hdirectory⟩
    obtain ⟨hne, hshort, hwalk, -⟩ := locate_eq_ok.mp hlocate
    obtain ⟨hfits, hplaces, -⟩ := walk_directory_iff.mp ⟨hwalk, hdirectory⟩
    exact ⟨hne, hshort, hfits, hplaces⟩
  · rintro ⟨hne, hshort, hfits, hplaces⟩
    obtain ⟨hwalk, hdirectory⟩ := walk_directory_iff.mpr ⟨hfits, hplaces, rfl⟩
    exact ⟨⟨_, _⟩, locate_eq_ok.mpr ⟨hne, hshort, hwalk, rfl⟩, hdirectory⟩

/-- A path leads somewhere if all but its last step lead to a directory. -/
theorem exists_locate {before last : List (List Char)} (hne : path ≠ "")
    (hshort : path.utf8ByteSize ≤ longestPath)
    (hfits : ∀ step ∈ Path.properSteps path.toList, (String.ofList step).utf8ByteSize ≤ longestName)
    (hsteps : Path.properSteps path.toList = before ++ last) (hlast : last.length ≤ 1)
    (hbefore : ∀ p ∈ Path.placesFrom (startOf w path) before, t.entry? p = some .directory) :
    ∃ target, t.locate w path = .ok target ∧ target.place = Path.resolve w path := by
  rw [hsteps] at hfits
  obtain ⟨hfitsBefore, hfitsLast⟩ := List.forall_mem_append.mp hfits
  obtain ⟨hwalk, hdirectory⟩ := walk_directory_iff.mpr ⟨hfitsBefore, hbefore, rfl⟩
  obtain ⟨place, hplace⟩ : ∃ place, t.walk (startOf w path) (before ++ last) = .ok place := by
    match last, hlast with
    | [], _ => exact ⟨_, by rwa [List.append_nil]⟩
    | [step], _ =>
      exact ⟨_, walk_append_eq_ok.mpr ⟨_, hwalk, walk_cons_eq_ok.mpr
        ⟨hdirectory, hfitsLast step (List.mem_singleton_self step), rfl⟩⟩⟩
  rw [← hsteps] at hplace
  have hlocate : t.locate w path = .ok ⟨place, _⟩ := locate_eq_ok.mpr ⟨hne, hshort, hplace, rfl⟩
  exact ⟨_, hlocate, locate_place hlocate⟩

/-! ## Adding directories -/

/-- The disk with a directory at a place where nothing was. -/
def withDirectory (t : Tree) (p : Place) : Tree :=
  if t.entry? p = none then t.put p .directory else t

/-- The disk with a directory at each place that a path passes and where nothing was. -/
def withDirectories (t : Tree) (w : Place) (path : String) : Tree :=
  (Path.places w path).foldl withDirectory t

theorem withDirectory_of_some {p : Place} (h : t.entry? p = some .directory) : t.withDirectory p = t := by
  rw [withDirectory, if_neg (by simp [h])]

theorem withDirectory_entry (t : Tree) (p q : Place) :
    entry? (t.withDirectory p) q =
      if q = p ∧ t.entry? q = none then some .directory else t.entry? q := by
  unfold withDirectory
  split
  · rename_i hnone
    rw [put_entry t (ne_nil_of_entry (t := t) (by simp [hnone]))]
    by_cases hq : q = p <;> simp [hq, hnone]
  · rename_i hsome
    rw [if_neg]
    rintro ⟨rfl, hnone⟩
    exact hsome hnone

theorem faulty_withDirectory (t : Tree) (p : Place) : (t.withDirectory p).faulty = t.faulty := by
  unfold withDirectory
  split
  · exact faulty_put t p _
  · rfl

theorem foldl_withDirectory_entry (places : List Place) (t : Tree) (q : Place) :
    entry? (places.foldl withDirectory t) q =
      if q ∈ places ∧ t.entry? q = none then some .directory else t.entry? q := by
  induction places generalizing t with
  | nil => simp
  | cons p rest ih =>
    rw [List.foldl_cons, ih, withDirectory_entry]
    by_cases hq : q = p
    · subst hq
      by_cases hnone : t.entry? q = none <;> simp [hnone]
    · simp [hq]

theorem foldl_withDirectory_of_some {places : List Place}
    (h : ∀ p ∈ places, t.entry? p = some .directory) : places.foldl withDirectory t = t := by
  induction places with
  | nil => rfl
  | cons p rest ih =>
    obtain ⟨hp, hrest⟩ := List.forall_mem_cons.mp h
    rw [List.foldl_cons, withDirectory_of_some hp, ih hrest]

theorem withDirectories_entry (t : Tree) (w : Place) (path : String) (q : Place) :
    entry? (t.withDirectories w path) q =
      if q ∈ Path.places w path ∧ t.entry? q = none then some .directory else t.entry? q :=
  foldl_withDirectory_entry _ t q

@[simp] theorem faulty_withDirectories (t : Tree) (w : Place) (path : String) :
    (t.withDirectories w path).faulty = t.faulty := by
  unfold withDirectories
  generalize Path.places w path = places
  induction places generalizing t with
  | nil => rfl
  | cons p rest ih => rw [List.foldl_cons, ih, faulty_withDirectory]

theorem withDirectories_grows (t : Tree) (w : Place) (path : String) :
    t.Grows (· ∈ Path.places w path) (t.withDirectories w path) := by
  refine ⟨faulty_withDirectories t w path, fun p => ?_⟩
  rw [withDirectories_entry]
  split
  · rename_i h
    exact .inr ⟨h.1, h.2, rfl⟩
  · exact .inl rfl

/-- A path can be made into a directory: it is not too long, nor is a step of it, there is a directory
where it starts, and nothing else is in its way. -/
@[mk_iff]
structure Makes (t : Tree) (w : Place) (path : String) : Prop where
  nonempty : path ≠ ""
  noNul : Path.hasNul path = false
  short : path.utf8ByteSize ≤ longestPath
  fits : ∀ step ∈ Path.properSteps path.toList, (String.ofList step).utf8ByteSize ≤ longestName
  start : t.entry? (startOf w path) = some .directory
  free : ∀ p ∈ Path.places w path, t.entry? p = none ∨ t.entry? p = some .directory

instance : Decidable (t.Makes w path) := decidable_of_iff' _ (makes_iff t w path)

/-- What is made is there. -/
theorem Makes.directories (h : t.Makes w path) {p : Place} (hp : p ∈ Path.places w path) :
    entry? (t.withDirectories w path) p = some .directory := by
  rw [withDirectories_entry]
  rcases h.free p hp with hnone | hdirectory
  · rw [if_pos ⟨hp, hnone⟩]
  · rw [if_neg (by simp [hdirectory]), hdirectory]

theorem Makes.leads (h : t.Makes w path) :
    ∃ target, (t.withDirectories w path).locate w path = .ok target ∧
      entry? (t.withDirectories w path) target.place = some .directory :=
  leads_iff.mpr ⟨h.nonempty, h.short, h.fits, fun _ => h.directories⟩

/-! ## A path and its directory -/

section
variable {chars head tail : List Char}

/-- A path can be made only if its directory can be. -/
theorem Makes.parent (h : t.Makes w (String.ofList chars)) (hparent : Path.IsParent chars head tail)
    (hne : head ≠ []) : t.Makes w (String.ofList head) := by
  have hstart := hparent.startOf_eq hne w
  have hfits := h.fits
  have hfree := h.free
  rw [Path.places] at hfree
  rw [String.toList_ofList, hparent.steps] at hfits hfree
  obtain ⟨rest, hrest⟩ := hparent.isPrefix
  have happend : String.ofList chars = String.ofList head ++ String.ofList rest := by
    rw [← hrest, String.ofList_append]
  refine ⟨by simpa using hne, ?_, ?_, ?_, hstart ▸ h.start, ?_⟩
  · have hnul := h.noNul
    rw [happend, Path.hasNul, String.toList_append, List.any_append, Bool.or_eq_false_iff] at hnul
    exact hnul.1
  · have hshort := h.short
    rw [happend, String.utf8ByteSize_append] at hshort
    exact Nat.le_of_add_right_le hshort
  · rw [String.toList_ofList]
    exact (List.forall_mem_append.mp hfits).1
  · rw [Path.places, String.toList_ofList, hstart]
    exact fun p hp => hfree p (Path.placesFrom_subset _ _ _ p hp)

/-- With its directory there, one place of a path is left. -/
theorem Makes.withDirectories_parent (h : t.Makes w (String.ofList chars))
    (hparent : Path.IsParent chars head tail) (hne : head ≠ []) :
    t.withDirectories w (String.ofList chars) =
      (t.withDirectories w (String.ofList head)).withDirectory
        (Path.resolve w (String.ofList chars)) := by
  rw [withDirectories, withDirectories, Path.places, Path.places, hparent.startOf_eq hne w,
    ← Path.foldl_properSteps, String.toList_ofList, String.toList_ofList, hparent.steps]
  by_cases htail : tail = []
  · have hnone := hparent.stepless htail
    rw [hparent.steps, List.append_eq_nil_iff] at hnone
    rw [hnone.1, hnone.2]
    simp only [List.append_nil, Path.placesFrom, List.foldl_cons, List.foldl_nil]
    rw [withDirectory_of_some h.start, withDirectory_of_some h.start]
  · rw [Path.properSteps_of_not_mem hparent.noSlash htail, Path.placesFrom_concat, List.foldl_append,
      List.foldl_append]
    rfl

/-- A path of one step has one place but its start. -/
theorem Makes.withDirectories_single (h : t.Makes w path)
    (hlength : (Path.properSteps path.toList).length ≤ 1) :
    t.withDirectories w path = t.withDirectory (Path.resolve w path) := by
  rw [withDirectories, Path.places, ← Path.foldl_properSteps]
  match Path.properSteps path.toList, hlength with
  | [], _ => rfl
  | [step], _ =>
    simp only [Path.placesFrom, List.foldl_cons, List.foldl_nil]
    rw [withDirectory_of_some h.start]

end

end Tree

end Storyboard.Disk
