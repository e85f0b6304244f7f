import Storyboard.Proofs.Disk.Changes
/-!
# Following paths

A path is followed from directory to directory, so a path with one name more is followed as far as the
path without it, which has to lead to a directory, and one step on. What could be followed can still be
followed after directories and files have been added.

* `Path.IsName`: the names, the steps that lead to somewhere inside a directory.
* `Path.slash_not_mem_baseName`, `Path.steps_of_baseName`: the last step of a path.
* `Tree.locate_join`: a name behind a path that leads to a directory.
* `Tree.locate_extends`: paths stay open.
* `Tree.IsRooted`: each entry stands in a directory; nothing is below a place where nothing is.
-/
namespace Storyboard.Disk

namespace Path

/-- A step that leads to an entry of the directory itself. -/
structure IsName (name : String) : Prop where
  nonempty : name ≠ ""
  notStay : name ≠ "."
  notUp : name ≠ ".."
  noSlash : '/' ∉ name.toList

variable {name : String}

theorem IsName.toList_ne_nil (h : IsName name) : name.toList ≠ [] :=
  mt String.toList_eq_nil_iff.mp h.nonempty

theorem IsName.stepFrom (h : IsName name) (place : Place) :
    stepFrom place name.toList = place ++ [name] := by
  have hstay : name.toList ≠ ['.'] := fun he => h.notStay (String.toList_inj.mp he)
  have hup : name.toList ≠ ['.', '.'] := fun he => h.notUp (String.toList_inj.mp he)
  rw [Path.stepFrom, if_neg (by simp [h.toList_ne_nil, hstay]), if_neg hup, String.ofList_toList]

/-- A path without a slash is one step. -/
theorem resolve_of_not_mem (h : '/' ∉ name.toList) (w : Place) :
    resolve w name = Path.stepFrom w name.toList := by
  have htop : name.toList.head? ≠ some '/' := fun he => h (List.mem_of_head? he)
  rw [resolve, if_neg htop, follow_of_not_mem h]

theorem IsName.resolve (h : IsName name) (w : Place) : resolve w name = w ++ [name] := by
  rw [resolve_of_not_mem h.noSlash, h.stepFrom]

/-- A text of more than two characters without a slash is a name. -/
theorem isName_of_length (hlength : 2 < name.toList.length) (hslash : '/' ∉ name.toList) :
    IsName name := by
  refine ⟨?_, ?_, ?_, hslash⟩ <;>
    · rintro rfl
      simp at hlength

/-- The steps of a path with one name more. -/
theorem steps_join {a : String} (ha : a ≠ "") (h : IsName name) :
    (steps (join a name).toList).filter (· != []) =
      (steps a.toList).filter (· != []) ++ [name.toList] := by
  have htop : name.toList.head? ≠ some '/' := fun he => h.noSlash (List.mem_of_head? he)
  have hname : (steps name.toList).filter (· != []) = [name.toList] := by
    rw [steps_of_not_mem h.noSlash]
    simp [h.toList_ne_nil]
  unfold join
  rw [if_neg htop]
  split
  · rename_i hend
    have hlast : a.toList.getLast? = some '/' := by simpa [ha] using hend
    obtain ⟨front, hfront⟩ := List.getLast?_eq_some_iff.mp hlast
    rw [String.toList_append, hfront, List.append_assoc, List.singleton_append, steps_append_slash,
      steps_append_slash, List.filter_append, List.filter_append, hname]
    simp [steps]
  · have hslash : (a ++ "/" ++ name).toList = a.toList ++ '/' :: name.toList := by simp
    rw [hslash, steps_append_slash, List.filter_append, hname]

theorem head_join {a : String} (ha : a ≠ "") (h : IsName name) :
    (join a name).toList.head? = a.toList.head? := by
  have htop : name.toList.head? ≠ some '/' := fun he => h.noSlash (List.mem_of_head? he)
  have hnil : a.toList ≠ [] := mt String.toList_eq_nil_iff.mp ha
  unfold join
  rw [if_neg htop]
  split
  · rw [String.toList_append, List.head?_append_of_ne_nil _ hnil]
  · rw [String.toList_append, String.toList_append, List.append_assoc, List.head?_append_of_ne_nil _ hnil]

theorem IsDirectoryPart.append {a b : List Char} (ha : IsDirectoryPart a) (hb : IsDirectoryPart b) :
    IsDirectoryPart (a ++ b) := by
  rcases hb with rfl | ⟨front, rfl⟩
  · rwa [List.append_nil]
  · exact .inr ⟨a ++ front, (List.append_assoc _ _ _).symm⟩

/-- A joined path ends as its second part does. -/
theorem cutLast_join (a b : String) : (cutLast (join a b).toList).2 = (cutLast b.toList).2 := by
  obtain ⟨directory, last, hdirectory, hlast, hb⟩ := exists_cut b.toList
  unfold join
  split
  · rfl
  rw [hb, cutLast_append hdirectory hlast]
  split
  · rename_i hend
    have ha : IsDirectoryPart a.toList := by
      by_cases ha : a = ""
      · exact .inl (by simp [ha])
      · have hlast : a.toList.getLast? = some '/' := by simpa [ha] using hend
        exact .inr (List.getLast?_eq_some_iff.mp hlast)
    rw [String.toList_append, hb, ← List.append_assoc, cutLast_append (ha.append hdirectory) hlast]
  · have ha : IsDirectoryPart (a ++ "/").toList := .inr ⟨a.toList, by simp⟩
    rw [String.toList_append, hb, ← List.append_assoc, cutLast_append (ha.append hdirectory) hlast]

theorem IsName.baseName_join (h : IsName name) (a : String) : baseName (join a name) = name := by
  rw [baseName, cutLast_join, cutLast_of_not_mem h.noSlash, String.ofList_toList]

theorem toList_baseName (path : String) : (baseName path).toList = (cutLast path.toList).2 := by
  simp [baseName]

theorem slash_not_mem_baseName (path : String) : '/' ∉ (baseName path).toList := by
  obtain ⟨directory, last, hdirectory, hlast, hpath⟩ := exists_cut path.toList
  rwa [toList_baseName, hpath, cutLast_append hdirectory hlast]

/-- A path whose last step is a name ends as the name does. -/
theorem getLast_of_baseName {path : String} (h : IsName (baseName path)) :
    path.toList.getLast? = (baseName path).toList.getLast? := by
  have hne := h.toList_ne_nil
  rw [toList_baseName] at hne ⊢
  obtain ⟨directory, last, hdirectory, hlast, hpath⟩ := exists_cut path.toList
  rw [hpath, cutLast_append hdirectory hlast] at hne ⊢
  exact List.getLast?_append_of_ne_nil _ hne

/-- A name at the end of a path is the last step. -/
theorem steps_of_baseName {path : String} (h : IsName (baseName path)) :
    ∃ before, (steps path.toList).filter (· != []) = before ++ [(baseName path).toList] := by
  have hne := h.toList_ne_nil
  rw [toList_baseName] at hne ⊢
  obtain ⟨directory, last, hdirectory, hlast, hpath⟩ := exists_cut path.toList
  rw [hpath, cutLast_append hdirectory hlast] at hne ⊢
  have hsteps : (steps last).filter (· != []) = [last] := by
    rw [steps_of_not_mem hlast]
    simp [hne]
  rcases hdirectory with rfl | ⟨front, rfl⟩
  · exact ⟨[], hsteps⟩
  · refine ⟨(steps front).filter (· != []), ?_⟩
    rw [List.append_assoc, List.singleton_append, steps_append_slash, List.filter_append, hsteps]

/-- A path whose last step is a name does not end with a slash. -/
theorem getLast_ne_slash {path : String} (h : IsName (baseName path)) :
    path.toList.getLast? ≠ some '/' := by
  rw [getLast_of_baseName h]
  exact fun hlast => h.noSlash (List.mem_of_getLast? hlast)

theorem ne_empty_of_baseName {path : String} (h : IsName (baseName path)) : path ≠ "" := by
  rintro rfl
  exact h.nonempty (by decide)

end Path

namespace Tree

variable {t u : Tree} {allowed : Place → Prop}

theorem checkDirectory_eq_ok {place : Place} :
    t.checkDirectory place = .ok () ↔ t.entry? place = some .directory := by
  unfold checkDirectory
  rcases t.entry? place with _ | ⟨_ | _⟩ <;> simp

/-- A step starts from a directory and is not too long. -/
theorem walk_cons_eq_ok {place target : Place} {step : List Char} {rest : List (List Char)} :
    t.walk place (step :: rest) = .ok target ↔
      t.entry? place = some .directory ∧ (String.ofList step).utf8ByteSize ≤ longestName ∧
        t.walk (Path.stepFrom place step) rest = .ok target := by
  have hshort : (String.ofList []).utf8ByteSize ≤ longestName ∧
      (String.ofList ['.']).utf8ByteSize ≤ longestName ∧
      (String.ofList ['.', '.']).utf8ByteSize ≤ longestName := by decide
  rw [walk, ← checkDirectory_eq_ok]
  cases t.checkDirectory place with
  | error fault => simp [bind, Except.bind]
  | ok _ =>
    simp only [bind, Except.bind, true_and, Path.stepFrom]
    split
    · rename_i hstay
      rcases hstay with rfl | rfl <;> simp [hshort]
    · split
      · rename_i hup
        simp [hup, hshort]
      · split
        · rename_i hlong
          simp [Nat.not_le.mpr hlong]
        · rename_i hlong
          simp [Nat.not_lt.mp hlong]

theorem walk_append_eq_ok {place target : Place} {xs ys : List (List Char)} :
    t.walk place (xs ++ ys) = .ok target ↔
      ∃ middle, t.walk place xs = .ok middle ∧ t.walk middle ys = .ok target := by
  induction xs generalizing place with
  | nil => simp [walk]
  | cons step rest ih =>
    rw [List.cons_append, walk_cons_eq_ok, ih]
    simp only [walk_cons_eq_ok]
    constructor
    · rintro ⟨hdirectory, hlength, middle, hfirst, hsecond⟩
      exact ⟨middle, ⟨hdirectory, hlength, hfirst⟩, hsecond⟩
    · rintro ⟨middle, ⟨hdirectory, hlength, hfirst⟩, hsecond⟩
      exact ⟨hdirectory, hlength, middle, hfirst, hsecond⟩

/-- The place at which a path starts. -/
def startOf (working : Place) (path : String) : Place :=
  if path.toList.head? = some '/' then [] else working

theorem locate_eq_ok {working : Place} {path : String} {target : Target} :
    t.locate working path = .ok target ↔
      path ≠ "" ∧ path.utf8ByteSize ≤ longestPath ∧
        t.walk (startOf working path) ((Path.steps path.toList).filter (· != [])) = .ok target.place ∧
        target.slashed = decide (path.toList.getLast? = some '/') := by
  unfold locate
  by_cases hempty : path = ""
  · simp [hempty]
  rw [if_neg (by simpa using hempty)]
  by_cases hlong : longestPath < path.utf8ByteSize
  · simp [hlong, Nat.not_le.mpr hlong]
  rw [if_neg hlong]
  obtain ⟨place, slashed⟩ := target
  dsimp only [startOf]
  cases t.walk (if path.toList.head? = some '/' then [] else working)
      ((Path.steps path.toList).filter (· != [])) with
  | error fault => simp [bind, Except.bind]
  | ok found => simp [bind, Except.bind, pure, Except.pure, hempty, Nat.not_lt.mp hlong, eq_comm]

theorem find_eq_file {working place : Place} {path : String} {content : List UInt8} :
    t.find working path = .ok (place, .file content) ↔
      t.locate working path = .ok ⟨place, false⟩ ∧ t.entry? place = some (.file content) := by
  unfold find
  cases t.locate working path with
  | error fault => simp [bind, Except.bind]
  | ok target =>
    obtain ⟨found, slashed⟩ := target
    simp only [bind, Except.bind, Except.ok.injEq, Target.mk.injEq]
    rcases hentry : t.entry? found with _ | ⟨_ | old⟩
    · simp only [throw, throwThe, MonadExceptOf.throw, reduceCtorEq, false_iff]
      rintro ⟨⟨rfl, -⟩, hfile⟩
      simp [hentry] at hfile
    · simp only [pure, Except.pure, Except.ok.injEq, Prod.mk.injEq, reduceCtorEq, and_false, false_iff]
      rintro ⟨⟨rfl, -⟩, hfile⟩
      simp [hentry] at hfile
    · cases slashed with
      | false =>
        simp only [Bool.false_eq_true, if_false, pure, Except.pure, Except.ok.injEq, Prod.mk.injEq]
        constructor
        · rintro ⟨rfl, hfile⟩
          exact ⟨⟨rfl, trivial⟩, hfile ▸ hentry⟩
        · rintro ⟨⟨rfl, -⟩, hfile⟩
          rw [hentry] at hfile
          exact ⟨rfl, Option.some.inj hfile⟩
      | true => simp [throw, throwThe, MonadExceptOf.throw]

/-- What a path leads to is at its place. -/
theorem entry_of_find {working place : Place} {path : String} {e : Entry}
    (h : t.find working path = .ok (place, e)) :
    place = Path.resolve working path ∧ t.entry? place = some e := by
  unfold find at h
  cases hlocate : t.locate working path with
  | error fault => simp [hlocate, bind, Except.bind] at h
  | ok target =>
    rw [hlocate] at h
    simp only [bind, Except.bind] at h
    split at h
    · cases h
    · rename_i hentry
      cases h
      exact ⟨locate_place hlocate, hentry⟩
    · rename_i hentry
      split at h
      · cases h
      · cases h
        exact ⟨locate_place hlocate, hentry⟩

/-! ## One name more -/

section
variable {working : Place} {path name : String} {target : Target}

/-- The name behind the path is not too long, nor is the path with it. -/
def Fits (path name : String) : Prop :=
  (Path.join path name).utf8ByteSize ≤ longestPath ∧ name.utf8ByteSize ≤ longestName

instance (path name : String) : Decidable (Fits path name) := inferInstanceAs (Decidable (_ ∧ _))

/-- A name behind a path that leads to a directory leads to its entry of this name, if it fits. -/
theorem locate_join (hname : Path.IsName name) (hlocate : t.locate working path = .ok target)
    (hdirectory : t.entry? target.place = some .directory) (hfits : Fits path name) :
    t.locate working (Path.join path name) = .ok ⟨target.place ++ [name], false⟩ := by
  obtain ⟨hempty, -, hwalk, -⟩ := locate_eq_ok.mp hlocate
  have hlast : Path.IsName (Path.baseName (Path.join path name)) := by rwa [hname.baseName_join]
  refine locate_eq_ok.mpr ⟨Path.ne_empty_of_baseName hlast, hfits.1, ?_, ?_⟩
  · rw [Path.steps_join hempty hname, startOf, Path.head_join hempty hname]
    refine walk_append_eq_ok.mpr ⟨target.place, hwalk, walk_cons_eq_ok.mpr ⟨hdirectory, ?_, ?_⟩⟩
    · simpa using hfits.2
    · rw [hname.stepFrom]
      rfl
  · exact (decide_eq_false (Path.getLast_ne_slash hlast)).symm

/-- A path whose last step is a name leads to an entry of a directory, unless it leads nowhere. -/
theorem directory_of_locate (hname : Path.IsName (Path.baseName path))
    (hlocate : t.locate working path = .ok target) :
    path.utf8ByteSize ≤ longestPath ∧ (Path.baseName path).utf8ByteSize ≤ longestName ∧
      t.entry? target.place.dropLast = some .directory := by
  obtain ⟨-, hlong, hwalk, -⟩ := locate_eq_ok.mp hlocate
  obtain ⟨before, hsteps⟩ := Path.steps_of_baseName hname
  rw [hsteps] at hwalk
  obtain ⟨middle, -, hstep⟩ := walk_append_eq_ok.mp hwalk
  obtain ⟨hdirectory, hlength, hplace⟩ := walk_cons_eq_ok.mp hstep
  rw [hname.stepFrom, walk, Except.ok.injEq] at hplace
  rw [← hplace, List.dropLast_concat]
  exact ⟨hlong, by simpa using hlength, hdirectory⟩

/-- A name that can be followed fits. -/
theorem fits_of_locate (hname : Path.IsName name)
    (hlocate : t.locate working (Path.join path name) = .ok target) : Fits path name := by
  have hlast : Path.IsName (Path.baseName (Path.join path name)) := by rwa [hname.baseName_join]
  obtain ⟨hlong, hlength, -⟩ := directory_of_locate hlast hlocate
  rw [hname.baseName_join] at hlength
  exact ⟨hlong, hlength⟩

end

/-! ## Disks that grow -/

theorem Extends.directory (h : Extends allowed t u) {place : Place}
    (hdirectory : t.entry? place = some .directory) : u.entry? place = some .directory := by
  have hchange := h.entries place
  rw [hdirectory] at hchange
  generalize u.entry? place = e at hchange
  cases hchange with
  | same => rfl
  | written content _ hold => exact absurd rfl hold

theorem walk_extends (h : Extends allowed t u) {place target : Place} {steps : List (List Char)}
    (hwalk : t.walk place steps = .ok target) : u.walk place steps = .ok target := by
  induction steps generalizing place with
  | nil => exact hwalk
  | cons step rest ih =>
    obtain ⟨hdirectory, hlength, hrest⟩ := walk_cons_eq_ok.mp hwalk
    exact walk_cons_eq_ok.mpr ⟨h.directory hdirectory, hlength, ih hrest⟩

/-- A path that could be followed can be followed on a disk that has grown. -/
theorem locate_extends (h : Extends allowed t u) {working : Place} {path : String} {target : Target}
    (hlocate : t.locate working path = .ok target) : u.locate working path = .ok target := by
  obtain ⟨hempty, hlong, hwalk, hslashed⟩ := locate_eq_ok.mp hlocate
  exact locate_eq_ok.mpr ⟨hempty, hlong, walk_extends h hwalk, hslashed⟩

/-- A file that stays as it is is found where it was. -/
theorem find_extends (h : Extends allowed t u) {working place : Place} {path : String}
    {content : List UInt8} (hfind : t.find working path = .ok (place, .file content))
    (hsame : u.entry? place = t.entry? place) : u.find working path = .ok (place, .file content) := by
  obtain ⟨hlocate, hentry⟩ := find_eq_file.mp hfind
  exact find_eq_file.mpr ⟨locate_extends h hlocate, hsame.trans hentry⟩

/-- A directory that was made can be found. -/
theorem directory_of_makeDirectory {working : Place} {path : String}
    (h : t.makeDirectory working path = .ok u) :
    ∃ target, u.locate working path = .ok target ∧ u.entry? target.place = some .directory := by
  obtain ⟨target, hlocate, hnone, rfl⟩ := makeDirectory_eq_ok.mp h
  have hplace : target.place ≠ [] := ne_nil_of_entry (t := t) (by simp [hnone])
  refine ⟨target, locate_extends (makeDirectory_extends h fun _ => False) hlocate, ?_⟩
  rw [put_entry t hplace, if_pos rfl]

/-! ## Rooted disks -/

/-- Each entry stands in a directory. -/
def IsRooted (t : Tree) : Prop :=
  ∀ p, p ≠ [] → t.entry? p ≠ none → t.entry? p.dropLast = some .directory

theorem isRooted_of_entries (h : ∀ e ∈ t.entries, t.entry? e.1.dropLast = some .directory) :
    t.IsRooted := by
  intro p hp hentry
  unfold entry? at hentry
  rw [if_neg hp] at hentry
  obtain ⟨e, he⟩ := Option.ne_none_iff_exists'.mp hentry
  obtain ⟨before, behind, hentries, -⟩ := List.lookup_eq_some_iff.mp he
  exact h (p, e) (by simp [hentries])

theorem IsRooted.directory_above (h : t.IsRooted) {p q : Place} (hpq : p <+: q) (hne : p ≠ q)
    (hq : t.entry? q ≠ none) : t.entry? p = some .directory := by
  obtain ⟨rest, rfl⟩ := hpq
  induction rest using List.reverseRecOn with
  | nil => exact absurd (List.append_nil p).symm hne
  | append_singleton rest name ih =>
    have habove := h _ (by simp) hq
    rw [← List.append_assoc, List.dropLast_concat] at habove
    by_cases hrest : rest = []
    · simpa [hrest] using habove
    · exact ih (by simpa using Ne.symm hrest) (by simp [habove])

/-- Nothing is below a place where nothing is. -/
theorem IsRooted.nothing_below (h : t.IsRooted) {p q : Place} (hp : t.entry? p = none) (hpq : p <+: q) :
    t.entry? q = none := by
  by_contra hq
  by_cases hne : p = q
  · exact hq (hne ▸ hp)
  · have hdirectory := h.directory_above hpq hne hq
    rw [hp] at hdirectory
    cases hdirectory

end Tree

end Storyboard.Disk
