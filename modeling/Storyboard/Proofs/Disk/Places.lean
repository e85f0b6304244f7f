import Mathlib.Data.List.Basic
import Mathlib.Data.List.Induction
import Storyboard.Disk.Tree
/-!
# Where paths lead

On a disk a path leads to a place step by step, as long as the directories on its way are there. Where it
leads if it leads anywhere can be told from the text alone: names are appended, two dots drop the last
one, and a path from the top forgets where it started.

* `Path.resolve`: the place that a path leads to.
* `Tree.locate_place`: a disk agrees, for each path that can be followed.
* `Path.resolve_join`: a joined path is followed part by part.
* `Path.resolve_eq`: the last step of a path is taken from where its directory part leads to.
-/
namespace Storyboard.Disk

namespace Path

/-- Where one step leads. -/
def stepFrom (place : Place) (step : List Char) : Place :=
  if step = [] ∨ step = ['.'] then place
  else if step = ['.', '.'] then place.dropLast
  else place ++ [String.ofList step]

/-- Where the steps of a path lead. -/
def follow (place : Place) (path : List Char) : Place := (steps path).foldl stepFrom place

/-- Where a path leads from a working directory. -/
def resolve (working : Place) (path : String) : Place :=
  follow (if path.toList.head? = some '/' then [] else working) path.toList

/-- The part of a path in front of its last step, with the slash. -/
def directoryPart (path : String) : String := String.ofList (cutLast path.toList).1

/-- A step of more than two characters is a name. -/
theorem stepFrom_of_length {step : List Char} (h : 2 < step.length) (place : Place) :
    stepFrom place step = place ++ [String.ofList step] := by
  unfold stepFrom
  rw [if_neg, if_neg]
  · rintro rfl
    simp at h
  · rintro (rfl | rfl) <;> simp at h

theorem steps_ne_nil (s : List Char) : steps s ≠ [] := by
  cases s with
  | nil => simp [steps]
  | cons c rest =>
    rw [steps]
    split
    · simp
    · split <;> simp

theorem steps_append_slash (a b : List Char) : steps (a ++ '/' :: b) = steps a ++ steps b := by
  induction a with
  | nil => simp [steps]
  | cons c rest ih =>
    rw [List.cons_append, steps, ih, steps]
    split
    · rfl
    · obtain ⟨step, more, hsteps⟩ := List.exists_cons_of_ne_nil (steps_ne_nil rest)
      simp [hsteps]

theorem steps_of_not_mem {s : List Char} (h : '/' ∉ s) : steps s = [s] := by
  induction s with
  | nil => rfl
  | cons c rest ih =>
    obtain ⟨hc, hrest⟩ := not_or.mp (mt List.mem_cons.mpr h)
    rw [steps, if_neg (Ne.symm hc), ih hrest]

theorem follow_slash (place : Place) (a b : List Char) :
    follow place (a ++ '/' :: b) = follow (follow place a) b := by
  rw [follow, steps_append_slash, List.foldl_append]
  rfl

theorem follow_of_not_mem {s : List Char} (h : '/' ∉ s) (place : Place) :
    follow place s = stepFrom place s := by
  rw [follow, steps_of_not_mem h, List.foldl_cons, List.foldl_nil]

@[simp] theorem follow_nil (place : Place) : follow place [] = place := by
  simp [follow, steps, stepFrom]

@[simp] theorem resolve_empty (working : Place) : resolve working "" = working := by
  simp [resolve]

/-- Empty steps lead nowhere. -/
theorem foldl_filter_steps (place : Place) (path : List Char) :
    ((steps path).filter (· != [])).foldl stepFrom place = follow place path := by
  have hpassed : (fun place step => if (step != []) = true then stepFrom place step else place) =
      stepFrom := by
    funext place step
    by_cases hstep : step = [] <;> simp [hstep, stepFrom]
  rw [List.foldl_filter, hpassed, follow]

/-- A path that does not start at the top is followed part by part. -/
theorem resolve_append {a b path : String} (hb : b.toList.head? ≠ some '/')
    (hhead : path.toList.head? = a.toList.head?)
    (hfollow : ∀ place, follow place path.toList = follow (follow place a.toList) b.toList)
    (w : Place) : resolve w path = resolve (resolve w a) b := by
  unfold resolve
  rw [if_neg hb, hhead]
  exact hfollow _

/-- A joined path is followed part by part. -/
theorem resolve_join (w : Place) (a b : String) : resolve w (join a b) = resolve (resolve w a) b := by
  unfold join
  by_cases hb : b.toList.head? = some '/'
  · simp [resolve, hb]
  rw [if_neg hb]
  by_cases hempty : a = ""
  · simp [hempty]
  have ha : a.toList ≠ [] := mt String.toList_eq_nil_iff.mp hempty
  split
  · rename_i hend
    -- the slash between the two parts is the last character of the first
    have hlast : a.toList.getLast? = some '/' := by simpa [hempty] using hend
    obtain ⟨front, hfront⟩ := List.getLast?_eq_some_iff.mp hlast
    refine resolve_append hb ?_ (fun place => ?_) w
    · rw [String.toList_append, List.head?_append_of_ne_nil _ ha]
    · rw [String.toList_append, hfront, List.append_assoc, List.singleton_append, follow_slash,
        follow_slash, follow_nil]
  · refine resolve_append hb ?_ (fun place => ?_) w
    · rw [String.toList_append, String.toList_append, List.append_assoc,
        List.head?_append_of_ne_nil _ ha]
    · rw [String.toList_append, String.toList_append, List.append_assoc]
      exact follow_slash place a.toList b.toList

/-! ## The last step -/

/-- A directory part is empty or ends with a slash. -/
def IsDirectoryPart (s : List Char) : Prop := s = [] ∨ ∃ front, s = front ++ ['/']

theorem cutLast_append {directory step : List Char} (hdirectory : IsDirectoryPart directory)
    (hstep : '/' ∉ step) : cutLast (directory ++ step) = (directory, step) := by
  have htail : ((directory ++ step).reverse.takeWhile (· != '/')).reverse = step := by
    have hfree : ∀ c ∈ step.reverse, (c != '/') = true := fun c hc =>
      bne_iff_ne.mpr fun he => hstep (he ▸ List.mem_reverse.mp hc)
    rw [List.reverse_append, List.takeWhile_append_of_pos hfree]
    rcases hdirectory with rfl | ⟨front, rfl⟩ <;> simp
  simp only [cutLast, htail]
  simp

/-- Every path has a directory part and a last step. -/
theorem exists_cut (s : List Char) :
    ∃ directory step, IsDirectoryPart directory ∧ '/' ∉ step ∧ s = directory ++ step := by
  induction s using List.reverseRecOn with
  | nil => exact ⟨[], [], .inl rfl, List.not_mem_nil, rfl⟩
  | append_singleton s c ih =>
    obtain ⟨directory, step, hdirectory, hstep, rfl⟩ := ih
    by_cases hc : c = '/'
    · exact ⟨directory ++ step ++ [c], [], .inr ⟨directory ++ step, by rw [hc]⟩, List.not_mem_nil, by simp⟩
    · refine ⟨directory, step ++ [c], hdirectory, ?_, by simp⟩
      simp [hstep, Ne.symm hc]

/-- The last step of a path is taken from where the directory part leads to. -/
theorem resolve_eq (w : Place) (path : String) :
    resolve w path = stepFrom (resolve w (directoryPart path)) (cutLast path.toList).2 := by
  obtain ⟨directory, step, hdirectory, hstep, hpath⟩ := exists_cut path.toList
  have hcut := cutLast_append hdirectory hstep
  have htop : step.head? ≠ some '/' := fun h => hstep (List.mem_of_head? h)
  rw [directoryPart, hpath, hcut]
  rcases hdirectory with rfl | ⟨front, rfl⟩
  · rw [List.nil_append] at hpath
    rw [String.ofList_nil, resolve_empty, resolve, hpath, if_neg htop, follow_of_not_mem hstep]
  · have hfollow : ∀ place, follow place path.toList =
        follow (follow place (String.ofList (front ++ ['/'])).toList) (String.ofList step).toList := by
      intro place
      rw [hpath, String.toList_ofList, String.toList_ofList, List.append_assoc, List.singleton_append,
        follow_slash, follow_slash, follow_nil]
    rw [resolve_append (by simpa using htop) ?_ hfollow, resolve, String.toList_ofList, if_neg htop,
      follow_of_not_mem hstep]
    rw [hpath, String.toList_ofList, List.head?_append_of_ne_nil _ (by simp)]

/-- What is put behind a path goes to its last step. -/
theorem cutLast_behind (s : List Char) {tail : List Char} (h : '/' ∉ tail) :
    cutLast (s ++ tail) = ((cutLast s).1, (cutLast s).2 ++ tail) := by
  obtain ⟨directory, step, hdirectory, hstep, rfl⟩ := exists_cut s
  rw [cutLast_append hdirectory hstep, List.append_assoc,
    cutLast_append hdirectory (by simp [hstep, h])]

theorem cutLast_of_not_mem {s : List Char} (h : '/' ∉ s) : cutLast s = ([], s) :=
  cutLast_append (.inl rfl) h

end Path

/-! ## Trees -/

namespace Tree

variable {t : Tree}

theorem walk_place {place target : Place} {steps : List (List Char)}
    (h : t.walk place steps = .ok target) : target = steps.foldl Path.stepFrom place := by
  induction steps generalizing place with
  | nil => exact (Except.ok.inj h).symm
  | cons step rest ih =>
    rw [walk] at h
    cases hdir : t.checkDirectory place with
    | error fault => simp [hdir, bind, Except.bind] at h
    | ok _ =>
      simp only [hdir, bind, Except.bind] at h
      rw [List.foldl_cons, Path.stepFrom]
      split at h
      · rename_i hstay
        rw [if_pos hstay]
        exact ih h
      · rename_i hstay
        rw [if_neg hstay]
        split at h
        · rename_i hup
          rw [if_pos hup]
          exact ih h
        · rename_i hup
          rw [if_neg hup]
          split at h
          · cases h
          · exact ih h

/-- A disk agrees with the text about where a path leads to. -/
theorem locate_place {working : Place} {path : String} {target : Target}
    (h : t.locate working path = .ok target) : target.place = Path.resolve working path := by
  unfold locate at h
  split at h
  · cases h
  split at h
  · cases h
  cases hwalk : t.walk (if path.toList.head? = some '/' then [] else working)
      ((Path.steps path.toList).filter (· != [])) with
  | error fault => simp [hwalk, bind, Except.bind] at h
  | ok place =>
    simp only [hwalk, bind, Except.bind, pure, Except.pure, Except.ok.injEq] at h
    subst h
    rw [walk_place hwalk, Path.resolve, Path.foldl_filter_steps]

end Tree

end Storyboard.Disk
