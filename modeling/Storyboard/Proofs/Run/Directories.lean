import Storyboard.Proofs.Disk.Making
import Storyboard.Proofs.Run.Effects
/-!
# Making directories

A directory is made after those above it, as far as they are missing, and only directories are added, each
where a path on the way to it leads. A run makes a directory exactly if the disk lets it. Below a directory
that is there, one name more takes one step.

* `makeDirectories_grows`, `makeDirectories_result`: what a run adds, and what is there if it succeeds.
* `exec_makeNested_of_makes`: a path that can be made is made.
* `exec_makeDirectories_eq_ok`: no other path is.
* `Usable`, `exec_makeDirectories_join`: a directory inside one that is there.
-/
namespace Storyboard

open Storyboard.Disk

/-! ## Sessions and their disks -/

namespace Session

/-- The session on another disk. -/
def withDisk (s : Session) (disk : Tree) : Session := { s with disk }

@[simp] theorem disk_withDisk (s : Session) (disk : Tree) : (s.withDisk disk).disk = disk := rfl

@[simp] theorem working_withDisk (s : Session) (disk : Tree) :
    (s.withDisk disk).working = s.working := rfl

@[simp] theorem withDisk_withDisk (s : Session) (disk other : Tree) :
    (s.withDisk disk).withDisk other = s.withDisk other := rfl

theorem withDisk_eq {s : Session} {disk : Tree} (h : s.disk = disk) : s.withDisk disk = s := by
  subst h
  rfl

theorem kind?_eq_directory {path : String} {s : Session} :
    s.kind? path = some .directory ↔ ∃ target, s.disk.locate s.working path = .ok target ∧
      s.disk.entry? target.place = some .directory := by
  unfold Session.kind? Tree.find
  cases s.disk.locate s.working path with
  | error fault => simp [bind, Except.bind]
  | ok target =>
    rcases hentry : s.disk.entry? target.place with _ | ⟨_ | content⟩
    · simp [hentry, bind, Except.bind, throw, throwThe, MonadExceptOf.throw]
    · simp [hentry, bind, Except.bind, pure, Except.pure, kindOf]
    · simp only [hentry, bind, Except.bind, Except.ok.injEq, exists_eq_left']
      split
      · rename_i p e hfound
        split at hfound
        · cases hfound
        · cases hfound
          simp [kindOf]
      · simp

/-- A directory that is there stays there. -/
theorem Extends.kind?_eq_directory {allowed : Place → Prop} {s t : Session} (h : Extends allowed s t)
    {path : String} (hs : s.kind? path = some .directory) : t.kind? path = some .directory := by
  obtain ⟨target, hlocate, hdirectory⟩ := Session.kind?_eq_directory.mp hs
  rw [← h.working] at hlocate
  exact Session.kind?_eq_directory.mpr
    ⟨target, Tree.locate_extends h.disk hlocate, h.disk.directory hdirectory⟩

theorem kind?_of_makeDirectory {path : String} {s : Session} {disk : Tree}
    (h : s.disk.makeDirectory s.working path = .ok disk) :
    (s.withDisk disk).kind? path = some .directory :=
  Session.kind?_eq_directory.mpr (Tree.directory_of_makeDirectory h)

end Session

/-! ## One directory -/

theorem exec_makeOneDirectory (path : String) (s : Session) :
    exec (makeOneDirectory Session.host path) s =
      if Path.hasNul path then (.error .nulInPath, s)
      else match s.disk.makeDirectory s.working path with
        | .ok disk => (.ok (), s.withDisk disk)
        | .error cause =>
          if s.kind? path = some .directory then (.ok (), s) else (.error (.disk cause path), s) := by
  have hmake : Session.host.makeDirectory path s = Session.makeDirectory path s := rfl
  have hkind : Session.host.kind? path s = (s.kind? path, s) := rfl
  unfold makeOneDirectory
  split
  · rfl
  · rw [exec_bind, exec_lift, hmake, Session.makeDirectory]
    cases s.disk.makeDirectory s.working path with
    | ok disk => rfl
    | error cause =>
      dsimp only
      rw [exec_bind, exec_lift, hkind]
      dsimp only
      split <;> rfl

theorem makeOneDirectory_grows (path : String) (s : Session) :
    s.disk.Grows (· = Path.resolve s.working path)
      (exec (makeOneDirectory Session.host path) s).2.disk := by
  rw [exec_makeOneDirectory]
  split
  · exact .refl _ _
  · split
    · rename_i disk hmade
      exact Tree.makeDirectory_grows hmade
    · split <;> exact .refl _ _

/-- A directory that was made is there. -/
theorem makeOneDirectory_result {path : String} {s t : Session}
    (h : exec (makeOneDirectory Session.host path) s = (.ok (), t)) :
    Path.hasNul path = false ∧ t.kind? path = some .directory := by
  rw [exec_makeOneDirectory] at h
  split at h
  · cases h
  · rename_i hnul
    refine ⟨by simpa using hnul, ?_⟩
    split at h
    · rename_i disk hmade
      rw [← (Prod.mk.inj h).2]
      exact Session.kind?_of_makeDirectory hmade
    · split at h
      · rename_i hthere
        rwa [← (Prod.mk.inj h).2]
      · cases h

/-! ## What is added -/

section
variable {w : Place} {made : Place → Prop} {α β : Type}

/-- From the working directory `w` the run adds nothing but directories, each at one of some places. -/
def Adds (w : Place) (made : Place → Prop) (x : Run (StateM Session) α) : Prop :=
  ∀ s, s.working = w → (exec x s).2.working = w ∧ s.disk.Grows made (exec x s).2.disk

theorem Adds.bind {x : Run (StateM Session) α} {f : α → Run (StateM Session) β} (hx : Adds w made x)
    (hf : ∀ a, Adds w made (f a)) : Adds w made (x >>= f) := by
  intro s hs
  obtain ⟨hworking, hgrows⟩ := hx s hs
  rw [exec_bind]
  rcases hrun : exec x s with ⟨_ | a, t⟩
  · rw [hrun] at hworking hgrows
    exact ⟨hworking, hgrows⟩
  · rw [hrun] at hworking hgrows
    obtain ⟨hlater, hmore⟩ := hf a t hworking
    exact ⟨hlater, hgrows.trans hmore⟩

theorem adds_of_same {x : Run (StateM Session) α} (h : ∀ s, (exec x s).2 = s) : Adds w made x := by
  intro s hs
  rw [h]
  exact ⟨hs, .refl made s.disk⟩

theorem adds_makeOneDirectory {path : String} (h : made (Path.resolve w path)) :
    Adds w made (makeOneDirectory Session.host path) := by
  rintro s rfl
  refine ⟨?_, (makeOneDirectory_grows path s).weaken fun p hp => ?_⟩
  · have hextends : Session.Extends (fun _ => False) s _ := confined_makeOneDirectory path s rfl
    exact hextends.working
  · rw [hp]
    exact h

end

/-- The places of the directories that are made for a path. -/
def OnTheWay (w : Place) (path : String) (p : Place) : Prop :=
  ∃ q ∈ Path.ancestry path, p = Path.resolve w q

/-- Only directories on the way are added. -/
theorem makeDirectories_grows (path : String) (s : Session) :
    s.disk.Grows (OnTheWay s.working path) (exec (makeDirectories Session.host path) s).2.disk := by
  have hadds : Adds s.working (OnTheWay s.working path) (makeDirectories Session.host path) := by
    refine makeNested_induction (adds_of_same fun _ => rfl) (fun q x y hx hy => ?_)
      (fun x y hx hy => ?_) _ fun q hq => adds_makeOneDirectory ⟨q, hq, rfl⟩
    · refine Adds.bind (adds_of_same fun t => ?_) fun kind => ?_
      · rw [exec_lift, kindAt?]
        split <;> rfl
      · split
        · exact hx
        · exact hy
    · exact hx.bind fun _ => hy
  exact (hadds s rfl).2

/-! ## Directories that were made -/

theorem ancestry_eq (path : String) : ∃ above, Path.ancestry path = path :: above := by
  unfold Path.ancestry
  rw [Path.ancestryFrom, String.ofList_toList]
  exact ⟨_, rfl⟩

/-- A directory that was made is there, if its name is one. -/
theorem makeDirectories_result {path : String} (hname : Path.IsName (Path.baseName path))
    {s t : Session} (h : exec (makeDirectories Session.host path) s = (.ok (), t)) :
    Path.hasNul path = false ∧ t.kind? path = some .directory := by
  obtain ⟨above, habove⟩ := ancestry_eq path
  have hlast : (Path.parentAndStep path.toList).2 = (Path.baseName path).toList := by
    have hne := hname.toList_ne_nil
    rw [Path.toList_baseName] at hne ⊢
    simp [Path.parentAndStep, hne]
  have hstep : ((Path.parentAndStep path.toList).2 != ['.']) = true := by
    rw [hlast, bne_iff_ne]
    exact fun hdot => hname.notStay (String.toList_inj.mp hdot)
  rw [makeDirectories, habove] at h
  cases above with
  | nil => exact makeOneDirectory_result h
  | cons parent above =>
    rw [makeNested, exec_bind_eq_ok] at h
    obtain ⟨kind, u, -, h⟩ := h
    by_cases hthere : kind.isSome = true
    · rw [if_pos hthere] at h
      exact makeOneDirectory_result h
    · rw [if_neg hthere] at h
      obtain ⟨_, v, -, h⟩ := exec_bind_eq_ok.mp h
      rw [if_pos hstep] at h
      exact makeOneDirectory_result h

/-! ## Directories that can be made -/

/-- A directory is made where nothing is, and may be there already. -/
theorem exec_makeOneDirectory_of_locate {path : String} {s : Session} {target : Tree.Target}
    (hnul : Path.hasNul path = false) (hlocate : s.disk.locate s.working path = .ok target)
    (hfree : s.disk.entry? target.place = none ∨ s.disk.entry? target.place = some .directory) :
    exec (makeOneDirectory Session.host path) s =
      (.ok (), s.withDisk (s.disk.withDirectory target.place)) := by
  rw [exec_makeOneDirectory, hnul, if_neg Bool.false_ne_true]
  rcases hfree with hnone | hdirectory
  · rw [Tree.makeDirectory_eq_ok.mpr ⟨target, hlocate, hnone, rfl⟩, Tree.withDirectory, if_pos hnone]
  · have hthere := Session.kind?_eq_directory.mpr ⟨target, hlocate, hdirectory⟩
    rw [Tree.withDirectory_of_some hdirectory, Session.withDisk_eq rfl]
    cases hmade : s.disk.makeDirectory s.working path with
    | ok disk =>
      obtain ⟨other, hother, hnone, -⟩ := Tree.makeDirectory_eq_ok.mp hmade
      rw [hlocate, Except.ok.injEq] at hother
      rw [← hother, hdirectory] at hnone
      cases hnone
    | error cause => exact if_pos hthere

/-- A path can be made at once when all the places that it passes but the last are directories. -/
theorem exec_makeOneDirectory_of_before {path : String} {s : Session} {t : Tree}
    (h : t.Makes s.working path) (before last : List (List Char))
    (hsteps : Path.properSteps path.toList = before ++ last) (hlast : last.length ≤ 1)
    (hbefore : ∀ p ∈ Path.placesFrom (Tree.startOf s.working path) before,
      s.disk.entry? p = some .directory)
    (hfree : s.disk.entry? (Path.resolve s.working path) = none ∨
      s.disk.entry? (Path.resolve s.working path) = some .directory) :
    exec (makeOneDirectory Session.host path) s =
      (.ok (), s.withDisk (s.disk.withDirectory (Path.resolve s.working path))) := by
  obtain ⟨target, hlocate, hplace⟩ := Tree.exists_locate h.nonempty h.short h.fits hsteps hlast hbefore
  rw [← hplace] at hfree ⊢
  exact exec_makeOneDirectory_of_locate h.noNul hlocate hfree

theorem kindAt?_of_noNul {path : String} (h : Path.hasNul path = false) (s : Session) :
    kindAt? Session.host path s = (s.kind? path, s) := by
  rw [kindAt?, h, if_neg Bool.false_ne_true]
  rfl

/-- If there is anything where a path leads that can be made, it is a directory. -/
theorem places_of_kind? {path : String} {s : Session} (h : s.disk.Makes s.working path)
    (hkind : (s.kind? path).isSome = true) :
    ∀ p ∈ Path.places s.working path, s.disk.entry? p = some .directory := by
  suffices hdirectory : s.kind? path = some .directory from
    (Tree.leads_iff.mp (Session.kind?_eq_directory.mp hdirectory)).2.2.2
  have hnofile : ∀ place content, s.disk.find s.working path ≠ .ok (place, .file content) := by
    intro place content hfind
    obtain ⟨hlocate, hfile⟩ := Tree.find_eq_file.mp hfind
    have hplace := Tree.locate_place hlocate
    rcases h.free _ (Path.resolve_mem_places s.working path) with hfree | hfree <;>
      simp [← hplace, hfile] at hfree
  rw [Session.kind?] at hkind ⊢
  rcases hfind : s.disk.find s.working path with cause | ⟨place, _ | content⟩
  · simp [hfind] at hkind
  · rfl
  · exact absurd hfind (hnofile place content)

section
variable {chars head tail : List Char} {s : Session}

/-- A path can be made at once when its directory is there. -/
theorem exec_makeOneDirectory_of_parent {t : Tree} (h : t.Makes s.working (String.ofList chars))
    (hparent : Path.IsParent chars head tail) (hne : head ≠ [])
    (hthere : ∀ p ∈ Path.places s.working (String.ofList head), s.disk.entry? p = some .directory)
    (hfree : s.disk.entry? (Path.resolve s.working (String.ofList chars)) = none ∨
      s.disk.entry? (Path.resolve s.working (String.ofList chars)) = some .directory) :
    exec (makeOneDirectory Session.host (String.ofList chars)) s =
      (.ok (), s.withDisk (s.disk.withDirectory (Path.resolve s.working (String.ofList chars)))) := by
  refine exec_makeOneDirectory_of_before h (Path.properSteps head) (Path.properSteps tail) ?_
    hparent.length_le ?_ hfree
  · rw [String.toList_ofList, hparent.steps]
  · rwa [Path.places, hparent.startOf_eq hne, String.toList_ofList] at hthere

/-- With its directory just made, a path is made, unless its last step stays there. -/
theorem exec_makeLast (h : s.disk.Makes s.working (String.ofList chars))
    (hparent : Path.IsParent chars head tail) (hne : head ≠ []) (htail : tail ≠ []) :
    let made := s.disk.withDirectories s.working (String.ofList head)
    exec (if tail != ['.'] then makeOneDirectory Session.host (String.ofList chars) else pure ())
        (s.withDisk made) =
      (.ok (), s.withDisk (made.withDirectory (Path.resolve s.working (String.ofList chars)))) := by
  intro made
  have hthere : ∀ p ∈ Path.places s.working (String.ofList head), made.entry? p = some .directory :=
    fun p => (h.parent hparent hne).directories
  split
  · refine exec_makeOneDirectory_of_parent (s := s.withDisk made) h hparent hne hthere ?_
    rcases h.free _ (Path.resolve_mem_places _ _) with hnone | hdirectory
    · rw [Session.disk_withDisk, Session.working_withDisk, Tree.withDirectories_entry]
      split
      · exact .inr rfl
      · exact .inl hnone
    · refine .inr ?_
      rw [Session.disk_withDisk, Session.working_withDisk, Tree.withDirectories_entry, hdirectory]
      simp
  · rename_i hdot
    have hdot : tail = ['.'] := by simpa using hdot
    have hstay : Path.resolve s.working (String.ofList chars) = Path.resolve s.working (String.ofList head) := by
      rw [← Path.foldl_properSteps, ← Path.foldl_properSteps, String.toList_ofList, String.toList_ofList,
        hparent.startOf_eq hne, hparent.steps, Path.properSteps_of_not_mem hparent.noSlash htail,
        List.foldl_append, hdot]
      simp [Path.stepFrom]
    rw [hstay, Tree.withDirectory_of_some (hthere _ (Path.resolve_mem_places _ _))]
    rfl

/-- Making directories one after the other makes a path, if it can be made. -/
theorem exec_makeNested_of_makes {fuel : Nat} (hfuel : chars.length < fuel)
    (h : s.disk.Makes s.working (String.ofList chars)) :
    exec (makeNested Session.host (Path.ancestryFrom fuel chars)) s =
      (.ok (), s.withDisk (s.disk.withDirectories s.working (String.ofList chars))) := by
  induction fuel generalizing chars with
  | zero => exact absurd hfuel (Nat.not_lt_zero _)
  | succ fuel ih =>
    have hparent := Path.isParent_parentAndStep chars
    rw [Path.ancestryFrom]
    rcases hcut : Path.parentAndStep chars with ⟨head, tail⟩
    rw [hcut] at hparent
    dsimp only at hparent ⊢
    by_cases hend : (head.isEmpty || tail.isEmpty) = true
    · -- there is at most one step
      have hlength : (Path.properSteps (String.ofList chars).toList).length ≤ 1 := by
        rw [String.toList_ofList, hparent.steps]
        rcases Bool.or_eq_true .. |>.mp hend with hnil | hnil
        · rw [List.isEmpty_iff.mp hnil]
          exact hparent.length_le
        · rw [← hparent.steps, hparent.stepless (List.isEmpty_iff.mp hnil)]
          exact Nat.zero_le 1
      rw [if_pos hend, makeNested, h.withDirectories_single hlength]
      exact exec_makeOneDirectory_of_before h [] _ rfl hlength
        (List.forall_mem_singleton.mpr h.start) (h.free _ (Path.resolve_mem_places _ _))
    · obtain ⟨hne, htail⟩ : head ≠ [] ∧ tail ≠ [] := by simpa using hend
      have hhead := h.parent hparent hne
      have hshorter := hparent.shorter htail
      obtain ⟨above, habove⟩ : ∃ above, Path.ancestryFrom fuel head = String.ofList head :: above := by
        obtain ⟨fuel, rfl⟩ : ∃ n, fuel = n + 1 := ⟨fuel - 1, by omega⟩
        exact ⟨_, rfl⟩
      rw [if_neg hend, habove, makeNested, exec_bind, exec_lift, kindAt?_of_noNul hhead.noNul,
        h.withDirectories_parent hparent hne, String.toList_ofList, hcut]
      dsimp only
      by_cases hkind : (s.kind? (String.ofList head)).isSome = true
      · have hthere := places_of_kind? hhead hkind
        rw [if_pos hkind, Tree.withDirectories, Tree.foldl_withDirectory_of_some hthere]
        exact exec_makeOneDirectory_of_parent h hparent hne hthere
          (h.free _ (Path.resolve_mem_places _ _))
      · rw [if_neg hkind, exec_bind, ← habove, ih (by omega) hhead]
        exact exec_makeLast h hparent hne htail

end

/-! ## Directories that cannot be made -/

/-- From the working directory `w`, the run leaves the disk `disk` as it is. -/
def Idle (w : Place) (disk : Tree) {α : Type} (x : Run (StateM Session) α) : Prop :=
  ∀ s, s.disk = disk → s.working = w → (exec x s).2.disk = disk ∧ (exec x s).2.working = w

theorem Idle.bind {w : Place} {disk : Tree} {α β : Type} {x : Run (StateM Session) α}
    {f : α → Run (StateM Session) β} (hx : Idle w disk x) (hf : ∀ a, Idle w disk (f a)) :
    Idle w disk (x >>= f) := by
  intro s hdisk hworking
  have hfirst := hx s hdisk hworking
  rw [exec_bind]
  rcases hrun : exec x s with ⟨_ | a, t⟩
  · rwa [hrun] at hfirst
  · rw [hrun] at hfirst
    exact hf a t hfirst.1 hfirst.2

/-- Nothing is made where no path can start. -/
theorem makeDirectories_stuck {path : String} {s : Session}
    (h : s.disk.entry? (Tree.startOf s.working path) ≠ some .directory) :
    (exec (makeDirectories Session.host path) s).2.disk = s.disk := by
  have hidle : Idle s.working s.disk (makeDirectories Session.host path) := by
    refine makeNested_induction (fun t hdisk hworking => ⟨hdisk, hworking⟩) (fun q x y hx hy => ?_)
      (fun x y hx hy => hx.bind fun _ => hy) _ fun q hq t hdisk hworking => ?_
    · refine Idle.bind (fun t hdisk hworking => ?_) fun kind => ?_
      · rw [exec_lift, kindAt?]
        split <;> exact ⟨hdisk, hworking⟩
      · split
        · exact hx
        · exact hy
    · have hstart := Path.startOf_of_mem_ancestry s.working hq
      rw [String.ofList_toList] at hstart
      have hfails : ∃ cause, t.disk.makeDirectory t.working q = .error cause := by
        rw [hdisk, hworking]
        cases hmade : s.disk.makeDirectory s.working q with
        | ok disk =>
          obtain ⟨target, hlocate, -⟩ := Tree.makeDirectory_eq_ok.mp hmade
          exact absurd (Tree.start_of_locate hlocate) (hstart ▸ h)
        | error cause => exact ⟨cause, rfl⟩
      obtain ⟨cause, hcause⟩ := hfails
      rw [exec_makeOneDirectory, hcause]
      dsimp only
      split
      · exact ⟨hdisk, hworking⟩
      · split <;> exact ⟨hdisk, hworking⟩
  exact (hidle s rfl rfl).1

/-- **Making a directory.** A path that ends in a name can be made into a directory exactly if there is a
directory where it starts and nothing but directories in its way; then those that were missing are
added. -/
theorem exec_makeDirectories_eq_ok {path : String} (hname : Path.IsName (Path.baseName path))
    {s t : Session} : exec (makeDirectories Session.host path) s = (.ok (), t) ↔
      s.disk.Makes s.working path ∧ t = s.withDisk (s.disk.withDirectories s.working path) := by
  have hforward : s.disk.Makes s.working path → exec (makeDirectories Session.host path) s =
      (.ok (), s.withDisk (s.disk.withDirectories s.working path)) := fun h => by
    have hmade := exec_makeNested_of_makes (Nat.lt_succ_self path.toList.length)
      (by rwa [String.ofList_toList])
    rwa [String.ofList_toList] at hmade
  constructor
  · intro h
    suffices hmakes : s.disk.Makes s.working path by
      rw [hforward hmakes, Prod.mk.injEq] at h
      exact ⟨hmakes, h.2.symm⟩
    obtain ⟨hnul, hthere⟩ := makeDirectories_result hname h
    obtain ⟨hne, hshort, hfits, hplaces⟩ := Tree.leads_iff.mp (Session.kind?_eq_directory.mp hthere)
    have hgrows := makeDirectories_grows path s
    have hextends : Session.Extends (fun _ => False) s t := (confined_makeDirectories path).extends rfl h
    rw [hextends.working] at hplaces
    rw [h] at hgrows
    refine ⟨hne, hnul, hshort, hfits, ?_, fun p hp => ?_⟩
    · by_contra hstart
      have hsame := makeDirectories_stuck hstart
      rw [h] at hsame
      dsimp only at hsame
      rw [hsame] at hplaces
      exact hstart (hplaces _ (Path.start_mem_placesFrom _ _))
    · rcases hgrows.entries p with hsame | ⟨-, hnone, -⟩
      · exact .inr (hsame.symm.trans (hplaces p hp))
      · exact .inl hnone
  · rintro ⟨hmakes, rfl⟩
    exact hforward hmakes

/-! ## A directory in one that is there -/

/-- The directory is there. -/
structure Usable (folder : String) (s : Session) : Prop where
  isName : Path.IsName (Path.baseName folder)
  noNul : Path.hasNul folder = false
  isDirectory : s.kind? folder = some .directory

theorem Usable.extends {allowed : Place → Prop} {folder : String} {s t : Session}
    (h : Usable folder s) (hst : Session.Extends allowed s t) : Usable folder t :=
  ⟨h.isName, h.noNul, hst.kind?_eq_directory h.isDirectory⟩

theorem Usable.directory {folder : String} {s : Session} (h : Usable folder s) :
    s.disk.entry? (Path.resolve s.working folder) = some .directory ∧
      s.disk.entry? (Path.resolve s.working folder).dropLast = some .directory := by
  obtain ⟨target, hlocate, hdirectory⟩ := Session.kind?_eq_directory.mp h.isDirectory
  obtain ⟨-, -, habove⟩ := Tree.directory_of_locate h.isName hlocate
  rw [← Tree.locate_place hlocate]
  exact ⟨hdirectory, habove⟩

theorem dropSlashes_of_last {s : List Char} (hne : s ≠ []) (hlast : s.getLast? ≠ some '/') :
    Path.dropSlashes (s ++ ['/']) = s := by
  obtain ⟨front, c, rfl⟩ := List.eq_nil_or_concat' s |>.resolve_left hne
  have hc : c ≠ '/' := by simpa using hlast
  simp [Path.dropSlashes, hc]

/-- In front of a name is the path that it was joined to. -/
theorem parentAndStep_join {folder name : String} (hfolder : Path.IsName (Path.baseName folder))
    (hname : Path.IsName name) :
    Path.parentAndStep (Path.join folder name).toList = (folder.toList, name.toList) := by
  have hne : folder ≠ "" := Path.ne_empty_of_baseName hfolder
  have hlast := Path.getLast_ne_slash hfolder
  have htop : name.toList.head? ≠ some '/' := fun he => hname.noSlash (List.mem_of_head? he)
  have hjoin : (Path.join folder name).toList = (folder.toList ++ ['/']) ++ name.toList := by
    simp [Path.join, htop, hne, hlast]
  rw [Path.parentAndStep, hjoin, Path.cutLast_append (.inr ⟨folder.toList, rfl⟩) hname.noSlash]
  have hdrop := dropSlashes_of_last (mt String.toList_eq_nil_iff.mp hne) hlast
  simp [hname.nonempty, hdrop]

theorem ancestry_join {folder name : String} (hfolder : Path.IsName (Path.baseName folder))
    (hname : Path.IsName name) :
    ∃ above, Path.ancestry (Path.join folder name) = Path.join folder name :: folder :: above := by
  have hne : folder ≠ "" := Path.ne_empty_of_baseName hfolder
  -- there is fuel for the folder
  obtain ⟨fuel, hfuel⟩ : ∃ fuel, (Path.join folder name).length = fuel + 1 := by
    refine Nat.exists_eq_succ_of_ne_zero fun hzero => ?_
    have hlast : Path.IsName (Path.baseName (Path.join folder name)) := by rwa [hname.baseName_join]
    exact Path.ne_empty_of_baseName hlast (by simpa using hzero)
  rw [Path.ancestry, hfuel, Path.ancestryFrom, parentAndStep_join hfolder hname]
  simp [Path.ancestryFrom, hne, hname.nonempty]

/-- Below a directory that is there, one name more takes one step. -/
theorem exec_makeDirectories_join {folder name : String} {s : Session} (h : Usable folder s)
    (hname : Path.IsName name) :
    exec (makeDirectories Session.host (Path.join folder name)) s =
      exec (makeOneDirectory Session.host (Path.join folder name)) s := by
  obtain ⟨above, habove⟩ := ancestry_join h.isName hname
  have hthere : kindAt? Session.host folder s = (some .directory, s) := by
    have hkind : Session.host.kind? folder s = (s.kind? folder, s) := rfl
    rw [kindAt?, h.noNul, if_neg Bool.false_ne_true, hkind, h.isDirectory]
  rw [makeDirectories, habove, makeNested, exec_bind, exec_lift, hthere]
  rfl

theorem hasNul_join {folder name : String} (hfolder : Path.hasNul folder = false)
    (hname : Path.hasNul name = false) : Path.hasNul (Path.join folder name) = false := by
  have hslash : Path.isNul '/' = false := by decide
  simp only [Path.hasNul] at hfolder hname ⊢
  unfold Path.join
  split
  · exact hname
  · split <;> simp [hfolder, hname, hslash]

/-- A name behind a directory that is there leads to its entry of this name exactly if it fits. -/
theorem Usable.locate_join {folder name : String} {s : Session} (h : Usable folder s)
    (hname : Path.IsName name) {target : Tree.Target} :
    s.disk.locate s.working (Path.join folder name) = .ok target ↔
      Tree.Fits folder name ∧ target = ⟨Path.resolve s.working folder ++ [name], false⟩ := by
  obtain ⟨place, hlocate, hdirectory⟩ := Session.kind?_eq_directory.mp h.isDirectory
  have hinside := Tree.locate_join hname hlocate hdirectory
  rw [Tree.locate_place hlocate] at hinside
  constructor
  · intro hjoin
    have hfits := Tree.fits_of_locate hname hjoin
    rw [hinside hfits, Except.ok.injEq] at hjoin
    exact ⟨hfits, hjoin.symm⟩
  · rintro ⟨hfits, rfl⟩
    exact hinside hfits

/-- A directory inside one that is there can be made if its name fits and no file has that name;
otherwise the fault is reported and nothing is done. -/
theorem exec_makeOneDirectory_join {folder name : String} {s : Session} (h : Usable folder s)
    (hname : Path.IsName name) (hnul : Path.hasNul name = false)
    (hfile : ∀ content, s.disk.entry? (Path.resolve s.working folder ++ [name]) ≠
      some (.file content)) :
    (Tree.Fits folder name ∧
      ∃ t, exec (makeOneDirectory Session.host (Path.join folder name)) s = (.ok (), t)) ∨
    (¬Tree.Fits folder name ∧ ∃ cause,
      exec (makeOneDirectory Session.host (Path.join folder name)) s =
        (.error (.disk cause (Path.join folder name)), s)) := by
  rw [exec_makeOneDirectory, hasNul_join h.noNul hnul, if_neg Bool.false_ne_true]
  by_cases hfits : Tree.Fits folder name
  · refine .inl ⟨hfits, ?_⟩
    have hinside := (h.locate_join hname).mpr ⟨hfits, rfl⟩
    cases hmade : s.disk.makeDirectory s.working (Path.join folder name) with
    | ok disk => exact ⟨_, rfl⟩
    | error cause =>
      -- something is there already, and it is not a file
      have hthere : s.kind? (Path.join folder name) = some .directory := by
        refine Session.kind?_eq_directory.mpr ⟨_, hinside, ?_⟩
        rcases hentry : s.disk.entry? (Path.resolve s.working folder ++ [name]) with _ | ⟨_ | content⟩
        · rw [Tree.makeDirectory_eq_ok.mpr ⟨_, hinside, hentry, rfl⟩] at hmade
          cases hmade
        · rfl
        · exact absurd hentry (hfile content)
      exact ⟨s, if_pos hthere⟩
  · refine .inr ⟨hfits, ?_⟩
    have hnowhere : ∀ target, s.disk.locate s.working (Path.join folder name) ≠ .ok target :=
      fun target hlocate => hfits ((h.locate_join hname).mp hlocate).1
    cases hmade : s.disk.makeDirectory s.working (Path.join folder name) with
    | ok disk =>
      obtain ⟨target, hlocate, -⟩ := Tree.makeDirectory_eq_ok.mp hmade
      exact absurd hlocate (hnowhere target)
    | error cause =>
      have hkind : s.kind? (Path.join folder name) ≠ some .directory := fun hkind => by
        obtain ⟨target, hlocate, -⟩ := Session.kind?_eq_directory.mp hkind
        exact hnowhere target hlocate
      exact ⟨cause, if_neg hkind⟩

end Storyboard
