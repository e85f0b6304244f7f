import Storyboard.Proofs.Run.FailedWrites
/-!
# Files that are stored one after the other

In a folder that was there before, or when names lead out of it, a file can get into the way of a later
one. Then it is settled only file by file which ones can be written: each finds the disk as those before
it have left it.

* `stored?`: the disk behind a file that can be put into a directory.
* `exec_putFile_eq_ok`: a run agrees.
* `exec_writeFiles_stored`: all files are written exactly if each of them can be stored behind those
  before it.
* `filled?`, `exec_fillFolder_stored`: a folder, with the copy of the document.
-/
namespace Storyboard

open Storyboard.Disk
open Storyboard.Swift (ViewFile)

/-- The disk with a file put to its path, seen from a directory that is made if it is missing; none if
the directory cannot be made or the file cannot be written there. -/
def stored? (w : Place) (directory : String) (t : Tree) (f : ViewFile) : Option Tree :=
  let path := Path.join directory f.fileName
  if t.Makes w directory ∧ (t.withDirectories w directory).Opens w path ∧
      ¬t.faulty.contains (Path.resolve w path) then
    some ((t.withDirectories w directory).put (Path.resolve w path) (.file (Text.utf8 f.text)))
  else none

/-- A file that was stored is there. -/
theorem entry_of_stored? {w : Place} {directory : String} {t u : Tree} {f : ViewFile}
    (h : stored? w directory t f = some u) :
    u.entry? (Path.resolve w (Path.join directory f.fileName)) = some (.file (Text.utf8 f.text)) := by
  rw [stored?] at h
  split at h
  · rename_i hstores
    rw [← Option.some.inj h, Tree.put_entry _ (Tree.ne_nil_of_entry hstores.2.1.2), if_pos rfl]
  · cases h

section
variable {folder name directory : String} {f : ViewFile} {s t : Session}

/-- A file is put into a directory exactly if it can be stored there. -/
theorem exec_putFile_eq_ok (hname : Path.IsName (Path.baseName directory)) :
    exec (putFile Session.host directory (Path.join directory f.fileName) (Text.utf8 f.text)) s =
        (.ok (), t) ↔
      ∃ disk, stored? s.working directory s.disk f = some disk ∧ t = s.withDisk disk := by
  by_cases hmakes : s.disk.Makes s.working directory
  · have hmade := (exec_makeDirectories_eq_ok hname).mpr ⟨hmakes, rfl⟩
    rcases exec_putFile_made_cases (Path.join directory f.fileName) (Text.utf8 f.text) hmade with
      ⟨hclosed, cause, hrun⟩ | ⟨hopen, hfaulty, hrun⟩ | ⟨hopen, hsound, hrun⟩
    · rw [hrun, stored?, if_neg fun h => hclosed h.2.1]
      simp
    · rw [hrun, stored?, if_neg fun h => h.2.2 (by simpa using hfaulty)]
      simp
    · rw [hrun, stored?, if_pos ⟨hmakes, hopen, by simpa using hsound⟩]
      simp [eq_comm]
  · rw [stored?, if_neg fun h => hmakes h.1]
    refine iff_of_false (fun h => ?_) (by simp)
    obtain ⟨_, u, hmade, -⟩ := exec_bind_eq_ok.mp h
    exact hmakes ((exec_makeDirectories_eq_ok hname).mp hmade).1

/-- A file that cannot be put into a folder that is there meets a fault of the disk. -/
theorem putFile_failure (h : Usable folder s) (hname : Path.IsName name)
    (hnul : Path.hasNul name = false) {path : String} {content : List UInt8} {e : RunFailure}
    {t : Session}
    (hrun : exec (putFile Session.host (Path.join folder name) path content) s = (.error e, t)) :
    ∃ cause place, e = .disk cause place := by
  have hmake := exec_makeDirectories_join h hname
  rw [exec_makeOneDirectory, hasNul_join h.noNul hnul, if_neg Bool.false_ne_true] at hmake
  rcases hmade : exec (makeDirectories Session.host (Path.join folder name)) s with ⟨failure | _, u⟩
  · rw [exec_putFile_failed hmade, Prod.mk.injEq, Except.error.injEq] at hrun
    rw [hmade] at hmake
    split at hmake
    · cases hmake
    · split at hmake
      · cases hmake
      · rw [Prod.mk.injEq, Except.error.injEq] at hmake
        exact ⟨_, _, hrun.1.symm.trans hmake.1⟩
  · rw [exec_putFile_made hmade] at hrun
    cases hwritten : (u.disk.write u.working path content).1 with
    | ok _ =>
      rw [hwritten] at hrun
      cases hrun
    | error cause =>
      rw [hwritten, Prod.mk.injEq, Except.error.injEq] at hrun
      exact ⟨_, _, hrun.1.symm⟩

/-- A file that is written is stored, and one that is not does not end the run. -/
theorem exec_writeFile_stored (level : Severity) (h : Usable folder s) (hname : Path.IsName name)
    (hnul : Path.hasNul name = false) (f : ViewFile) :
    ∃ b t, exec (writeFile Session.host level (Path.join folder name) f) s = (.ok b, t) ∧
      ∀ disk, stored? s.working (Path.join folder name) s.disk f = some disk ↔
        b = true ∧ t.disk = disk := by
  have hdirectory : Path.IsName (Path.baseName (Path.join folder name)) := by rwa [hname.baseName_join]
  have hstored := @exec_putFile_eq_ok (Path.join folder name) f s
  rw [exec_writeFile]
  rcases hrun : exec (putFile Session.host (Path.join folder name)
      (Path.join (Path.join folder name) f.fileName) (Text.utf8 f.text)) s with ⟨e | _, t⟩
  · obtain ⟨cause, place, rfl⟩ := putFile_failure h hname hnul hrun
    refine ⟨false, _, rfl, fun disk => iff_of_false (fun hdisk => ?_) (by simp)⟩
    have hput := (hstored hdirectory).mpr ⟨disk, hdisk, rfl⟩
    rw [hrun] at hput
    cases hput
  · obtain ⟨disk, hdisk, rfl⟩ := (hstored hdirectory).mp hrun
    refine ⟨true, _, rfl, fun other => ?_⟩
    rw [hdisk, Session.disk_reported]
    simp

/-- **All files.** They are written one after the other, and all of them are written exactly if each can
be stored behind those before it. -/
theorem exec_writeFiles_stored (level : Severity) (h : Usable folder s) (hname : Path.IsName name)
    (hnul : Path.hasNul name = false) (files : List ViewFile) :
    ∃ written t, exec (files.mapM (writeFile Session.host level (Path.join folder name))) s =
        (.ok written, t) ∧
      ∀ disk, files.foldlM (stored? s.working (Path.join folder name)) s.disk = some disk ↔
        written.all id = true ∧ t.disk = disk := by
  induction files generalizing s with
  | nil => exact ⟨[], s, rfl, fun disk => by simp⟩
  | cons f rest ih =>
    obtain ⟨b, t, hfirst, hb⟩ := exec_writeFile_stored level h hname hnul f
    have hextends : Session.Extends (fun _ => True) s t :=
      (confined_writeFile level _ f trivial).extends rfl hfirst
    obtain ⟨written, u, hothers, hall⟩ := ih (h.extends hextends)
    refine ⟨b :: written, u, ?_, fun disk => ?_⟩
    · rw [List.mapM_cons, exec_bind, hfirst]
      dsimp only
      rw [exec_bind, hothers]
      rfl
    · rw [hextends.working] at hall
      rw [List.foldlM_cons, Option.bind_eq_bind, Option.bind_eq_some_iff, List.all_cons,
        Bool.and_eq_true, and_assoc, ← hall]
      constructor
      · rintro ⟨between, hf, hrest⟩
        obtain ⟨rfl, rfl⟩ := (hb between).mp hf
        exact ⟨rfl, hrest⟩
      · rintro ⟨hb', hrest⟩
        exact ⟨t.disk, (hb t.disk).mpr ⟨hb', rfl⟩, hrest⟩

end

/-! ## A folder -/

section
variable {settings : Settings} {path folder : String} {copyInput : Bool} {files : List ViewFile}
  {s : Session}

/-- The disk with a folder that all files were put into, behind a copy; none if one of them cannot be
stored. -/
def filled? (settings : Settings) (path : String) (copyInput : Bool) (files : List ViewFile)
    (folder : String) (s : Session) : Option Tree :=
  files.foldlM (stored? s.working (Path.join folder settings.generatedDirectory))
    (s.diskCopied copyInput path folder)

/-- **Filling a folder** that is there answers zero exactly if all files can be stored in it, and two
otherwise. -/
theorem exec_fillFolder_stored (level : Severity) (h : Usable folder s)
    (hname : Path.IsName settings.generatedDirectory)
    (hnul : Path.hasNul settings.generatedDirectory = false)
    (hcopy : copyInput = true → Path.hasNul path = false) :
    ∃ code t, exec (fillFolder level settings path copyInput files folder) s = (.ok code, t) ∧
      (code = 0 ∨ code = 2) ∧
      ∀ disk, filled? settings path copyInput files folder s = some disk ↔ code = 0 ∧ t.disk = disk := by
  obtain ⟨t, hcopied, hworking, hdisk⟩ := exec_copyReported level hcopy folder s
  have hextends := copyReported_extends level copyInput path folder s
  rw [hcopied] at hextends
  obtain ⟨written, u, hwritten, hall⟩ :=
    exec_writeFiles_stored level (h.extends hextends) hname hnul files
  rw [hworking, hdisk] at hall
  refine ⟨if written.all id then 0 else 2, u, ?_, ?_, fun disk => ?_⟩
  · rw [fillFolder, exec_bind, hcopied]
    dsimp only
    rw [exec_bind, hwritten]
    rfl
  · split
    · exact .inl rfl
    · exact .inr rfl
  · rw [filled?, hall]
    by_cases hfine : written.all id = true <;> simp [hfine]

/-- A path with a NUL cannot be copied. -/
theorem exec_fillFolder_nul (level : Severity) (hnul : Path.hasNul path = true) :
    (exec (fillFolder level settings path true files folder) s).1 = .error .nulInPath := by
  rw [fillFolder, exec_bind, copyReported, if_pos rfl, exec_bind, exec_copyInto, if_pos hnul]

end

end Storyboard
