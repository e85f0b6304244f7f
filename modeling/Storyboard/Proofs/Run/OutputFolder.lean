import Storyboard.Proofs.Number.Characters
import Storyboard.Proofs.Run.Directories
import Storyboard.Proofs.Run.GeneratedFiles
/-!
# The output folder

The output folder is named for the time, so its path ends in a name wherever it is made. Once it is made
it is there; on the way to it only directories are added. The document is copied into it under its own
name, but a file is never copied over itself, and a copy that fails ends nothing.

* `isName_outputFolder`: the path of the folder ends in a name.
* `CanMakeFolder`, `exec_makeFolder_eq_ok`: when the folder is made, said of the disk.
* `makeFolder_usable`, `makeFolder_grows`: the folder is there, and what else was added.
* `exec_copyInto`, `exec_copyReported`: copying as a function of the session.
* `copyInto_extends`: where a copy may be written.
-/
namespace Storyboard

open Storyboard.Disk
open Storyboard.Swift (ViewFile)

/-! ## Its name -/

theorem slash_not_mem_toString (n : Nat) : '/' ∉ (toString n).toList := by
  intro h
  exact absurd (Number.isWritten_toString_nat n '/' h) (by decide)

theorem slash_not_mem_twoDigits (n : Nat) : '/' ∉ (twoDigits n).toList := by
  have hdigits := slash_not_mem_toString n
  unfold twoDigits
  split
  · rw [String.toList_append]
    simpa using hdigits
  · exact hdigits

theorem Timestamp.toList_text (t : Timestamp) : t.text.toList =
    (toString t.year).toList ++ '-' :: (twoDigits t.month).toList ++ '-' :: (twoDigits t.day).toList ++
      '_' :: (twoDigits t.hour).toList ++ '-' :: (twoDigits t.minute).toList ++
      '-' :: (twoDigits t.second).toList := by
  have hthree : ∀ a b c : String, "-".intercalate [a, b, c] = a ++ "-" ++ b ++ "-" ++ c :=
    fun _ _ _ => rfl
  rw [Timestamp.text, hthree, hthree]
  simp [String.toList_append]

theorem Timestamp.slash_not_mem_text (t : Timestamp) : '/' ∉ t.text.toList := by
  have hyear := slash_not_mem_toString t.year
  rw [t.toList_text]
  generalize (toString t.year).toList = year at *
  simp [hyear, slash_not_mem_twoDigits]

section
variable {settings : Settings} {root : Option String} {s t : Session} {folder : String}

/-- The path of an output folder ends in a name. -/
theorem isName_outputFolder (settings : Settings) (root : Option String) (s : Session) :
    Path.IsName (Path.baseName (outputFolder settings root s)) := by
  have hcut := Path.cutLast_behind settings.folderStem.toList s.time.slash_not_mem_text
  obtain ⟨directory, step, hdirectory, hstep, hstem⟩ := Path.exists_cut settings.folderStem.toList
  have hlast : (Path.baseName (outputFolder settings root s)).toList = step ++ s.time.text.toList := by
    rw [Path.toList_baseName, outputFolder, Path.cutLast_join, String.toList_append, hcut, hstem,
      Path.cutLast_append hdirectory hstep]
  refine Path.isName_of_length ?_ ?_
  · rw [hlast, s.time.toList_text]
    simp only [List.length_append, List.length_cons]
    omega
  · rw [hlast]
    simp [hstep, s.time.slash_not_mem_text]

/-! ## Making it -/

/-- Where the output folder is. -/
def folderPlace (settings : Settings) (root : Option String) (s : Session) : Place :=
  Path.resolve s.working (outputFolder settings root s)

/-- The output folder can be made: there is a directory to put it into, and its path can be made. -/
def CanMakeFolder (settings : Settings) (root : Option String) (s : Session) : Prop :=
  s.HasRoot root ∧ s.disk.Makes s.working (outputFolder settings root s)

instance (settings : Settings) (root : Option String) (s : Session) :
    Decidable (CanMakeFolder settings root s) :=
  inferInstanceAs (Decidable (_ ∧ _))

/-- The disk with the output folder made. -/
def folderDisk (settings : Settings) (root : Option String) (s : Session) : Tree :=
  s.disk.withDirectories s.working (outputFolder settings root s)

/-- **The output folder** is made exactly if it can be, and what was missing on the way to it with it. -/
theorem exec_makeFolder_eq_ok : exec (makeFolder Session.host settings root) s = (.ok folder, t) ↔
    CanMakeFolder settings root s ∧ folder = outputFolder settings root s ∧
      t = s.withDisk (folderDisk settings root s) := by
  rw [exec_makeFolder, CanMakeFolder]
  split
  · rename_i hroot
    rw [exec_bind_eq_ok]
    constructor
    · rintro ⟨_, u, hmade, h⟩
      obtain ⟨hmakes, rfl⟩ :=
        (exec_makeDirectories_eq_ok (isName_outputFolder settings root s)).mp hmade
      rw [exec_pure, Prod.mk.injEq, Except.ok.injEq] at h
      exact ⟨⟨hroot, hmakes⟩, h.1.symm, h.2.symm⟩
    · rintro ⟨⟨-, hmakes⟩, rfl, rfl⟩
      exact ⟨(), _, (exec_makeDirectories_eq_ok (isName_outputFolder settings root s)).mpr
        ⟨hmakes, rfl⟩, rfl⟩
  · rename_i hroot
    exact iff_of_false (by simp) fun h => hroot h.1.1

/-- An output folder that can be made is there once it is made. -/
theorem CanMakeFolder.usable (h : CanMakeFolder settings root s) :
    Usable (outputFolder settings root s) (s.withDisk (folderDisk settings root s)) :=
  ⟨isName_outputFolder settings root s, h.2.noNul, Session.kind?_eq_directory.mpr h.2.leads⟩

/-- An output folder that was made is there. -/
theorem makeFolder_usable (h : exec (makeFolder Session.host settings root) s = (.ok folder, t)) :
    Usable (outputFolder settings root s) t := by
  obtain ⟨hcan, -, rfl⟩ := exec_makeFolder_eq_ok.mp h
  exact hcan.usable

/-- Reports do not matter to an output folder. -/
theorem canMakeFolder_quiet (settings : Settings) (root : Option String) (h : s.Quiet t) :
    (CanMakeFolder settings root t ↔ CanMakeFolder settings root s) ∧
      folderDisk settings root t = folderDisk settings root s := by
  obtain ⟨hfolder, hworking⟩ := outputFolder_quiet settings root h
  have hroot := Session.hasRoot_quiet root h
  rw [CanMakeFolder, CanMakeFolder, folderDisk, folderDisk, hfolder, hworking, h.disk_eq, hroot]
  exact ⟨Iff.rfl, rfl⟩

/-- Whether or not the output folder can be made, only directories on the way to it are added. -/
theorem makeFolder_grows (settings : Settings) (root : Option String) (s : Session) :
    s.disk.Grows (OnTheWay s.working (outputFolder settings root s))
      (exec (makeFolder Session.host settings root) s).2.disk := by
  rw [exec_makeFolder]
  split
  · have hgrows := makeDirectories_grows (outputFolder settings root s) s
    rw [exec_bind]
    rcases hrun : exec (makeDirectories Session.host (outputFolder settings root s)) s with ⟨_ | _, t⟩ <;>
      rwa [hrun] at hgrows
  · exact .refl _ _

theorem makeFolder_working {e : Except RunFailure String}
    (h : exec (makeFolder Session.host settings root) s = (e, t)) : t.working = s.working := by
  have hextends : Session.Extends (fun _ => False) s t :=
    (confined_makeFolder settings root).extends rfl h
  exact hextends.working

end

/-! ## Copies -/

theorem host_write (path : String) (content : List UInt8) (s : Session) :
    Session.host.write path content s =
      ((s.disk.write s.working path content).1,
        s.withDisk (s.disk.write s.working path content).2) := by
  change Session.write path content s = _
  unfold Session.write
  generalize s.disk.write s.working path content = written
  rfl

/-- The path of the copy of a file. -/
def copyPath (path folder : String) : String := Path.join folder (Path.baseName path)

/-- What is answered when the copy was written or could not be written. -/
def copyAnswer (copy : String) : Except Disk.Fault Unit → Except String String
  | .ok _ => .ok copy
  | .error cause => .error (diskText cause copy)

section
variable {path folder : String} {s : Session}

theorem exec_copyInto (path folder : String) (s : Session) :
    exec (copyInto Session.host path folder) s =
      if Path.hasNul path then (.error .nulInPath, s)
      else if s.sameFile path (copyPath path folder) then
        (.ok (.error (Text.quoted path ++ " and " ++ Text.quoted (copyPath path folder) ++
          " are the same file")), s)
      else match s.disk.read s.working path with
        | .error cause => (.ok (.error (diskText cause path)), s)
        | .ok bytes =>
          (.ok (copyAnswer (copyPath path folder)
            (s.disk.write s.working (copyPath path folder) bytes).1),
            s.withDisk (s.disk.write s.working (copyPath path folder) bytes).2) := by
  have hsame : Session.host.sameFile path (copyPath path folder) s =
    (s.sameFile path (copyPath path folder), s) := rfl
  have hread : Session.host.read path s = (s.disk.read s.working path, s) := rfl
  unfold copyInto
  split
  · rfl
  · change exec (liftM (Session.host.sameFile path (copyPath path folder)) >>= _) s = _
    rw [exec_bind, exec_lift, hsame]
    dsimp only
    split
    · rfl
    · rw [exec_bind, exec_lift, hread]
      dsimp only
      cases s.disk.read s.working path with
      | error cause => rfl
      | ok bytes =>
        change exec (liftM (Session.host.write (copyPath path folder) bytes) >>= _) s = _
        rw [exec_bind, exec_lift, host_write]
        dsimp only
        generalize s.disk.write s.working (copyPath path folder) bytes = written
        obtain ⟨_ | _, disk⟩ := written <;> rfl

/-- All that copying can do: nothing, or a write to the path of the copy, which may fail. -/
theorem copyInto_cases (hnul : Path.hasNul path = false) {folder : String} {s : Session} :
    (∃ reason, exec (copyInto Session.host path folder) s = (.ok (.error reason), s)) ∨
    ∃ bytes, s.disk.read s.working path = .ok bytes ∧
      s.sameFile path (copyPath path folder) = false ∧
      exec (copyInto Session.host path folder) s =
        (.ok (copyAnswer (copyPath path folder)
          (s.disk.write s.working (copyPath path folder) bytes).1),
          s.withDisk (s.disk.write s.working (copyPath path folder) bytes).2) := by
  rw [exec_copyInto, hnul, if_neg Bool.false_ne_true]
  by_cases hsame : s.sameFile path (copyPath path folder) = true
  · exact .inl ⟨_, if_pos hsame⟩
  · rw [if_neg hsame]
    cases hread : s.disk.read s.working path with
    | error cause => exact .inl ⟨_, rfl⟩
    | ok bytes => exact .inr ⟨bytes, rfl, by simpa using hsame, rfl⟩

/-- The place of the copy, unless that is the place of the file itself. -/
def TakesCopy (path folder : String) (s : Session) (p : Place) : Prop :=
  p = Path.resolve s.working (copyPath path folder) ∧
    ∀ content, s.disk.find s.working path ≠ .ok (p, .file content)

/-- A copy is written at its place only. -/
theorem copyInto_extends (path folder : String) (s : Session) :
    Session.Extends (TakesCopy path folder s) s
      (exec (copyInto Session.host path folder) s).2 := by
  cases hnul : Path.hasNul path with
  | true =>
    rw [exec_copyInto, if_pos hnul]
    exact .refl _ s
  | false =>
  rcases copyInto_cases hnul with ⟨reason, h⟩ | ⟨bytes, hread, hsame, h⟩
  · rw [h]
    exact .refl _ s
  · rw [h]
    refine ⟨Session.working_withDisk _ _, ?_⟩
    rw [Session.disk_withDisk]
    rcases s.disk.write_cases s.working (copyPath path folder) bytes with
      ⟨-, fault, hwrite⟩ | ⟨⟨hlocate, -⟩, -⟩
    · rw [hwrite]
      exact .refl _ _
    · -- a file at this place that the path leads to would be the same file
      have hother : ∀ content, s.disk.find s.working path ≠
          .ok (Path.resolve s.working (copyPath path folder), .file content) := fun content hfind => by
        have hcopy : s.disk.find s.working (copyPath path folder) =
            .ok (Path.resolve s.working (copyPath path folder), .file content) :=
          Tree.find_eq_file.mpr ⟨hlocate, (Tree.find_eq_file.mp hfind).2⟩
        rw [Session.sameFile, hfind, hcopy] at hsame
        simp at hsame
      exact (s.disk.write_extends s.working (copyPath path folder) bytes).weaken fun p hp =>
        ⟨hp, hp ▸ hother⟩

/-! ## Reports of copies -/

/-- The disk behind a copy, if one is asked for: a file that can be read is written to the path of the
copy, unless that leads to the file itself. -/
def Session.diskCopied (copyInput : Bool) (path folder : String) (s : Session) : Tree :=
  if copyInput = true ∧ s.sameFile path (copyPath path folder) = false then
    match s.disk.read s.working path with
    | .ok bytes => (s.disk.write s.working (copyPath path folder) bytes).2
    | .error _ => s.disk
  else s.disk

/-- A path without a NUL can be copied or not, and nothing but the disk changes. -/
theorem exec_copyInto_of_noNul (hnul : Path.hasNul path = false) (folder : String) (s : Session) :
    ∃ answer, exec (copyInto Session.host path folder) s =
      (.ok answer, s.withDisk (s.diskCopied true path folder)) := by
  rw [exec_copyInto, hnul, if_neg Bool.false_ne_true, Session.diskCopied]
  by_cases hsame : s.sameFile path (copyPath path folder) = true
  · rw [if_pos hsame, if_neg (by simp [hsame])]
    exact ⟨_, rfl⟩
  · rw [if_neg hsame, if_pos ⟨rfl, by simpa using hsame⟩]
    cases s.disk.read s.working path with
    | error cause => exact ⟨_, rfl⟩
    | ok bytes => exact ⟨_, rfl⟩

/-- A copy that fails ends nothing. -/
theorem exec_copyReported (level : Severity) {copyInput : Bool}
    (hnul : copyInput = true → Path.hasNul path = false) (folder : String) (s : Session) :
    ∃ t, exec (copyReported level copyInput path folder) s = (.ok (), t) ∧
      t.working = s.working ∧ t.disk = s.diskCopied copyInput path folder := by
  cases copyInput with
  | false => exact ⟨s, rfl, rfl, rfl⟩
  | true =>
    obtain ⟨answer, hrun⟩ := exec_copyInto_of_noNul (hnul rfl) folder s
    rw [copyReported, if_pos rfl, exec_bind, hrun]
    cases answer with
    | ok copy =>
      exact ⟨_, exec_report level (.copied copy) _, Session.working_reported _ _ _,
        Session.disk_reported _ _ _⟩
    | error reason =>
      exact ⟨_, exec_report level (.copyFailed reason) _, Session.working_reported _ _ _,
        Session.disk_reported _ _ _⟩

theorem copyReported_extends (level : Severity) (copyInput : Bool) (path folder : String)
    (s : Session) :
    Session.Extends (fun p => copyInput = true ∧ TakesCopy path folder s p) s
      (exec (copyReported level copyInput path folder) s).2 := by
  cases copyInput with
  | false => exact .refl _ s
  | true =>
    have hcopy : Session.Extends (fun p => true = true ∧ TakesCopy path folder s p) s
        (exec (copyInto Session.host path folder) s).2 :=
      (copyInto_extends path folder s).weaken fun p hp => ⟨rfl, hp⟩
    rw [copyReported, if_pos rfl, exec_bind]
    rcases hrun : exec (copyInto Session.host path folder) s with ⟨_ | answer, t⟩
    · rw [hrun] at hcopy
      exact hcopy
    · rw [hrun] at hcopy
      refine hcopy.trans ?_
      cases answer with
      | ok copy => exact confined_report level _ t rfl
      | error reason => exact confined_report level _ t rfl

end

/-! ## Filling it -/

section
variable (level : Severity) (settings : Settings) (path : String) (root : Option String)
  (copyInput : Bool) (files : List ViewFile)

/-- The steps of a run behind the making of its folder: the copy, and the generated files. -/
def fillFolder (folder : String) : Run (StateM Session) Nat := do
  copyReported level copyInput path folder
  let written ← files.mapM
    (writeFile Session.host level (Path.join folder settings.generatedDirectory))
  return if written.all id then 0 else 2

/-- A run makes its folder and fills it. -/
theorem exec_writeAll (s : Session) :
    exec (writeAll Session.host level settings path root copyInput files) s =
      match exec (makeFolder Session.host settings root) s with
      | (.ok _, t) =>
        exec (fillFolder level settings path copyInput files (outputFolder settings root s)) t
      | (.error e, t) => (.error e, t) := by
  rw [writeAll_eq, exec_bind]
  rcases hfolder : exec (makeFolder Session.host settings root) s with ⟨_ | folder, t⟩
  · rfl
  · rw [makeFolder_result hfolder]
    rfl

/-- Where a folder is filled: at the place of the copy, and at the places of the generated files. -/
def Fills (folder : String) (s : Session) (p : Place) : Prop :=
  (copyInput = true ∧ TakesCopy path folder s p) ∨
    ∃ f ∈ files, p = Path.resolve s.working
      (Path.join (Path.join folder settings.generatedDirectory) f.fileName)

theorem fillFolder_extends (folder : String) (s : Session) :
    Session.Extends (Fills settings path copyInput files folder s) s
      (exec (fillFolder level settings path copyInput files folder) s).2 := by
  have hcopy : Session.Extends (Fills settings path copyInput files folder s) s
      (exec (copyReported level copyInput path folder) s).2 :=
    (copyReported_extends level copyInput path folder s).weaken fun p hp => .inl hp
  rw [fillFolder, exec_bind]
  rcases hrun : exec (copyReported level copyInput path folder) s with ⟨_ | _, t⟩
  · rw [hrun] at hcopy
    exact hcopy
  · rw [hrun] at hcopy
    refine hcopy.trans (Confined.bind (confined_mapM fun f hf => ?_) (fun _ => confined_pure _) t
      hcopy.working)
    exact confined_writeFile level _ f (.inr ⟨f, hf, rfl⟩)

end

end Storyboard
