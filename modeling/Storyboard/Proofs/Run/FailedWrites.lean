import Storyboard.Proofs.Conversion.Totality
import Storyboard.Proofs.Markup.Readable.Document
import Storyboard.Proofs.Run.OutputFolder
/-!
# Writes that fail

Whether a generated file can be written into a new folder is settled before any of them is: it depends on
the lengths of its path, on faults of the disk, and on what is at its place, and no other file changes that.
So a file that cannot be written takes nothing from the others, and the exit code tells whether there is
one.

* `Takes`: a generated file can be written.
* `Wrote`: what a disk has become when files were written or could not be.
* `exec_putFile`: one file.
* `exec_writeFile_step`, `exec_writeFiles`: one file after the other.
* `CanCopy`, `Copied`: the copy of the document.
* `Filled`, `exec_fillFolder`: a folder, with the copy and the files.
* `failed_writes_isolated`: a whole conversion into a new folder.
-/
namespace Storyboard

open Storyboard.Disk
open Storyboard.Swift (ViewFile)

theorem isName_fileName {f : ViewFile} (h : '/' ∉ f.name.toList) : Path.IsName f.fileName := by
  refine Path.isName_of_length ?_ (by simp [ViewFile.fileName, h])
  simp [ViewFile.fileName]

/-! ## Disks -/

/-- A file can be written into the named directory of a folder: the paths are not too long, and there
is neither a fault nor a directory at its place. -/
@[mk_iff takes_def]
structure Takes (folder name : String) (place : Place) (f : ViewFile) (t : Tree) : Prop where
  directoryFits : Tree.Fits folder name
  fits : Tree.Fits (Path.join folder name) f.fileName
  sound : place ++ [f.fileName] ∉ t.faulty
  free : t.entry? (place ++ [f.fileName]) ≠ some .directory

instance (folder name : String) (place : Place) (f : ViewFile) (t : Tree) :
    Decidable (Takes folder name place f t) :=
  decidable_of_iff' _ (takes_def folder name place f t)

/-- The second disk is the first one after the fine ones of some files were written into a directory,
which may have been made for them, while the others could not be. -/
structure Wrote (place : Place) (fine : ViewFile → Prop) (files : List ViewFile) (t u : Tree) :
    Prop where
  faulty : u.faulty = t.faulty
  written : ∀ f ∈ files, fine f → u.entry? (place ++ [f.fileName]) = some (.file (Text.utf8 f.text))
  partly : ∀ f ∈ files, ¬fine f → u.entry? (place ++ [f.fileName]) = t.entry? (place ++ [f.fileName]) ∨
    ∃ content, u.entry? (place ++ [f.fileName]) = some (.file content) ∧ content <+: Text.utf8 f.text
  others : ∀ p, (∀ f ∈ files, p ≠ place ++ [f.fileName]) →
    u.entry? p = t.entry? p ∨ p = place ∧ t.entry? p = none ∧ u.entry? p = some .directory

section
variable {folder name : String} {place : Place} {fine : ViewFile → Prop} {f : ViewFile}
  {files : List ViewFile} {t u v : Tree}

theorem Wrote.nil : Wrote place fine [] t t :=
  ⟨rfl, fun _ hf => absurd hf List.not_mem_nil, fun _ hf => absurd hf List.not_mem_nil,
    fun _ _ => .inl rfl⟩

/-- What is inside the directory is not the directory. -/
theorem Wrote.inside (h : Wrote place fine files t u) {g : ViewFile}
    (hg : ∀ f ∈ files, g.fileName ≠ f.fileName) :
    u.entry? (place ++ [g.fileName]) = t.entry? (place ++ [g.fileName]) := by
  refine (h.others _ fun f hf hplace => ?_).resolve_right fun ⟨hplace, _⟩ => ?_
  · exact hg f hf (by simpa using hplace)
  · simp at hplace

theorem Wrote.cons (hfirst : Wrote place fine [f] t u) (hrest : Wrote place fine files u v)
    (hnew : ∀ g ∈ files, f.fileName ≠ g.fileName) : Wrote place fine (f :: files) t v := by
  have hkept := hrest.inside hnew
  refine ⟨hrest.faulty.trans hfirst.faulty, ?_, ?_, fun p hp => ?_⟩
  · refine List.forall_mem_cons.mpr ⟨fun hfine => ?_, hrest.written⟩
    exact hkept.trans (hfirst.written f (List.mem_singleton_self f) hfine)
  · refine List.forall_mem_cons.mpr ⟨fun hfine => ?_, fun g hg hfine => ?_⟩
    · rw [hkept]
      exact hfirst.partly f (List.mem_singleton_self f) hfine
    · have hsame := hfirst.inside (List.forall_mem_singleton.mpr (hnew g hg).symm)
      rw [← hsame]
      exact hrest.partly g hg hfine
  · obtain ⟨hf, hfiles⟩ := List.forall_mem_cons.mp hp
    rcases hfirst.others p (List.forall_mem_singleton.mpr hf) with hsame | ⟨hplace, hnone, hmade⟩
    · rw [← hsame]
      exact hrest.others p hfiles
    · rcases hrest.others p hfiles with hsame | ⟨-, hmissing, -⟩
      · exact .inr ⟨hplace, hnone, hsame.trans hmade⟩
      · rw [hmade] at hmissing
        cases hmissing

theorem Wrote.congr {other : ViewFile → Prop} (h : Wrote place fine files t u)
    (hfine : ∀ f ∈ files, fine f ↔ other f) : Wrote place other files t u :=
  ⟨h.faulty, fun f hf hother => h.written f hf ((hfine f hf).mpr hother),
    fun f hf hother => h.partly f hf (mt (hfine f hf).mp hother), h.others⟩

theorem Takes.congr (hfaulty : u.faulty = t.faulty)
    (hentry : u.entry? (place ++ [f.fileName]) = t.entry? (place ++ [f.fileName])) :
    Takes folder name place f u ↔ Takes folder name place f t := by
  rw [takes_def, takes_def, hfaulty, hentry]

end

/-! ## One file -/

/-- A folder that files can be put into: it is there, and there is no file in the stead of the directory
for them. -/
structure Ready (folder name : String) (place : Place) (s : Session) : Prop where
  usable : Usable folder s
  place_eq : Path.resolve s.working (Path.join folder name) = place
  directory : ∀ content, s.disk.entry? place ≠ some (.file content)

section
variable {folder name path : String} {place : Place} {content : List UInt8} {f : ViewFile}
  {s t : Session}

theorem exec_putFile_made (h : exec (makeDirectories Session.host folder) s = (.ok (), t)) :
    exec (putFile Session.host folder path content) s =
      (match (t.disk.write t.working path content).1 with
        | .ok _ => .ok ()
        | .error cause => .error (.disk cause path),
        t.withDisk (t.disk.write t.working path content).2) := by
  rw [putFile, exec_bind, h]
  dsimp only
  rw [exec_bind, exec_lift, host_write]
  dsimp only
  generalize t.disk.write t.working path content = written
  obtain ⟨_ | _, disk⟩ := written <;> rfl

theorem exec_putFile_failed {e : RunFailure}
    (h : exec (makeDirectories Session.host folder) s = (.error e, t)) :
    exec (putFile Session.host folder path content) s = (.error e, t) := by
  rw [putFile, exec_bind, h]

/-- A directory was made for a file, which is written unless it cannot be opened or its place is
faulty. -/
theorem exec_putFile_made_cases (path : String) (content : List UInt8)
    (h : exec (makeDirectories Session.host folder) s = (.ok (), t)) :
    let target := Path.resolve t.working path
    (¬t.disk.Opens t.working path ∧ ∃ cause,
      exec (putFile Session.host folder path content) s = (.error (.disk cause path), t)) ∨
    (t.disk.Opens t.working path ∧ target ∈ t.disk.faulty ∧
      exec (putFile Session.host folder path content) s =
        (.error (.disk .inputOutput path), t.withDisk (t.disk.put target (.file [])))) ∨
    (t.disk.Opens t.working path ∧ target ∉ t.disk.faulty ∧
      exec (putFile Session.host folder path content) s =
        (.ok (), t.withDisk (t.disk.put target (.file content)))) := by
  intro target
  rw [exec_putFile_made h]
  rcases t.disk.write_cases t.working path content with
    ⟨hclosed, fault, hwrite⟩ | ⟨hopen, ⟨hfaulty, hwrite⟩ | ⟨hsound, hwrite⟩⟩
  · rw [hwrite]
    exact .inl ⟨hclosed, fault, rfl⟩
  · rw [hwrite]
    exact .inr (.inl ⟨hopen, hfaulty, rfl⟩)
  · rw [hwrite]
    exact .inr (.inr ⟨hopen, hsound, rfl⟩)

/-- A file was put at its place on a disk to which at most its directory has been added. -/
theorem wrote_put {fine : ViewFile → Prop} {t u : Tree} (hgrows : t.Grows (· = place) u)
    (hfree : u.entry? (place ++ [f.fileName]) ≠ some .directory)
    (hfine : fine f → content = Text.utf8 f.text) (hpart : ¬fine f → content <+: Text.utf8 f.text) :
    Wrote place fine [f] t (u.put (place ++ [f.fileName]) (.file content)) := by
  have hplace := Tree.ne_nil_of_entry hfree
  have hentry := Tree.put_entry u hplace (.file content) (place ++ [f.fileName])
  rw [if_pos rfl] at hentry
  refine ⟨(Tree.faulty_put u _ _).trans hgrows.faulty, ?_, ?_, fun p hp => ?_⟩
  · refine List.forall_mem_singleton.mpr fun h => ?_
    rw [hentry, hfine h]
  · exact List.forall_mem_singleton.mpr fun h => .inr ⟨content, hentry, hpart h⟩
  · rw [Tree.put_entry u hplace, if_neg (hp f (List.mem_singleton_self f))]
    exact hgrows.entries p

/-- A file could not be put anywhere on a disk to which at most its directory has been added. -/
theorem wrote_nothing {fine : ViewFile → Prop} {t u : Tree} (hgrows : t.Grows (· = place) u)
    (hfine : ¬fine f) : Wrote place fine [f] t u := by
  refine ⟨hgrows.faulty, ?_, ?_, fun p _ => hgrows.entries p⟩
  · exact List.forall_mem_singleton.mpr fun h => absurd h hfine
  · refine List.forall_mem_singleton.mpr fun _ => .inl ?_
    exact (hgrows.entries _).resolve_right fun ⟨hplace, _⟩ => by simp at hplace

/-- Once its directory is made, a file can be written if it can be opened and its place is sound. -/
theorem takes_iff (hfits : Tree.Fits folder name) (hslash : '/' ∉ f.name.toList)
    (ht : Usable (Path.join folder name) t)
    (hplace : Path.resolve t.working (Path.join folder name) = place)
    (hgrows : s.disk.Grows (· = place) t.disk) :
    Takes folder name place f s.disk ↔
      t.disk.Opens t.working (Path.join (Path.join folder name) f.fileName) ∧
        place ++ [f.fileName] ∉ t.disk.faulty := by
  have hfile := isName_fileName hslash
  have htarget : Path.resolve t.working (Path.join (Path.join folder name) f.fileName) =
      place ++ [f.fileName] := by
    rw [Path.resolve_join, hplace, hfile.resolve]
  have hsame : t.disk.entry? (place ++ [f.fileName]) = s.disk.entry? (place ++ [f.fileName]) :=
    (hgrows.entries _).resolve_right fun ⟨hplace, _⟩ => by simp at hplace
  rw [Tree.Opens, htarget, ht.locate_join hfile, hplace, hsame, hgrows.faulty]
  constructor
  · rintro ⟨-, hfits, hsound, hfree⟩
    exact ⟨⟨⟨hfits, rfl⟩, hfree⟩, hsound⟩
  · rintro ⟨⟨⟨hinner, -⟩, hfree⟩, hsound⟩
    exact ⟨hfits, hinner, hsound, hfree⟩

/-- **One file.** It is written if the disk takes it; otherwise the fault of the disk is answered, and
there is at most a beginning of the file. -/
theorem exec_putFile (h : Ready folder name place s) (hname : Path.IsName name)
    (hnul : Path.hasNul name = false) (hslash : '/' ∉ f.name.toList) :
    ∃ r t, exec (putFile Session.host (Path.join folder name)
        (Path.join (Path.join folder name) f.fileName) (Text.utf8 f.text)) s = (r, t) ∧
      (Takes folder name place f s.disk ∧ r = .ok () ∨
        ¬Takes folder name place f s.disk ∧ ∃ cause path, r = .error (.disk cause path)) ∧
      Wrote place (Takes folder name place · s.disk) [f] s.disk t.disk := by
  obtain ⟨husable, hplace, hdirectory⟩ := h
  have hinside : Path.resolve s.working folder ++ [name] = place := by
    rw [← hplace, Path.resolve_join, hname.resolve]
  have hmake := exec_makeDirectories_join husable hname
  rcases exec_makeOneDirectory_join husable hname hnul (by rwa [hinside]) with
    ⟨hfits, t, hmade⟩ | ⟨hfits, cause, hfailed⟩
  · have hextends : Session.Extends (fun _ => False) s t :=
      (confined_makeOneDirectory _).extends rfl hmade
    have hworking := hextends.working
    have hgrows : s.disk.Grows (· = place) t.disk := by
      have hgrows := makeOneDirectory_grows (Path.join folder name) s
      rwa [hmade, hplace] at hgrows
    obtain ⟨hthere, hisDirectory⟩ := makeOneDirectory_result hmade
    have hinner : Usable (Path.join folder name) t :=
      ⟨by rwa [hname.baseName_join], hthere, hisDirectory⟩
    have htakes := takes_iff hfits hslash hinner (by rwa [hworking]) hgrows
    have htarget : Path.resolve t.working (Path.join (Path.join folder name) f.fileName) =
        place ++ [f.fileName] := by
      rw [Path.resolve_join, hworking, hplace, (isName_fileName hslash).resolve]
    have hcases := exec_putFile_made_cases (Path.join (Path.join folder name) f.fileName)
      (Text.utf8 f.text) (hmake.trans hmade)
    rw [htarget] at hcases
    rcases hcases with ⟨hclosed, cause, hrun⟩ | ⟨hopen, hfaulty, hrun⟩ | ⟨hopen, hsound, hrun⟩
    · have hnot : ¬Takes folder name place f s.disk := fun h => hclosed (htakes.mp h).1
      exact ⟨_, t, hrun, .inr ⟨hnot, _, _, rfl⟩, wrote_nothing hgrows hnot⟩
    · have hnot : ¬Takes folder name place f s.disk := fun h => (htakes.mp h).2 hfaulty
      refine ⟨_, _, hrun, .inr ⟨hnot, _, _, rfl⟩, ?_⟩
      exact wrote_put hgrows (htarget ▸ hopen.2) (fun h => absurd h hnot) fun _ => List.nil_prefix
    · have hfine : Takes folder name place f s.disk := htakes.mpr ⟨hopen, hsound⟩
      refine ⟨_, _, hrun, .inl ⟨hfine, rfl⟩, ?_⟩
      exact wrote_put hgrows (htarget ▸ hopen.2) (fun _ => rfl) fun h => absurd hfine h
  · have hnot : ¬Takes folder name place f s.disk := fun h => hfits h.directoryFits
    exact ⟨_, s, exec_putFile_failed (hmake.trans hfailed), .inr ⟨hnot, _, _, rfl⟩,
      wrote_nothing (.refl _ _) hnot⟩

/-- One file and its report. -/
theorem exec_writeFile_step (level : Severity) (h : Ready folder name place s)
    (hname : Path.IsName name) (hnul : Path.hasNul name = false) (hslash : '/' ∉ f.name.toList) :
    ∃ b t, exec (writeFile Session.host level (Path.join folder name) f) s = (.ok b, t) ∧
      (b = true ↔ Takes folder name place f s.disk) ∧
      Wrote place (Takes folder name place · s.disk) [f] s.disk t.disk := by
  obtain ⟨r, t, hput, hresult, hwrote⟩ := exec_putFile h hname hnul hslash
  rw [exec_writeFile, hput]
  rcases hresult with ⟨hfine, rfl⟩ | ⟨hnot, cause, path, rfl⟩
  · refine ⟨true, _, rfl, by simpa using hfine, ?_⟩
    rwa [Session.disk_reported]
  · refine ⟨false, _, rfl, by simpa using hnot, ?_⟩
    rwa [Session.disk_reported]

/-- What one file changes leaves the folder ready. -/
theorem Ready.after {fine : ViewFile → Prop} (h : Ready folder name place s)
    (hextends : Session.Extends (fun _ => True) s t)
    (hwrote : Wrote place fine [f] s.disk t.disk) : Ready folder name place t := by
  refine ⟨h.usable.extends hextends, by rw [hextends.working, h.place_eq], fun content hcontent => ?_⟩
  rcases hwrote.others place (by simp) with hsame | ⟨-, -, hmade⟩
  · exact h.directory content (hsame.symm.trans hcontent)
  · rw [hmade] at hcontent
    cases hcontent

/-- **All files.** Each of them is written exactly if the disk took it at the start. -/
theorem exec_writeFiles (level : Severity) {files : List ViewFile}
    (h : Ready folder name place s) (hname : Path.IsName name)
    (hnul : Path.hasNul name = false) (hslash : ∀ f ∈ files, '/' ∉ f.name.toList)
    (hnodup : (files.map ViewFile.fileName).Nodup) :
    ∃ written t, exec (files.mapM (writeFile Session.host level (Path.join folder name))) s =
        (.ok written, t) ∧
      (written.all id = true ↔ ∀ f ∈ files, Takes folder name place f s.disk) ∧
      Wrote place (Takes folder name place · s.disk) files s.disk t.disk := by
  induction files generalizing s with
  | nil => exact ⟨[], s, rfl, by simp, .nil⟩
  | cons f rest ih =>
    obtain ⟨hf, hrest⟩ := List.forall_mem_cons.mp hslash
    obtain ⟨hnew, hnodup⟩ := List.nodup_cons.mp hnodup
    have hnew : ∀ g ∈ rest, f.fileName ≠ g.fileName := fun g hg heq =>
      hnew (heq ▸ List.mem_map_of_mem hg)
    obtain ⟨b, t, hrun, hb, hwrote⟩ := exec_writeFile_step level h hname hnul hf
    have hextends : Session.Extends (fun _ => True) s t :=
      (confined_writeFile level _ f trivial).extends rfl hrun
    -- the other files find the places that they need as they were
    have htakes : ∀ g ∈ rest, Takes folder name place g t.disk ↔ Takes folder name place g s.disk :=
      fun g hg => Takes.congr hwrote.faulty
        (hwrote.inside (List.forall_mem_singleton.mpr (hnew g hg).symm))
    obtain ⟨written, u, hothers, hall, hwroteRest⟩ := ih (h.after hextends hwrote) hrest hnodup
    refine ⟨b :: written, u, ?_, ?_, hwrote.cons (hwroteRest.congr htakes) hnew⟩
    · rw [List.mapM_cons, exec_bind, hrun]
      dsimp only
      rw [exec_bind, hothers]
      rfl
    · rw [List.all_cons, Bool.and_eq_true, hall, List.forall_mem_cons, id_eq, hb]
      exact and_congr_right fun _ => forall₂_congr htakes

end

/-! ## The copy -/

/-- Where the copy goes. -/
def copyPlace (path folder : String) (w : Place) : Place := Path.resolve w (copyPath path folder)

/-- A file can be copied into a folder: it can be read, the path of the copy is not too long, and there is
neither a fault nor a directory at its place. -/
@[mk_iff]
structure CanCopy (path folder : String) (w : Place) (t : Tree) : Prop where
  readable : ∃ bytes, t.read w path = .ok bytes
  fits : Tree.Fits folder (Path.baseName path)
  sound : copyPlace path folder w ∉ t.faulty
  free : t.entry? (copyPlace path folder w) ≠ some .directory

instance (t : Tree) (w : Place) (path : String) : Decidable (∃ bytes, t.read w path = .ok bytes) :=
  decidable_of_iff ((t.read w path).isOk = true) <| by
    cases t.read w path <;> simp [Except.isOk, Except.toBool]

instance (path folder : String) (w : Place) (t : Tree) : Decidable (CanCopy path folder w t) :=
  decidable_of_iff' _ (canCopy_iff path folder w t)

/-- The second disk is the first one after a copy was written to a place, or could not be. -/
structure Copied (place : Place) (source : Except Disk.Fault (List UInt8)) (asked fine : Prop)
    (t u : Tree) : Prop where
  faulty : u.faulty = t.faulty
  copied : asked → fine → ∃ bytes, source = .ok bytes ∧ u.entry? place = some (.file bytes)
  uncopied : ¬(asked ∧ fine) → u.entry? place = t.entry? place ∨
    asked ∧ ∃ bytes content, source = .ok bytes ∧ u.entry? place = some (.file content) ∧
      content <+: bytes
  others : ∀ p, p ≠ place → u.entry? p = t.entry? p

section
variable {path folder : String} {place : Place} {source : Except Disk.Fault (List UInt8)}
  {asked fine : Prop} {t u : Tree} {s : Session}

theorem copied_nothing (h : ¬(asked ∧ fine)) : Copied place source asked fine t t :=
  ⟨rfl, fun hasked hfine => absurd ⟨hasked, hfine⟩ h, fun _ => .inl rfl, fun _ _ => rfl⟩

theorem copied_put {bytes content : List UInt8} (hfree : t.entry? place ≠ some .directory)
    (hasked : asked) (hsource : source = .ok bytes) (hfine : fine → content = bytes)
    (hpart : content <+: bytes) : Copied place source asked fine t (t.put place (.file content)) := by
  have hplace := Tree.ne_nil_of_entry hfree
  have hentry := Tree.put_entry t hplace (.file content) place
  rw [if_pos rfl] at hentry
  refine ⟨Tree.faulty_put t _ _, fun _ h => ⟨bytes, hsource, hfine h ▸ hentry⟩,
    fun _ => .inr ⟨hasked, bytes, content, hsource, hentry, hpart⟩, fun p hp => ?_⟩
  rw [Tree.put_entry t hplace, if_neg hp]

/-- A copy goes into the folder, if its name is one. -/
theorem copyPlace_cases (path folder : String) (w : Place) :
    copyPlace path folder w = Path.resolve w folder ∨
    copyPlace path folder w = (Path.resolve w folder).dropLast ∨
    Path.IsName (Path.baseName path) ∧
      copyPlace path folder w = Path.resolve w folder ++ [Path.baseName path] := by
  have hslash := Path.slash_not_mem_baseName path
  rw [copyPlace, copyPath, Path.resolve_join, Path.resolve_of_not_mem hslash, Path.stepFrom]
  split
  · exact .inl rfl
  · rename_i hstay
    split
    · exact .inr (.inl rfl)
    · rename_i hup
      refine .inr (.inr ⟨⟨?_, ?_, ?_, hslash⟩, by rw [String.ofList_toList]⟩)
      · exact fun hname => hstay (.inl (by rw [hname]; rfl))
      · exact fun hname => hstay (.inr (by rw [hname]; rfl))
      · exact fun hname => hup (by rw [hname]; rfl)

/-- A copy goes into a folder that is there under its own name, or to a directory. -/
theorem Usable.copyPlace_cases (h : Usable folder s) (path : String) :
    s.disk.entry? (copyPlace path folder s.working) = some .directory ∨
    Path.IsName (Path.baseName path) ∧
      copyPlace path folder s.working = Path.resolve s.working folder ++ [Path.baseName path] := by
  obtain ⟨hthere, habove⟩ := h.directory
  rcases Storyboard.copyPlace_cases path folder s.working with hplace | hplace | hinside
  · exact .inl (hplace ▸ hthere)
  · exact .inl (hplace ▸ habove)
  · exact .inr hinside

/-- The path of a copy can be written to if it fits and there is no directory. -/
theorem Usable.opens_copy (h : Usable folder s) (path : String) :
    s.disk.Opens s.working (copyPath path folder) ↔
      Tree.Fits folder (Path.baseName path) ∧
        s.disk.entry? (copyPlace path folder s.working) ≠ some .directory := by
  rw [Tree.Opens, ← copyPlace]
  rcases h.copyPlace_cases path with hdirectory | ⟨hname, hplace⟩
  · exact iff_of_false (fun hopen => hopen.2 hdirectory) fun hfree => hfree.2 hdirectory
  · rw [copyPath, h.locate_join hname, ← hplace]
    simp

/-- A file is not copied over itself where no file is. -/
theorem sameFile_eq_false {bytes : List UInt8} (hread : s.disk.read s.working path = .ok bytes)
    (hfree : ∀ content, s.disk.entry? (copyPlace path folder s.working) ≠ some (.file content)) :
    s.sameFile path (copyPath path folder) = false := by
  rw [Tree.read] at hread
  rcases hfind : s.disk.find s.working path with cause | ⟨place, _ | content⟩
  · simp [hfind, bind, Except.bind] at hread
  · simp [hfind, bind, Except.bind, throw, throwThe, MonadExceptOf.throw] at hread
  · rw [Session.sameFile, hfind]
    rcases hcopy : s.disk.find s.working (copyPath path folder) with cause | ⟨other, e⟩
    · rfl
    · have hother := (Tree.entry_of_find hcopy).1
      simp only [decide_eq_false_iff_not]
      rintro rfl
      have hentry := (Tree.entry_of_find hfind).2
      rw [hother] at hentry
      exact hfree content hentry

/-- **The copy.** It is written whole if it can be; otherwise there is at most a beginning of it. -/
theorem copied_diskCopied (h : Usable folder s)
    (hfree : ∀ content, s.disk.entry? (copyPlace path folder s.working) ≠ some (.file content))
    (copyInput : Bool) :
    Copied (copyPlace path folder s.working) (s.disk.read s.working path)
      (copyInput = true) (CanCopy path folder s.working s.disk) s.disk
      (s.diskCopied copyInput path folder) := by
  cases copyInput with
  | false => exact copied_nothing (by simp)
  | true =>
    rw [Session.diskCopied]
    cases hread : s.disk.read s.working path with
    | error cause =>
      have hnot : ¬(true = true ∧ CanCopy path folder s.working s.disk) := fun hcopies => by
        obtain ⟨bytes, hbytes⟩ := hcopies.2.readable
        rw [hread] at hbytes
        cases hbytes
      split <;> exact copied_nothing hnot
    | ok bytes =>
      rw [if_pos ⟨rfl, sameFile_eq_false hread hfree⟩]
      dsimp only
      rcases s.disk.write_cases s.working (copyPath path folder) bytes with
        ⟨hclosed, fault, hwrite⟩ | ⟨hopen, ⟨hfaulty, hwrite⟩ | ⟨hsound, hwrite⟩⟩
      · rw [hwrite]
        exact copied_nothing fun hcopies =>
          hclosed ((h.opens_copy path).mpr ⟨hcopies.2.fits, hcopies.2.free⟩)
      · rw [hwrite]
        exact copied_put hopen.2 rfl rfl (fun hfine => absurd hfaulty hfine.sound) List.nil_prefix
      · rw [hwrite]
        exact copied_put hopen.2 rfl rfl (fun _ => rfl) (List.prefix_refl bytes)

end

/-! ## The folder -/

/-- The place of the directory for generated files in a folder. -/
def directoryPlace (settings : Settings) (folder : String) (w : Place) : Place :=
  Path.resolve w (Path.join folder settings.generatedDirectory)

/-- A generated file can be written into a folder. -/
def CanWrite (settings : Settings) (folder : String) (w : Place) (t : Tree) (f : ViewFile) : Prop :=
  Takes folder settings.generatedDirectory (directoryPlace settings folder w) f t

instance (settings : Settings) (folder : String) (w : Place) (t : Tree) (f : ViewFile) :
    Decidable (CanWrite settings folder w t f) :=
  inferInstanceAs (Decidable (Takes ..))

/-- What has become of the disk `t` with a folder that was filled, and the code that was answered. -/
structure Filled (settings : Settings) (path : String) (copyInput : Bool) (files : List ViewFile)
    (folder : String) (w : Place) (t : Tree) (result : Except RunFailure Nat × Session) : Prop where
  code : result.1 = .ok 0 ∧ (∀ f ∈ files, CanWrite settings folder w t f) ∨
    result.1 = .ok 2 ∧ ∃ f ∈ files, ¬CanWrite settings folder w t f
  apart : (files.map fun f => directoryPlace settings folder w ++ [f.fileName]).Nodup
  written : ∀ f ∈ files, CanWrite settings folder w t f →
    result.2.disk.entry? (directoryPlace settings folder w ++ [f.fileName]) =
      some (.file (Text.utf8 f.text))
  partly : ∀ f ∈ files, ¬CanWrite settings folder w t f →
    result.2.disk.entry? (directoryPlace settings folder w ++ [f.fileName]) =
        t.entry? (directoryPlace settings folder w ++ [f.fileName]) ∨
      ∃ content, result.2.disk.entry? (directoryPlace settings folder w ++ [f.fileName]) =
        some (.file content) ∧ content <+: Text.utf8 f.text
  copied : copyInput = true → CanCopy path folder w t → ∃ bytes, t.read w path = .ok bytes ∧
    result.2.disk.entry? (copyPlace path folder w) = some (.file bytes)
  uncopied : ¬(copyInput = true ∧ CanCopy path folder w t) →
    result.2.disk.entry? (copyPlace path folder w) = t.entry? (copyPlace path folder w) ∨
      copyInput = true ∧ ∃ bytes content, t.read w path = .ok bytes ∧
        result.2.disk.entry? (copyPlace path folder w) = some (.file content) ∧ content <+: bytes
  others : ∀ p, (∀ f ∈ files, p ≠ directoryPlace settings folder w ++ [f.fileName]) →
    p ≠ copyPlace path folder w →
    result.2.disk.entry? p = t.entry? p ∨
      p = directoryPlace settings folder w ∧ t.entry? p = none ∧
        result.2.disk.entry? p = some .directory

section
variable {level : Severity} {settings : Settings} {path : String} {copyInput : Bool}
  {files : List ViewFile} {folder : String} {s t : Session}

/-- The copy goes neither to the directory for generated files nor into it. -/
theorem copyPlace_ne (hname : Path.IsName settings.generatedDirectory)
    (hbase : Path.baseName path ≠ settings.generatedDirectory) (w behind : Place) :
    copyPlace path folder w ≠ directoryPlace settings folder w ++ behind := by
  rw [directoryPlace, Path.resolve_join, hname.resolve]
  intro h
  rcases copyPlace_cases path folder w with hplace | hplace | ⟨-, hplace⟩ <;> rw [hplace] at h
  · have hlength := congrArg List.length h
    simp at hlength
  · have hlength := congrArg List.length h
    simp only [List.length_dropLast, List.length_append, List.length_singleton] at hlength
    omega
  · rw [List.append_assoc] at h
    have hname := List.append_cancel_left h
    exact hbase (by simpa using (List.cons.inj hname).1)

/-- The place of the copy holds no file, if none is in the folder. -/
theorem Usable.copyPlace_free (h : Usable folder s)
    (hempty : ∀ p content, Path.resolve s.working folder <+: p →
      s.disk.entry? p ≠ some (.file content)) (path : String) (content : List UInt8) :
    s.disk.entry? (copyPlace path folder s.working) ≠ some (.file content) := by
  rcases h.copyPlace_cases path with hdirectory | ⟨-, hplace⟩
  · simp [hdirectory]
  · exact hempty _ content (hplace ▸ List.prefix_append _ _)

/-- A copy and the files that are written after it do not get into each other's way. -/
theorem Filled.of_parts {result : Except RunFailure Nat × Session} {t u : Tree} {w : Place}
    (hapart : ∀ behind, copyPlace path folder w ≠ directoryPlace settings folder w ++ behind)
    (hnodup : (files.map ViewFile.fileName).Nodup)
    (hcopied : Copied (copyPlace path folder w) (t.read w path) (copyInput = true)
      (CanCopy path folder w t) t u)
    (hwrote : Wrote (directoryPlace settings folder w) (CanWrite settings folder w t) files u
      result.2.disk)
    (hcode : result.1 = .ok 0 ∧ (∀ f ∈ files, CanWrite settings folder w t f) ∨
      result.1 = .ok 2 ∧ ∃ f ∈ files, ¬CanWrite settings folder w t f) :
    Filled settings path copyInput files folder w t result := by
  have hcopy : result.2.disk.entry? (copyPlace path folder w) =
      u.entry? (copyPlace path folder w) := by
    refine (hwrote.others _ fun f _ => hapart [f.fileName]).resolve_right fun ⟨hplace, _⟩ => ?_
    exact hapart [] (by rw [hplace, List.append_nil])
  refine ⟨hcode, ?_, hwrote.written, fun f hf hnot => ?_, ?_, ?_, fun p hp hother => ?_⟩
  · have hmap : (files.map fun f => directoryPlace settings folder w ++ [f.fileName]) =
        (files.map ViewFile.fileName).map fun name => directoryPlace settings folder w ++ [name] := by
      rw [List.map_map]
      rfl
    rw [hmap]
    exact hnodup.map fun a b hab => by simpa using hab
  · rw [← hcopied.others _ (hapart [f.fileName]).symm]
    exact hwrote.partly f hf hnot
  · rw [hcopy]
    exact hcopied.copied
  · rw [hcopy]
    exact hcopied.uncopied
  · rw [← hcopied.others p hother]
    exact hwrote.others p hp

/-- **Filling a folder.** If no file is in a folder that is there, each generated file that can be written
is written, whatever becomes of the others and of the copy. -/
theorem exec_fillFolder (husable : Usable folder s) (hname : Path.IsName settings.generatedDirectory)
    (hnul : Path.hasNul settings.generatedDirectory = false)
    (hcopy : copyInput = true → Path.hasNul path = false)
    (hbase : Path.baseName path ≠ settings.generatedDirectory)
    (hslash : ∀ f ∈ files, '/' ∉ f.name.toList) (hnodup : (files.map ViewFile.fileName).Nodup)
    (hempty : ∀ p content, Path.resolve s.working folder <+: p →
      s.disk.entry? p ≠ some (.file content)) :
    Filled settings path copyInput files folder s.working s.disk
      (exec (fillFolder level settings path copyInput files folder) s) := by
  obtain ⟨t, hrunCopy, hworking, hdisk⟩ := exec_copyReported level hcopy folder s
  have hcopied := copied_diskCopied husable (husable.copyPlace_free hempty path) copyInput
  rw [← hdisk] at hcopied
  have hthere : Usable folder t := by
    have hextends := copyReported_extends level copyInput path folder s
    rw [hrunCopy] at hextends
    exact husable.extends hextends
  -- the directory for generated files and what is in it are apart from the copy
  have hapart : ∀ behind, copyPlace path folder s.working ≠
      directoryPlace settings folder s.working ++ behind :=
    copyPlace_ne hname hbase s.working
  have hkept : ∀ behind, t.disk.entry? (directoryPlace settings folder s.working ++ behind) =
      s.disk.entry? (directoryPlace settings folder s.working ++ behind) := fun behind =>
    hcopied.others _ (hapart behind).symm
  have hready : Ready folder settings.generatedDirectory (directoryPlace settings folder s.working) t := by
    refine ⟨hthere, by rw [hworking]; rfl, fun content hfile => ?_⟩
    have hsame := hkept []
    rw [List.append_nil] at hsame
    refine hempty _ content ?_ (hsame.symm.trans hfile)
    rw [directoryPlace, Path.resolve_join, hname.resolve]
    exact List.prefix_append _ _
  -- so it is settled before the copy which files can be written
  have hwrites : ∀ f ∈ files, Takes folder settings.generatedDirectory
      (directoryPlace settings folder s.working) f t.disk ↔
        CanWrite settings folder s.working s.disk f := fun f _ =>
    Takes.congr hcopied.faulty (hkept [f.fileName])
  obtain ⟨written, u, hrunFiles, hall, hwrote⟩ := exec_writeFiles level hready hname hnul hslash hnodup
  have hrun : exec (fillFolder level settings path copyInput files folder) s =
      (.ok (if written.all id then 0 else 2), u) := by
    rw [fillFolder, exec_bind, hrunCopy]
    dsimp only
    rw [exec_bind, hrunFiles]
    rfl
  have hallWrite : written.all id = true ↔ ∀ f ∈ files, CanWrite settings folder s.working s.disk f :=
    hall.trans (forall₂_congr hwrites)
  rw [hrun]
  refine .of_parts hapart hnodup hcopied (hwrote.congr hwrites) ?_
  by_cases hfine : written.all id = true
  · exact .inl ⟨by rw [if_pos hfine], hallWrite.mp hfine⟩
  · refine .inr ⟨by rw [if_neg hfine], ?_⟩
    have hnot := mt hallWrite.mpr hfine
    push Not at hnot
    exact hnot

end

/-! ## A conversion -/

theorem nodup_fileNames (settings : Settings) (path : String) (s : Session) :
    ((filesOf settings path s).map ViewFile.fileName).Nodup := by
  have hmap : (filesOf settings path s).map ViewFile.fileName =
      ((filesOf settings path s).map ViewFile.name).map (· ++ ".swift") := by
    rw [List.map_map]
    rfl
  rw [hmap]
  exact (nodup_names_filesOf settings path s).map fun a b hab => by simpa using hab

/-- Every document that can be read is converted. -/
theorem exists_files {settings : Settings} {path : String} {s : Session} {d : Markup.Document}
    (hfinite : settings.hasFinitePadding = true) (h : s.document path = .ok d) :
    ∃ files, (convert settings s.now d).result = .ok files := by
  have hseparators : d.root.isUnseparated = true := by
    rw [Session.document] at h
    cases hread : s.disk.read s.working (Path.ofAddress path) with
    | error cause => simp [hread, documentOf] at h
    | ok bytes =>
      rw [hread, documentOf] at h
      cases hd : Markup.Document.ofBytes (Compression.unpacked bytes) with
      | error fault => simp [hd, Except.mapError] at h
      | ok root =>
        rw [hd, Except.mapError, Except.ok.injEq] at h
        exact h ▸ Markup.isUnseparated_ofBytes hd
  exact exists_siteFiles s.now hseparators hfinite

section
variable (level : Severity) {settings : Settings} {path : String} {root : Option String}
  {copyInput : Bool} {s t : Session}

/-- A conversion ends in one of three ways, and only in the last one does it touch the disk. -/
theorem exec_convertFile_cases (root : Option String) (copyInput : Bool)
    (hfinite : settings.hasFinitePadding = true) (path : String) (s : Session) :
    ∃ t, Session.Quiet s t ∧
      (((∃ cause, s.document path = .error cause) ∧ filesOf settings path s = [] ∧
        exec (convertFile Session.host level settings path root copyInput) s = (.ok 1, t)) ∨
      ((∃ d, s.document path = .ok d) ∧ filesOf settings path s = [] ∧
        exec (convertFile Session.host level settings path root copyInput) s = (.ok 0, t)) ∨
      ((∃ d, s.document path = .ok d) ∧ filesOf settings path s ≠ [] ∧
        exec (convertFile Session.host level settings path root copyInput) s =
          exec (writeAll Session.host level settings path
            ((root.filter (· != "")) <|> settings.outputRoot) copyInput (filesOf settings path s)) t)) := by
  obtain ⟨t, hquiet, hrun⟩ := exec_convertFile level settings path root copyInput s
  refine ⟨t, hquiet, ?_⟩
  rw [hrun]
  clear hrun
  unfold filesOf
  cases hdocument : s.document path with
  | error cause => exact .inl ⟨⟨cause, rfl⟩, rfl, rfl⟩
  | ok d =>
    obtain ⟨files, hfiles⟩ := exists_files hfinite hdocument
    dsimp only
    rw [hfiles]
    right
    cases files with
    | nil => exact .inl ⟨⟨d, rfl⟩, rfl, rfl⟩
    | cons file rest => exact .inr ⟨⟨d, rfl⟩, by simp, by with_reducible rfl⟩

/-- No file is in a folder that was made where nothing was. -/
theorem no_file_inside {chosen : Option String} (hrooted : s.disk.IsRooted)
    (hnew : s.disk.entry? (folderPlace settings chosen s) = none) (p : Place) (content : List UInt8)
    (hinside : folderPlace settings chosen s <+: p) :
    Tree.entry? (folderDisk settings chosen s) p ≠ some (.file content) := by
  rw [folderDisk, Tree.withDirectories_entry, hrooted.nothing_below hnew hinside]
  split <;> simp

/-- A conversion into a new folder fills it. -/
theorem writeAll_filled {chosen : Option String} {files : List ViewFile}
    (hrooted : s.disk.IsRooted) (hname : Path.IsName settings.generatedDirectory)
    (hnul : Path.hasNul settings.generatedDirectory = false)
    (hcan : CanMakeFolder settings chosen s)
    (hnew : s.disk.entry? (folderPlace settings chosen s) = none)
    (hslash : ∀ f ∈ files, '/' ∉ f.name.toList) (hnodup : (files.map ViewFile.fileName).Nodup)
    (hbase : Path.baseName path ≠ settings.generatedDirectory)
    (hcopy : copyInput = true → Path.hasNul path = false) (hquiet : s.Quiet t) :
    Filled settings path copyInput files (outputFolder settings chosen s) s.working
      (folderDisk settings chosen s)
      (exec (writeAll Session.host level settings path chosen copyInput files) t) := by
  obtain ⟨hfolder, hworking⟩ := outputFolder_quiet settings chosen hquiet
  obtain ⟨hcanQuiet, hdisk⟩ := canMakeFolder_quiet settings chosen hquiet
  have hcan := hcanQuiet.mpr hcan
  have husable := hcan.usable
  rw [exec_writeAll, exec_makeFolder_eq_ok.mpr ⟨hcan, rfl, rfl⟩]
  dsimp only
  rw [hfolder, hdisk] at husable ⊢
  rw [← hworking]
  refine exec_fillFolder husable hname hnul hcopy hbase hslash hnodup fun p content hinside => ?_
  rw [Session.working_withDisk, hworking] at hinside
  exact no_file_inside hrooted hnew p content hinside

end

theorem isName_generatedDirectory :
    Path.IsName Settings.standard.generatedDirectory ∧
      Path.hasNul Settings.standard.generatedDirectory = false :=
  ⟨Path.isName_of_length (by decide) (by decide), by decide⟩

/-- A session with a document of two views, the first of which cannot be written. It is evaluated by the
kernel only. -/
@[irreducible] def faultySession : Session :=
  let s := sessionWith "a.xib"
    ("<d><objects><view><subviews><label/></subviews></view>" ++
      "<view><subviews><label/></subviews></view></objects></d>")
  s.withDisk
    { s.disk with
      faulty := [["w", "out", "StoryboardConverter_2001-02-03_04-05-06", "GeneratedSwiftUIFiles",
        "GeneratedView1.swift"]] }

/-- The file of a view with nothing but a label. -/
def labelView (name : String) : ViewFile where
  name := name
  text := Text.linesText
    ["import SwiftUI",
      "",
      "struct " ++ name ++ ": View \x7b",
      "    var body: some View \x7b",
      "        VStack(alignment: .center, spacing: 0) \x7b",
      "            Text(\"Label\")",
      "        \x7d",
      "        .padding()",
      "        .frame(maxWidth: .infinity, maxHeight: .infinity, alignment: .center)",
      "        .background(Color.white)",
      "    \x7d",
      "\x7d",
      "",
      "#if DEBUG",
      "#Preview \x7b",
      "    " ++ name ++ "()",
      "\x7d",
      "#endif"]

/-- A document with one view, in a session where a copy of it cannot be written. -/
@[irreducible] def faultyCopySession : Session :=
  labelSession.withDisk
    { labelSession.disk with
      faulty := [["w", "out", "StoryboardConverter_2001-02-03_04-05-06", "a.xib"]] }

end Storyboard
