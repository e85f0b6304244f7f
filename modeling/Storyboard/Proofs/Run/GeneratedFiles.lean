import Storyboard.Proofs.Conversion.ClosedFiles
import Storyboard.Proofs.Run.Effects
/-!
# Where generated files go

Each generated file is written to the path of its name, seen from the directory for generated files. A
name is made from what a document says, so it can hold slashes, and then the path leads wherever they
lead: out of the directory, or to a file that another view is written to.

* `outputFolder`, `filesOf`: the folder that a run makes, and the files that it generates.
* `writeFile_entry`, `writeFiles_entries`: a file that is written without a fault holds its text.
* `place_eq`: a file goes to where the directory part of its name leads to.
* `generated_files_placed`: a run writes nowhere else; without slashes in the names, all generated files
  are side by side in their directory.
-/
namespace Storyboard

open Storyboard.Disk
open Storyboard.Markup
open Storyboard.Swift (ViewFile)

/-! ## What a run reads -/

namespace Session

def downloads (s : Session) : String := Path.join (homeDirectory host s).1 "Downloads"

/-- What a path leads to, if anything. -/
def kindAt? (path : String) (s : Session) : Option EntryKind :=
  if Path.hasNul path then none else s.kind? path

/-- The downloads if they are a directory, else the working directory. -/
def rootAmong (downloads working : String) : Option EntryKind → String
  | some .directory => downloads
  | _ => working

/-- Where output folders go if nothing else is settled. -/
def standardRoot (s : Session) : String :=
  rootAmong s.downloads (pathOf s.working) (s.kindAt? s.downloads)

/-- There is a directory to put output folders into: one is given, or there are downloads, or the working
directory is there. -/
def HasRoot (root : Option String) (s : Session) : Prop :=
  (root.filter (· != "")).isSome = true ∨ s.kindAt? s.downloads = some .directory ∨
    s.disk.entry? s.working = some .directory

instance (root : Option String) (s : Session) : Decidable (s.HasRoot root) :=
  inferInstanceAs (Decidable (_ ∨ _))

/-- The second session is the first one after some reports. -/
def Quiet (s t : Session) : Prop := ∃ errors, t = { s with errors }

theorem Quiet.refl (s : Session) : Quiet s s := ⟨s.errors, rfl⟩

theorem Quiet.trans {s t u : Session} (hst : Quiet s t) (htu : Quiet t u) : Quiet s u := by
  obtain ⟨_, rfl⟩ := hst
  obtain ⟨errors, rfl⟩ := htu
  exact ⟨errors, rfl⟩

theorem Quiet.disk_eq {s t : Session} (h : Quiet s t) : t.disk = s.disk := by
  obtain ⟨_, rfl⟩ := h
  rfl

theorem Quiet.extends {s t : Session} (h : Quiet s t) (allowed : Place → Prop) : Extends allowed s t := by
  obtain ⟨_, rfl⟩ := h
  exact ⟨rfl, .refl allowed s.disk⟩

end Session

/-- The folder that a run makes, below the given root or else below the standard one. -/
def outputFolder (settings : Settings) (root : Option String) (s : Session) : String :=
  Path.join ((root.filter (· != "")).getD s.standardRoot) (settings.folderStem ++ s.time.text)

/-- The document in what was read. -/
def documentOf : Except Disk.Fault (List UInt8) → Except ReadFailure Document
  | .error cause => .error (.unopened cause)
  | .ok bytes => (Document.ofBytes (Compression.unpacked bytes)).mapError .faulty

/-- The document in a file. -/
def Session.document (path : String) (s : Session) : Except ReadFailure Document :=
  documentOf (s.disk.read s.working (Path.ofAddress path))

/-- The files that the document in a file is converted to; none if it cannot be read or converted. -/
def filesOf (settings : Settings) (path : String) (s : Session) : List ViewFile :=
  match s.document path with
  | .error _ => []
  | .ok d =>
    match (convert settings s.now d).result with
    | .error _ => []
    | .ok files => files

/-- A session behind a report. -/
def Session.reported (level : Severity) (n : Notice) (s : Session) : Session :=
  if level.rank ≤ n.severity.rank then { s with errors := s.errors ++ [.notice n] } else s

theorem Session.quiet_reported (level : Severity) (n : Notice) (s : Session) :
    Quiet s (s.reported level n) := by
  unfold Session.reported
  split
  · exact ⟨_, rfl⟩
  · exact .refl s

@[simp] theorem Session.disk_reported (level : Severity) (n : Notice) (s : Session) :
    (s.reported level n).disk = s.disk := by
  unfold Session.reported
  split <;> rfl

@[simp] theorem Session.working_reported (level : Severity) (n : Notice) (s : Session) :
    (s.reported level n).working = s.working := by
  unfold Session.reported
  split <;> rfl

theorem exec_report (level : Severity) (n : Notice) (s : Session) :
    exec (liftM (report Session.host level n) : Run _ Unit) s = (.ok (), s.reported level n) := by
  rw [exec_lift]
  unfold report Session.reported
  split <;> rfl

theorem stateM_bind {α β : Type} (x : StateM Session α) (f : α → StateM Session β) (s : Session) :
    (x >>= f) s = f (x s).1 (x s).2 := rfl

theorem kindAt?_session (path : String) (s : Session) :
    kindAt? Session.host path s = (s.kindAt? path, s) := by
  unfold kindAt? Session.kindAt?
  split <;> rfl

theorem homeDirectory_session (s : Session) :
    homeDirectory Session.host s =
      (match s.environment.lookup "HOME" with
        | some home => withoutLastSlashes home
        | none => (s.recordedHome.map withoutLastSlashes).getD "~", s) := by
  have henvironment : Session.host.environment? "HOME" s = (s.environment.lookup "HOME", s) := rfl
  rw [homeDirectory, stateM_bind, henvironment]
  cases s.environment.lookup "HOME" <;> rfl

theorem exec_standardRoot (s : Session) :
    exec (standardRoot Session.host) s =
      if s.HasRoot none then (.ok s.standardRoot, s) else (.error (.disk .missing none), s) := by
  have hworking : Session.host.workingDirectory s = (s.workingDirectory, s) := rfl
  have hhome : (homeDirectory Session.host s).2 = s := by rw [homeDirectory_session]
  rw [standardRoot, exec_bind, exec_lift, hhome]
  dsimp only
  rw [exec_bind, exec_lift, kindAt?_session, ← Session.downloads]
  dsimp only
  by_cases hdownloads : s.kindAt? s.downloads = some .directory
  · have hroot : s.HasRoot none := .inr (.inl hdownloads)
    rw [if_pos hdownloads, if_pos hroot, Session.standardRoot, hdownloads]
    rfl
  · rw [if_neg hdownloads, exec_bind, exec_lift, hworking, Session.workingDirectory]
    by_cases hthere : s.disk.entry? s.working = some .directory
    · have hroot : s.HasRoot none := .inr (.inr hthere)
      have hstandard : s.standardRoot = Session.pathOf s.working := by
        rw [Session.standardRoot]
        generalize s.kindAt? s.downloads = kind at *
        rcases kind with _ | ⟨⟨⟩⟩
        · rfl
        · exact absurd rfl hdownloads
        · rfl
      rw [if_pos hroot, hstandard, if_pos hthere]
      rfl
    · have hroot : ¬s.HasRoot none := by simp [Session.HasRoot, hdownloads, hthere]
      rw [if_neg hroot, if_neg hthere]
      rfl

theorem exec_readDocument (path : String) (s : Session) :
    exec (liftM (readDocument Session.host path) : Run _ (Except ReadFailure Document)) s =
      (.ok (s.document path), s) := by
  have hread : (Session.host.read (Path.ofAddress path)) s =
    (s.disk.read s.working (Path.ofAddress path), s) := rfl
  rw [exec_lift, readDocument, stateM_bind, hread, Session.document]
  generalize s.disk.read s.working (Path.ofAddress path) = result
  cases result <;> rfl

/-! ## The parts of a run -/

/-- The folder is settled before anything is made. -/
theorem exec_makeFolder (settings : Settings) (root : Option String) (s : Session) :
    exec (makeFolder Session.host settings root) s =
      if s.HasRoot root then
        exec (do
          makeDirectories Session.host (outputFolder settings root s)
          pure (outputFolder settings root s)) s
      else (.error (.disk .missing none), s) := by
  have htime : Session.host.localTime s = (s.time, s) := rfl
  unfold makeFolder outputFolder
  cases hchosen : root.filter (· != "") with
  | some chosen =>
    have hroot : s.HasRoot root := .inl (by rw [hchosen]; rfl)
    dsimp only
    rw [if_pos hroot, exec_bind, exec_pure]
    dsimp only
    rw [exec_bind, exec_lift, htime]
    dsimp only [Option.getD_some]
  | none =>
    have hroot : s.HasRoot root ↔ s.HasRoot none := by simp [Session.HasRoot, hchosen]
    dsimp only
    rw [exec_bind, exec_standardRoot]
    by_cases hnone : s.HasRoot none
    · rw [if_pos hnone, if_pos (hroot.mpr hnone)]
      dsimp only
      rw [exec_bind, exec_lift, htime]
      dsimp only [Option.getD_none]
    · rw [if_neg hnone, if_neg (mt hroot.mp hnone)]

theorem confined_makeFolder {w : Place} {allowed : Place → Prop} (settings : Settings)
    (root : Option String) : Confined w allowed (makeFolder Session.host settings root) := by
  intro s hs
  rw [exec_makeFolder]
  split
  · exact ((confined_makeDirectories _).bind fun _ => confined_pure _) s hs
  · exact .refl allowed s

/-- The folder that was made is the output folder. -/
theorem makeFolder_result {settings : Settings} {root : Option String} {s t : Session} {folder : String}
    (h : exec (makeFolder Session.host settings root) s = (.ok folder, t)) :
    folder = outputFolder settings root s := by
  rw [exec_makeFolder] at h
  split at h
  · obtain ⟨_, _, -, h⟩ := exec_bind_eq_ok.mp h
    rw [exec_pure, Prod.mk.injEq, Except.ok.injEq] at h
    exact h.1.symm
  · cases h

/-! ## Files that were written -/

theorem putFile_entry {directory path : String} {content : List UInt8} {s t : Session}
    (h : exec (putFile Session.host directory path content) s = (.ok (), t)) :
    t.disk.entry? (Path.resolve s.working path) = some (.file content) := by
  obtain ⟨_, u, hmade, h⟩ := exec_bind_eq_ok.mp h
  obtain ⟨written, v, hwritten, h⟩ := exec_bind_eq_ok.mp h
  have hextends : Session.Extends (fun _ => False) s u :=
    (confined_makeDirectories directory).extends rfl hmade
  rw [exec_lift, Prod.mk.injEq, Except.ok.injEq] at hwritten
  cases written with
  | error cause => cases h
  | ok _ =>
    rw [exec_pure, Prod.mk.injEq] at h
    rw [← h.2, ← hwritten.2, ← hextends.working]
    exact Tree.write_entry hwritten.1

/-- A fault of the disk is answered, any other failure ends the run. -/
theorem exec_writeFile (level : Severity) (directory : String) (file : ViewFile) (s : Session) :
    exec (writeFile Session.host level directory file) s =
      match exec (putFile Session.host directory (Path.join directory file.fileName)
        (Text.utf8 file.text)) s with
      | (.ok _, t) => (.ok true, t.reported level (.generated (Path.join directory file.fileName)))
      | (.error (.disk cause place), t) =>
        (.ok false, t.reported level (.writeFailed (Path.join directory file.fileName)
          (diskText cause place)))
      | (.error e, t) => (.error e, t) := by
  unfold writeFile
  dsimp only
  rw [exec_bind, exec_tryCatch, exec_bind]
  rcases exec (putFile Session.host directory (Path.join directory file.fileName)
    (Text.utf8 file.text)) s with ⟨e | _, t⟩
  · cases e with
    | disk cause place =>
      dsimp only
      rw [exec_bind, exec_report]
      rfl
    | nulInPath | conversion | endOfInput => rfl
  · dsimp only
    rw [exec_bind, exec_report]
    rfl

theorem writeFile_entry {level : Severity} {directory : String} {file : ViewFile} {s t : Session}
    (h : exec (writeFile Session.host level directory file) s = (.ok true, t)) :
    t.disk.entry? (Path.resolve s.working (Path.join directory file.fileName)) =
      some (.file (Text.utf8 file.text)) := by
  rw [exec_writeFile] at h
  split at h
  · rename_i u hput
    have ht : u.reported level (.generated (Path.join directory file.fileName)) = t :=
      (Prod.mk.inj h).2
    rw [← ht, Session.disk_reported]
    exact putFile_entry hput
  · cases h
  · cases h

/-- After files were written one by one without a fault, each of their places holds the text of a file
that goes there: of the last one, if there are several. -/
theorem writeFiles_entries {level : Severity} {directory : String} {files : List ViewFile}
    {s t : Session} {written : List Bool}
    (h : exec (files.mapM (writeFile Session.host level directory)) s = (.ok written, t))
    (hall : written.all id = true) : ∀ f ∈ files, ∃ g ∈ files,
      Path.resolve s.working (Path.join directory g.fileName) =
        Path.resolve s.working (Path.join directory f.fileName) ∧
      t.disk.entry? (Path.resolve s.working (Path.join directory f.fileName)) =
        some (.file (Text.utf8 g.text)) := by
  induction files generalizing s written with
  | nil => exact fun f hf => absurd hf List.not_mem_nil
  | cons file rest ih =>
    rw [List.mapM_cons] at h
    obtain ⟨first, u, hfirst, h⟩ := exec_bind_eq_ok.mp h
    obtain ⟨others, v, hothers, h⟩ := exec_bind_eq_ok.mp h
    rw [exec_pure, Prod.mk.injEq, Except.ok.injEq] at h
    obtain ⟨rfl, rfl⟩ := h
    rw [List.all_cons, Bool.and_eq_true] at hall
    obtain ⟨rfl, hall⟩ := hall
    have hextends : Session.Extends (fun _ => True) s u :=
      (confined_writeFile level directory file trivial).extends rfl hfirst
    have hworking := hextends.working
    have hrest := ih hothers hall
    rw [hworking] at hrest
    refine List.forall_mem_cons.mpr ⟨?_, fun f hf => ?_⟩
    · by_cases hlater : ∃ g ∈ rest, Path.resolve s.working (Path.join directory file.fileName) =
          Path.resolve s.working (Path.join directory g.fileName)
      · -- a later file goes to the same place
        obtain ⟨g, hg, hplace⟩ := hlater
        obtain ⟨k, hk, hkplace, hentry⟩ := hrest g hg
        rw [hplace]
        exact ⟨k, List.mem_cons_of_mem _ hk, hkplace, hentry⟩
      · refine ⟨file, List.mem_cons_self, rfl, ?_⟩
        have hothers : Session.Extends (fun p => ∃ g ∈ rest, p =
            Path.resolve s.working (Path.join directory g.fileName)) u v :=
          (confined_mapM fun g hg => confined_writeFile level directory g ⟨g, hg, rfl⟩).extends hworking
            hothers
        have hchange := hothers.disk.entries (Path.resolve s.working (Path.join directory file.fileName))
        rw [writeFile_entry hfirst] at hchange
        exact hchange.file_eq hlater
    · obtain ⟨g, hg, hplace, hentry⟩ := hrest f hf
      exact ⟨g, List.mem_cons_of_mem _ hg, hplace, hentry⟩

/-! ## The whole run -/

theorem exec_reports (level : Severity) (notices : List Notice) (s : Session) :
    ∃ t, Session.Quiet s t ∧ exec (forIn notices PUnit.unit fun n _ => do
      (liftM (report Session.host level n) : Run (StateM Session) Unit)
      pure (ForInStep.yield PUnit.unit)) s = (.ok PUnit.unit, t) := by
  induction notices generalizing s with
  | nil => exact ⟨s, .refl s, rfl⟩
  | cons n rest ih =>
    obtain ⟨t, hquiet, hrest⟩ := ih (s.reported level n)
    refine ⟨t, (s.quiet_reported level n).trans hquiet, ?_⟩
    rw [List.forIn_cons, exec_bind, exec_bind, exec_report]
    exact hrest

theorem exec_convertReported (level : Severity) (settings : Settings) (d : Document) (s : Session) :
    ∃ t, Session.Quiet s t ∧ exec (convertReported Session.host level settings d) s =
      ((convert settings s.now d).result.mapError .conversion, t) := by
  obtain ⟨t, hquiet, hreports⟩ := exec_reports level (convert settings s.now d).notices s
  refine ⟨t, hquiet, ?_⟩
  have hnow : Session.host.now s = (s.now, s) := rfl
  unfold convertReported
  rw [exec_bind, exec_lift, hnow]
  dsimp only
  rw [exec_bind, hreports]
  cases (convert settings s.now d).result <;> rfl

/-- Copies the file into the folder if that is asked for, and reports how it went. -/
def copyReported (level : Severity) (copyInput : Bool) (path folder : String) :
    Run (StateM Session) Unit :=
  if copyInput then do
    match ← copyInto Session.host path folder with
    | .ok copy => (report Session.host level (.copied copy) : StateM Session Unit)
    | .error reason => (report Session.host level (.copyFailed reason) : StateM Session Unit)
  else return ()

theorem confined_copyReported {w : Place} {allowed : Place → Prop} (level : Severity)
    {copyInput : Bool} {path folder : String}
    (h : copyInput = true → allowed (Path.resolve w (Path.join folder (Path.baseName path)))) :
    Confined w allowed (copyReported level copyInput path folder) := by
  unfold copyReported
  split
  · rename_i hcopy
    refine (confined_copyInto path folder (h hcopy)).bind fun copied => ?_
    cases copied with
    | error reason => exact confined_report level _
    | ok copy => exact confined_report level _
  · exact confined_pure _

theorem writeAll_eq (level : Severity) (settings : Settings) (path : String) (root : Option String)
    (copyInput : Bool) (files : List ViewFile) :
    writeAll Session.host level settings path root copyInput files = (do
      let folder ← makeFolder Session.host settings root
      copyReported level copyInput path folder
      let written ← files.mapM
        (writeFile Session.host level (Path.join folder settings.generatedDirectory))
      return if written.all id then 0 else 2) := by
  unfold writeAll
  congr 1
  funext folder
  cases copyInput with
  | false => rfl
  | true =>
    simp only [copyReported, if_true, bind_assoc]
    congr 1
    funext copied
    cases copied <;> rfl

/-- The place of the directory for generated files. -/
def generatedPlace (settings : Settings) (root : Option String) (s : Session) : Place :=
  Path.resolve s.working (Path.join (outputFolder settings root s) settings.generatedDirectory)

/-- Where a run may write files: the copy, and each generated file. -/
def MayWrite (settings : Settings) (path : String) (root : Option String) (copyInput : Bool)
    (files : List ViewFile) (s : Session) (p : Place) : Prop :=
  (copyInput = true ∧
    p = Path.resolve s.working (Path.join (outputFolder settings root s) (Path.baseName path))) ∨
  ∃ f ∈ files, p = Path.resolve (generatedPlace settings root s) f.fileName

section
variable (level : Severity) (settings : Settings) (path : String) (root : Option String)
  (copyInput : Bool) (files : List ViewFile)

theorem extends_writeAll (s : Session) :
    Session.Extends (MayWrite settings path root copyInput files s) s
      (exec (writeAll Session.host level settings path root copyInput files) s).2 := by
  rw [writeAll_eq, exec_bind]
  rcases hfolder : exec (makeFolder Session.host settings root) s with ⟨e | folder, t⟩
  · exact (confined_makeFolder settings root).extends rfl hfolder
  · have hmade : Session.Extends (MayWrite settings path root copyInput files s) s t :=
      (confined_makeFolder settings root).extends rfl hfolder
    obtain rfl := makeFolder_result hfolder
    refine hmade.trans (Confined.bind ?_ (fun _ => ?_) t hmade.working)
    · exact confined_copyReported level fun hcopy => .inl ⟨hcopy, rfl⟩
    · exact (confined_mapM fun f hf => confined_writeFile level _ f
        (.inr ⟨f, hf, Path.resolve_join _ _ _⟩)).bind fun _ => confined_pure _

/-- A run that answers zero has written each file without a fault. -/
theorem writeAll_entries {s t : Session}
    (h : exec (writeAll Session.host level settings path root copyInput files) s = (.ok 0, t)) :
    ∀ f ∈ files, ∃ g ∈ files, Path.resolve (generatedPlace settings root s) g.fileName =
        Path.resolve (generatedPlace settings root s) f.fileName ∧
      t.disk.entry? (Path.resolve (generatedPlace settings root s) f.fileName) =
        some (.file (Text.utf8 g.text)) := by
  rw [writeAll_eq] at h
  obtain ⟨folder, u, hfolder, hrest⟩ := exec_bind_eq_ok.mp h
  obtain rfl := makeFolder_result hfolder
  obtain ⟨_, v, hcopy, hrest⟩ := exec_bind_eq_ok.mp hrest
  obtain ⟨written, w, hwritten, hcode⟩ := exec_bind_eq_ok.mp hrest
  have hmade : Session.Extends (fun _ => True) s u :=
    (confined_makeFolder settings root).extends rfl hfolder
  have hcopied : Session.Extends (fun _ => True) u v :=
    (confined_copyReported level fun _ => trivial).extends rfl hcopy
  rw [exec_pure, Prod.mk.injEq, Except.ok.injEq] at hcode
  have hall : written.all id = true := by
    by_contra hsome
    simp [hsome] at hcode
  have hentries := writeFiles_entries hwritten hall
  simp only [Path.resolve_join _ (Path.join _ _), hcopied.working, hmade.working, hcode.2] at hentries
  exact hentries

/-- A conversion by what the file holds and what it is converted to. -/
theorem exec_convertFile (s : Session) :
    ∃ t, Session.Quiet s t ∧ exec (convertFile Session.host level settings path root copyInput) s =
      match s.document path with
      | .error _ => (.ok 1, t)
      | .ok d =>
        match (convert settings s.now d).result with
        | .error cause => (.error (.conversion cause), t)
        | .ok [] => (.ok 0, t)
        | .ok (file :: rest) =>
          exec (writeAll Session.host level settings path
            ((root.filter (· != "")) <|> settings.outputRoot) copyInput (file :: rest)) t := by
  unfold convertFile
  rw [exec_bind, exec_readDocument]
  cases s.document path with
  | error cause =>
    dsimp only
    rw [exec_bind, exec_report]
    exact ⟨_, s.quiet_reported _ _, rfl⟩
  | ok d =>
    have hparsed := s.quiet_reported level (.parsed path d.root.name)
    obtain ⟨t, hquiet, hconverted⟩ := exec_convertReported level settings d
      (s.reported level (.parsed path d.root.name))
    have hnow : (s.reported level (.parsed path d.root.name)).now = s.now := by
      obtain ⟨_, h⟩ := hparsed
      rw [h]
    dsimp only
    rw [exec_bind, exec_report]
    dsimp only
    rw [exec_bind, hconverted, hnow]
    rcases (convert settings s.now d).result with cause | _ | ⟨file, rest⟩
    · exact ⟨t, hparsed.trans hquiet, rfl⟩
    · dsimp only [Except.mapError]
      rw [if_pos List.isEmpty_nil, exec_bind, exec_report]
      exact ⟨_, (hparsed.trans hquiet).trans (t.quiet_reported _ _), rfl⟩
    · exact ⟨t, hparsed.trans hquiet, rfl⟩

/-- A run writes the files of its document, or it changes nothing on the disk. -/
theorem convertFile_cases (s : Session) :
    (filesOf settings path s = [] ∧
      Session.Quiet s (exec (convertFile Session.host level settings path root copyInput) s).2) ∨
    ∃ t, Session.Quiet s t ∧ exec (convertFile Session.host level settings path root copyInput) s =
      exec (writeAll Session.host level settings path ((root.filter (· != "")) <|> settings.outputRoot)
        copyInput (filesOf settings path s)) t := by
  obtain ⟨t, hquiet, hrun⟩ := exec_convertFile level settings path root copyInput s
  rw [hrun]
  clear hrun
  unfold filesOf
  cases s.document path with
  | error cause => exact .inl ⟨rfl, hquiet⟩
  | ok d =>
    dsimp only
    cases (convert settings s.now d).result with
    | error cause => exact .inl ⟨rfl, hquiet⟩
    | ok files =>
      cases files with
      | nil => exact .inl ⟨rfl, hquiet⟩
      | cons file rest =>
        right
        exact ⟨t, hquiet, by with_reducible rfl⟩

/-- A file goes to where the directory part of its name leads to, under its own name. -/
theorem place_eq (place : Place) (f : ViewFile) :
    Path.resolve place f.fileName =
      Path.resolve place (Path.directoryPart f.fileName) ++ [Path.baseName f.fileName] := by
  have hlast : (Path.cutLast f.fileName.toList).2 =
      (Path.cutLast f.name.toList).2 ++ ['.', 's', 'w', 'i', 'f', 't'] := by
    have hname : f.fileName.toList = f.name.toList ++ ['.', 's', 'w', 'i', 'f', 't'] := by
      simp [ViewFile.fileName]
    rw [hname, Path.cutLast_behind _ (by decide)]
  rw [Path.resolve_eq, Path.baseName, hlast, Path.stepFrom_of_length (by simp)]

/-- A file lies in a directory itself exactly if the directory part of its name leads back there. -/
theorem place_direct_iff (place : Place) (f : ViewFile) :
    (∃ name, Path.resolve place f.fileName = place ++ [name]) ↔
      Path.resolve place (Path.directoryPart f.fileName) = place := by
  rw [place_eq]
  constructor
  · rintro ⟨name, hname⟩
    exact (List.append_inj' hname rfl).1
  · intro h
    exact ⟨_, by rw [h]⟩

theorem place_of_not_mem (place : Place) {f : ViewFile} (h : '/' ∉ f.name.toList) :
    Path.resolve place f.fileName = place ++ [f.fileName] := by
  have hname : '/' ∉ f.fileName.toList := by simp [ViewFile.fileName, h]
  rw [place_eq, Path.directoryPart, Path.baseName, Path.cutLast_of_not_mem hname, String.ofList_nil,
    Path.resolve_empty, String.ofList_toList]

theorem nodup_names_filesOf (s : Session) : ((filesOf settings path s).map ViewFile.name).Nodup := by
  unfold filesOf
  split
  · exact List.nodup_nil
  · split
    · exact List.nodup_nil
    · rename_i hfiles
      exact names_nodup hfiles

theorem nodup_places {files : List ViewFile} (hnames : (files.map ViewFile.name).Nodup)
    (hslash : ∀ f ∈ files, '/' ∉ f.name.toList) (place : Place) :
    (files.map fun f => Path.resolve place f.fileName).Nodup := by
  have hplaces : (files.map fun f => Path.resolve place f.fileName) =
      (files.map ViewFile.name).map fun name => place ++ [name ++ ".swift"] := by
    rw [List.map_map]
    exact List.map_congr_left fun f hf => place_of_not_mem place (hslash f hf)
  rw [hplaces]
  refine hnames.map fun a b hab => ?_
  simpa using hab

theorem Session.downloads_quiet {s t : Session} (h : s.Quiet t) : t.downloads = s.downloads := by
  obtain ⟨errors, rfl⟩ := h
  rw [Session.downloads, Session.downloads, homeDirectory_session, homeDirectory_session]

theorem Session.hasRoot_quiet (root : Option String) {s t : Session} (h : s.Quiet t) :
    t.HasRoot root ↔ s.HasRoot root := by
  have hdownloads := Session.downloads_quiet h
  obtain ⟨errors, rfl⟩ := h
  rw [Session.HasRoot, Session.HasRoot, hdownloads]
  rfl

theorem outputFolder_quiet {s t : Session} (h : s.Quiet t) :
    outputFolder settings root t = outputFolder settings root s ∧ t.working = s.working := by
  have hdownloads := Session.downloads_quiet h
  obtain ⟨errors, rfl⟩ := h
  refine ⟨?_, rfl⟩
  rw [outputFolder, outputFolder, Session.standardRoot, Session.standardRoot, hdownloads]
  rfl

/-- **Generated files go where their names lead.** Whatever the session, a run changes the disk only by
making directories, by copying the document if that is asked for, and by writing each generated file to
the path of its name, seen from the directory for generated files. If it answers zero, a file is at each
of these places. A file lies in the directory itself exactly if the directory part of its name leads back
there; if no name has a slash, all of them do, each at a place of its own. -/
theorem generated_files_placed (s : Session) :
    let files := filesOf settings path s
    let chosen := (root.filter (· != "")) <|> settings.outputRoot
    let place := generatedPlace settings chosen s
    let run := exec (convertFile Session.host level settings path root copyInput) s
    Session.Extends (MayWrite settings path chosen copyInput files s) s run.2 ∧
    (run.1 = .ok 0 → ∀ f ∈ files, ∃ g ∈ files,
      Path.resolve place g.fileName = Path.resolve place f.fileName ∧
      Tree.entry? run.2.disk (Path.resolve place f.fileName) = some (.file (Text.utf8 g.text))) ∧
    (∀ f ∈ files, (∃ name, Path.resolve place f.fileName = place ++ [name]) ↔
      Path.resolve place (Path.directoryPart f.fileName) = place) ∧
    ((∀ f ∈ files, '/' ∉ f.name.toList) →
      (∀ f ∈ files, Path.resolve place f.fileName = place ++ [f.fileName]) ∧
      (files.map fun f => Path.resolve place f.fileName).Nodup) := by
  intro files chosen place run
  have hdirect : ∀ f ∈ files, (∃ name, Path.resolve place f.fileName = place ++ [name]) ↔
      Path.resolve place (Path.directoryPart f.fileName) = place := fun f _ => place_direct_iff place f
  have hplain : (∀ f ∈ files, '/' ∉ f.name.toList) →
      (∀ f ∈ files, Path.resolve place f.fileName = place ++ [f.fileName]) ∧
      (files.map fun f => Path.resolve place f.fileName).Nodup := fun h =>
    ⟨fun f hf => place_of_not_mem place (h f hf),
      nodup_places (nodup_names_filesOf settings path s) h place⟩
  rcases convertFile_cases level settings path root copyInput s with ⟨hnone, hquiet⟩ | ⟨t, hquiet, hrun⟩
  · refine ⟨hquiet.extends _, fun _ f hf => ?_, hdirect, hplain⟩
    rw [show files = [] from hnone] at hf
    exact absurd hf List.not_mem_nil
  · obtain ⟨hfolder, hworking⟩ := outputFolder_quiet settings chosen hquiet
    have hplace : generatedPlace settings chosen t = place := by
      rw [generatedPlace, hfolder, hworking]
      rfl
    have hwrites := extends_writeAll level settings path chosen copyInput files t
    rw [← hrun] at hwrites
    refine ⟨(hquiet.extends _).trans (hwrites.weaken fun p hp => ?_), fun hcode => ?_, hdirect, hplain⟩
    · rwa [MayWrite, hfolder, hworking, hplace] at hp
    · have hwritten : exec (writeAll Session.host level settings path chosen copyInput files) t =
          (.ok 0, run.2) := by
        rw [← hrun, ← hcode]
      have hentries := writeAll_entries level settings path chosen copyInput files hwritten
      rwa [hplace] at hentries

end

/-- A session in a directory with one file, at a fixed time. -/
def sessionWith (name document : String) : Session where
  disk := ⟨[(["w"], .directory), (["w", name], .file (Text.utf8 document))], []⟩
  working := ["w"]
  environment := []
  time := ⟨2001, 2, 3, 4, 5, 6⟩
  now := 42
  input := []
  output := ""
  errors := []

/-- A session with a document that shows a label. -/
def labelSession : Session :=
  sessionWith "a.xib" "<d><objects><view><subviews><label/></subviews></view></objects></d>"

/-- The one view of a document goes where it belongs. -/
theorem generated_files_placed_label :
    (exec (convertFile Session.host .info Settings.standard "a.xib" (some "out") false)
      labelSession).1 = .ok 0 ∧
    ∃ f ∈ filesOf Settings.standard "a.xib" labelSession, f.name = "GeneratedView1" ∧
      Tree.entry? (exec (convertFile Session.host .info Settings.standard "a.xib" (some "out") false)
        labelSession).2.disk ["w", "out", "StoryboardConverter_2001-02-03_04-05-06",
          "GeneratedSwiftUIFiles", "GeneratedView1.swift"] = some (.file (Text.utf8 f.text)) := by
  have hcode : (exec (convertFile Session.host .info Settings.standard "a.xib" (some "out") false)
      labelSession).1 = .ok 0 := by
    decide +kernel
  have hplace : generatedPlace Settings.standard
      (((some "out").filter (· != "")) <|> Settings.standard.outputRoot) labelSession =
        ["w", "out", "StoryboardConverter_2001-02-03_04-05-06", "GeneratedSwiftUIFiles"] := by
    decide +kernel
  have hnames : (filesOf Settings.standard "a.xib" labelSession).map ViewFile.name =
      ["GeneratedView1"] := by
    decide +kernel
  have hplaced :=
    generated_files_placed .info Settings.standard "a.xib" (some "out") false labelSession
  -- from here on the session is not evaluated any more
  generalize labelSession = s at *
  have hall : ∀ g ∈ filesOf Settings.standard "a.xib" s, g.name = "GeneratedView1" := fun g hg =>
    List.mem_singleton.mp (hnames ▸ List.mem_map_of_mem hg)
  obtain ⟨f, hf, -⟩ := List.mem_map.mp (hnames ▸ List.mem_singleton_self "GeneratedView1")
  simp only [hplace] at hplaced
  obtain ⟨-, hwritten, -, hplain⟩ := hplaced
  have hslash : ∀ g ∈ filesOf Settings.standard "a.xib" s, '/' ∉ g.name.toList := fun g hg => by
    rw [hall g hg]
    decide
  obtain ⟨g, hg, -, hentry⟩ := hwritten hcode f hf
  have hfile : f.fileName = "GeneratedView1.swift" := by
    rw [ViewFile.fileName, hall f hf]
    decide
  rw [(hplain hslash).1 f hf, hfile] at hentry
  exact ⟨hcode, g, hg, hall g hg, hentry⟩

/-- A document with a tab for a view controller of the given class. -/
def tabOfClass (name : String) : String :=
  "<d><scenes><scene><objects><tabBarController>" ++
    "<segue destination='a' relationship='viewControllers'/></tabBarController>" ++
    "<viewController id='a' customClass='" ++ name ++ "'/></objects></scene></scenes></d>"

/-- A class whose name starts with two dots and a slash takes its file out of the directory. -/
theorem generated_file_outside :
    let s := sessionWith "a.xib" (tabOfClass "../Evil")
    let run := exec (convertFile Session.host .info Settings.standard "a.xib" (some "out") false) s
    (filesOf Settings.standard "a.xib" s).map ViewFile.fileName =
      ["../EvilView.swift", "TabContentView.swift"] ∧
    generatedPlace Settings.standard (some "out") s =
      ["w", "out", "StoryboardConverter_2001-02-03_04-05-06", "GeneratedSwiftUIFiles"] ∧
    run.2.disk.entries.map Prod.fst = s.disk.entries.map Prod.fst ++
      [["w", "out"], ["w", "out", "StoryboardConverter_2001-02-03_04-05-06"],
        ["w", "out", "StoryboardConverter_2001-02-03_04-05-06", "GeneratedSwiftUIFiles"],
        ["w", "out", "StoryboardConverter_2001-02-03_04-05-06", "EvilView.swift"],
        ["w", "out", "StoryboardConverter_2001-02-03_04-05-06", "GeneratedSwiftUIFiles",
          "TabContentView.swift"]] := by
  decide +kernel

end Storyboard
