import Storyboard.Proofs.Run.StoredFiles
import Storyboard.Run.CommandLine
/-!
# How a run ends

A run on arguments that can be used comes to an exit code unless its path cannot be asked for, its output
folder cannot be made, or a path with a NUL is to be copied. The code is one if there is no document, two
if a generated file cannot be written, and else zero. Neither a document nor a generated file that cannot
be written ends a run in another way.

* `makeFolder_failure`: why a folder cannot be made.
* `Delivers`, `FallsShort`: the conversions that leave all they generate on the disk, and those that do
  not.
* `convertFile_ends`: how a conversion ends.
* `asked`: the path that a run is given, and the session behind the question for it.
* `run_ending`: which runs come to a code, and to which.
-/
namespace Storyboard

open Storyboard.Disk
open Storyboard.Swift (ViewFile)

/-! ## Folders that cannot be made -/

/-- What a path and a disk can do to a run. -/
def RunFailure.IsOfPath (e : RunFailure) : Prop := e = .nulInPath ∨ ∃ cause place, e = .disk cause place

theorem makeOneDirectory_failure {path : String} {s t : Session} {e : RunFailure}
    (h : exec (makeOneDirectory Session.host path) s = (.error e, t)) : e.IsOfPath := by
  rw [exec_makeOneDirectory] at h
  split at h
  · rw [Prod.mk.injEq, Except.error.injEq] at h
    exact .inl h.1.symm
  · split at h
    · cases h
    · split at h
      · cases h
      · rw [Prod.mk.injEq, Except.error.injEq] at h
        exact .inr ⟨_, _, h.1.symm⟩

/-- A run that fails for its paths only. -/
def FailsOfPath {α : Type} (x : Run (StateM Session) α) : Prop :=
  ∀ s e t, exec x s = (.error e, t) → e.IsOfPath

theorem FailsOfPath.bind {α β : Type} {x : Run (StateM Session) α} {f : α → Run (StateM Session) β}
    (hx : FailsOfPath x) (hf : ∀ a, FailsOfPath (f a)) : FailsOfPath (x >>= f) := by
  intro s e t h
  rw [exec_bind] at h
  rcases hrun : exec x s with ⟨failure | a, u⟩
  · rw [hrun, Prod.mk.injEq, Except.error.injEq] at h
    exact h.1 ▸ hx s failure u hrun
  · rw [hrun] at h
    exact hf a u e t h

theorem failsOfPath_lift {α : Type} (x : StateM Session α) :
    FailsOfPath (liftM x : Run (StateM Session) α) := by
  intro s e t h
  rw [exec_lift] at h
  cases h

/-- Why a folder cannot be made. -/
theorem makeFolder_failure {settings : Settings} {root : Option String} {s t : Session}
    {e : RunFailure} (h : exec (makeFolder Session.host settings root) s = (.error e, t)) :
    e.IsOfPath := by
  have hnested : FailsOfPath (makeDirectories Session.host (outputFolder settings root s)) := by
    refine makeNested_induction (failsOfPath_lift (pure ())) (fun path x y hx hy => ?_)
      (fun x y hx hy => hx.bind fun _ => hy) _ fun q _ s e t h => makeOneDirectory_failure h
    refine (failsOfPath_lift _).bind fun kind => ?_
    split
    · exact hx
    · exact hy
  rw [exec_makeFolder] at h
  split at h
  · exact hnested.bind (fun _ => failsOfPath_lift (pure _)) s e t h
  · rw [Prod.mk.injEq, Except.error.injEq] at h
    exact .inr ⟨_, _, h.1.symm⟩

/-! ## Conversions -/

/-- A conversion as a run of its own. -/
def Ending.of : Except RunFailure Nat → Ending
  | .ok code => .finished code
  | .error cause => .failed cause

theorem filesOf_of_error (settings : Settings) {path : String} {s : Session} {cause : ReadFailure}
    (h : s.document path = .error cause) : filesOf settings path s = [] := by
  unfold filesOf
  rw [h]

section
variable (settings : Settings) (path : String) (root : Option String) (copyInput : Bool) (s : Session)

/-- A folder can be made and filled: its path can be made, and a path that is to be copied has no NUL. -/
def CanFill : Prop := CanMakeFolder settings root s ∧ (copyInput = true → Path.hasNul path = false)

instance : Decidable (CanFill settings path root copyInput s) := inferInstanceAs (Decidable (_ ∧ _))

/-- The disk with all that a conversion has to write; none if a generated file cannot be stored. -/
def delivered? : Option Tree :=
  filled? settings path copyInput (filesOf settings path s) (outputFolder settings root s)
    (s.withDisk (folderDisk settings root s))

/-- A conversion has nothing to write and leaves the disk as it is, or it leaves all that it has to write
on the disk. -/
def Delivers (disk : Tree) : Prop :=
  filesOf settings path s = [] ∧ (∃ d, s.document path = .ok d) ∧ disk = s.disk ∨
    filesOf settings path s ≠ [] ∧ CanFill settings path root copyInput s ∧
      delivered? settings path root copyInput s = some disk

/-- A conversion has files to write and a folder for them, and cannot store one of them. -/
def FallsShort : Prop :=
  filesOf settings path s ≠ [] ∧ CanFill settings path root copyInput s ∧
    delivered? settings path root copyInput s = none

instance : Decidable (FallsShort settings path root copyInput s) :=
  inferInstanceAs (Decidable (_ ∧ _ ∧ _))

/-- A conversion can come to its end: there is nothing to write, or a folder can be made and filled. -/
def CanEnd : Prop := filesOf settings path s = [] ∨ CanFill settings path root copyInput s

/-- How a conversion ends, and the disk that it leaves. -/
structure Ends (ending : Ending) (disk : Tree) : Prop where
  zero : ∀ delivered, ending = .finished 0 ∧ disk = delivered ↔
    Delivers settings path root copyInput s delivered
  one : ending = .finished 1 ↔ ∃ cause, s.document path = .error cause
  two : ending = .finished 2 ↔ FallsShort settings path root copyInput s
  code : (∃ code, ending = .finished code) ↔ CanEnd settings path root copyInput s
  bound : ∀ code, ending = .finished code → code ≤ 2
  failure : ∀ cause, ending = .failed cause → cause.IsOfPath
  untouched : filesOf settings path s = [] → disk = s.disk

end

section
variable {settings : Settings} {path : String} {root : Option String} {copyInput : Bool}
  {s t : Session} {files : List ViewFile}

/-- Reports do not matter to what a folder is filled with. -/
theorem filled?_quiet (h : s.Quiet t) (folder : String) (disk : Tree) :
    filled? settings path copyInput files folder (t.withDisk disk) =
      filled? settings path copyInput files folder (s.withDisk disk) := by
  obtain ⟨_, rfl⟩ := h
  rfl

/-- A folder that can be made is made and filled. -/
theorem exec_writeAll_of_canFill (level : Severity) (hname : Path.IsName settings.generatedDirectory)
    (hnul : Path.hasNul settings.generatedDirectory = false)
    (hfill : CanFill settings path root copyInput s) (hquiet : s.Quiet t) :
    ∃ code u, exec (writeAll Session.host level settings path root copyInput
        (filesOf settings path s)) t = (.ok code, u) ∧
      (code = 0 ∨ code = 2) ∧
      ∀ disk, delivered? settings path root copyInput s = some disk ↔ code = 0 ∧ u.disk = disk := by
  obtain ⟨hfolder, -⟩ := outputFolder_quiet settings root hquiet
  obtain ⟨hcan, hdisk⟩ := canMakeFolder_quiet settings root hquiet
  have hcan := hcan.mpr hfill.1
  rw [exec_writeAll, exec_makeFolder_eq_ok.mpr ⟨hcan, rfl, rfl⟩]
  dsimp only
  rw [delivered?, ← filled?_quiet hquiet, ← hfolder, ← hdisk]
  exact exec_fillFolder_stored level hcan.usable hname hnul hfill.2

/-- A folder that cannot be made and filled ends a run. -/
theorem exec_writeAll_of_not_canFill (level : Severity) (files : List ViewFile)
    (hfill : ¬CanFill settings path root copyInput s) (hquiet : s.Quiet t) :
    ∃ e, (exec (writeAll Session.host level settings path root copyInput files) t).1 = .error e ∧
      e.IsOfPath := by
  rw [exec_writeAll]
  rcases hrun : exec (makeFolder Session.host settings root) t with ⟨e | folder, u⟩
  · exact ⟨e, rfl, makeFolder_failure hrun⟩
  · have hcan := (canMakeFolder_quiet settings root hquiet).1.mp (exec_makeFolder_eq_ok.mp hrun).1
    have hcopy : copyInput = true ∧ Path.hasNul path = true := by
      by_contra hfine
      refine hfill ⟨hcan, fun hcopy => ?_⟩
      simpa [hcopy] using hfine
    obtain ⟨rfl, hnul⟩ := hcopy
    exact ⟨.nulInPath, exec_fillFolder_nul level hnul, .inl rfl⟩

/-- What is done for generated files ends as a conversion does. -/
theorem writeAll_ends (level : Severity) (hname : Path.IsName settings.generatedDirectory)
    (hnul : Path.hasNul settings.generatedDirectory = false) {d : Markup.Document}
    (hd : s.document path = .ok d) (hsome : filesOf settings path s ≠ []) (hquiet : s.Quiet t) :
    let run := exec (writeAll Session.host level settings path root copyInput (filesOf settings path s)) t
    Ends settings path root copyInput s (.of run.1) run.2.disk := by
  by_cases hfill : CanFill settings path root copyInput s
  · obtain ⟨code, u, hwritten, hcode, hdelivered⟩ :=
      exec_writeAll_of_canFill level hname hnul hfill hquiet
    have hnone : delivered? settings path root copyInput s = none ↔ code = 2 := by
      rw [Option.eq_none_iff_forall_ne_some]
      rcases hcode with rfl | rfl
      · exact iff_of_false (fun h => h u.disk ((hdelivered u.disk).mpr ⟨rfl, rfl⟩)) (by decide)
      · exact iff_of_true (fun disk h => absurd ((hdelivered disk).mp h).1 (by decide)) rfl
    rw [hwritten]
    refine ⟨fun disk => ?_, ?_, ?_, ?_, ?_, by simp [Ending.of], fun hnone => absurd hnone hsome⟩
    · simp [Ending.of, Delivers, hsome, hfill, hdelivered]
    · rcases hcode with rfl | rfl <;> simp [Ending.of, hd]
    · simp [Ending.of, FallsShort, hsome, hfill, hnone]
    · exact iff_of_true ⟨code, rfl⟩ (.inr hfill)
    · rcases hcode with rfl | rfl <;> simp [Ending.of]
  · obtain ⟨e, hfailed, hofPath⟩ :=
      exec_writeAll_of_not_canFill level (filesOf settings path s) hfill hquiet
    dsimp only
    rw [hfailed]
    refine ⟨fun disk => ?_, ?_, ?_, ?_, ?_, ?_, fun hnone => absurd hnone hsome⟩
    · simp [Ending.of, Delivers, hsome, hfill]
    · simp [Ending.of, hd]
    · simp [Ending.of, FallsShort, hfill]
    · simp [Ending.of, CanEnd, hsome, hfill]
    · simp [Ending.of]
    · simpa [Ending.of] using hofPath

/-- Without a document a conversion ends at once. -/
theorem ends_of_error {cause : ReadFailure} (h : s.document path = .error cause) :
    Ends settings path root copyInput s (.finished 1) s.disk := by
  have hnone := filesOf_of_error settings h
  constructor <;> simp [Delivers, FallsShort, CanEnd, h, hnone]

/-- **A conversion** comes to a code exactly if it can end: to one if there is no document, to zero if it
delivers, and to two if it falls short. Otherwise it fails for a path. -/
theorem convertFile_ends (level : Severity) (hfinite : settings.hasFinitePadding = true)
    (hname : Path.IsName settings.generatedDirectory)
    (hnul : Path.hasNul settings.generatedDirectory = false) (path : String) (root : Option String)
    (copyInput : Bool) (s : Session) :
    let run := exec (convertFile Session.host level settings path root copyInput) s
    Ends settings path ((root.filter (· != "")) <|> settings.outputRoot) copyInput s (.of run.1)
      run.2.disk := by
  obtain ⟨t, hquiet, hcases⟩ := exec_convertFile_cases level root copyInput hfinite path s
  have hdisk : t.disk = s.disk := hquiet.disk_eq
  rcases hcases with ⟨⟨cause, hfault⟩, -, hrun⟩ | ⟨⟨d, hd⟩, hnone, hrun⟩ | ⟨⟨d, hd⟩, hsome, hrun⟩
  · rw [hrun]
    dsimp only
    rw [hdisk]
    exact ends_of_error hfault
  · rw [hrun]
    dsimp only
    rw [hdisk]
    constructor <;> simp [Ending.of, Delivers, FallsShort, CanEnd, hd, hnone, eq_comm]
  · rw [hrun]
    exact writeAll_ends level hname hnul hd hsome hquiet

end

/-! ## Runs -/

/-- The path that a run is given, or why there is none, and the session behind the question for it. -/
def asked (o : Options) (s : Session) : Except RunFailure String × Session :=
  match o.input.filter (· != "") with
  | some path => (.ok path, s)
  | none =>
    match Session.print promptText s with
    | (.error cause, t) => (.error (.disk cause none), t)
    | (.ok _, t) =>
      match Session.line? t with
      | (.ok (some line), u) => (.ok (String.ofList (Text.trim line.toList)), u)
      | (.ok none, u) => (.error .endOfInput, u)
      | (.error cause, u) => (.error (.disk cause none), u)

/-- The least severity that a run reports. -/
def levelOf (o : Options) : Severity := if o.verbose then .debug else .info

/-- The settings of a run on a session. -/
def Session.settingsFor (o : Options) (s : Session) : Settings :=
  settingsOf (s.environment.lookup Settings.rootVariable) o

/-- The end of a run that was given a path. -/
def ending (o : Options) : Except RunFailure String × Session → Except RunFailure Nat × Session
  | (.error cause, t) => (.error cause, t)
  | (.ok path, t) =>
    if path.isEmpty then (.ok 1, t.reported (levelOf o) .noFileSelected)
    else exec (convertFile Session.host (levelOf o) (t.settingsFor o) path o.out (!o.noCopy)) t

theorem exec_askPath {o : Options} (h : o.input.filter (· != "") = none) (s : Session) :
    exec (askPath Session.host) s = asked o s := by
  have hprint : Session.host.print promptText s = Session.print promptText s := rfl
  have hline : ∀ t, Session.host.line? t = Session.line? t := fun _ => rfl
  rw [askPath, exec_bind, exec_lift, hprint, asked, h]
  dsimp only
  rcases Session.print promptText s with ⟨cause | _, t⟩
  · rfl
  · dsimp only
    rw [exec_bind, exec_lift, hline]
    rcases Session.line? t with ⟨cause | _ | line, u⟩ <;> rfl

theorem exec_convertAsAsked (o : Options) (s : Session) :
    exec (convertAsAsked Session.host o) s = ending o (asked o s) := by
  have henvironment : ∀ t, Session.host.environment? Settings.rootVariable t =
      (t.environment.lookup Settings.rootVariable, t) := fun _ => rfl
  -- what follows the question does not depend on whether it was asked
  have hgiven : ∀ path t, exec (do
      if path.isEmpty then
        (report Session.host (levelOf o) .noFileSelected : StateM Session Unit)
        return 1
      else
        let root ← (Session.host.environment? Settings.rootVariable : StateM Session _)
        convertFile Session.host (levelOf o) (settingsOf root o) path o.out (!o.noCopy)) t =
      ending o (.ok path, t) := fun path t => by
    rw [ending]
    split
    · rw [exec_bind, exec_report]
      rfl
    · rw [exec_bind, exec_lift, henvironment]
      rfl
  unfold convertAsAsked
  cases hinput : o.input.filter (· != "") with
  | some path =>
    rw [asked, hinput]
    exact hgiven path s
  | none =>
    dsimp only
    rw [exec_bind, exec_askPath hinput]
    rcases asked o s with ⟨_ | path, t⟩
    · rfl
    · exact hgiven path t

theorem settingsFor_standard (o : Options) (s : Session) :
    (s.settingsFor o).hasFinitePadding = true ∧
      (s.settingsFor o).generatedDirectory = Settings.standard.generatedDirectory := by
  have hfinite : Settings.standard.hasFinitePadding = true := by decide +kernel
  unfold Session.settingsFor settingsOf
  dsimp only
  split <;> exact ⟨hfinite, rfl⟩

/-- Where output folders of a run go, if that is settled. -/
def Session.rootFor (o : Options) (s : Session) : Option String :=
  (o.out.filter (· != "")) <|> (s.settingsFor o).outputRoot

/-- No path leads from nothing to a document. -/
theorem document_empty (s : Session) : s.document "" = .error (.unopened .missing) := by
  have haddress : Path.ofAddress "" = "" := by decide
  rw [Session.document, haddress]
  rfl

/-- A run that was given a path ends as the conversion of the file there. -/
theorem ending_ends (o : Options) (path : String) (s : Session) :
    Ends (s.settingsFor o) path (s.rootFor o) (!o.noCopy) s (.of (ending o (.ok path, s)).1)
      (ending o (.ok path, s)).2.disk := by
  rw [ending]
  by_cases hpath : path = ""
  · subst hpath
    rw [if_pos (by simp), Session.disk_reported]
    exact ends_of_error (document_empty s)
  · obtain ⟨hfinite, hdirectory⟩ := settingsFor_standard o s
    obtain ⟨hname, hnul⟩ := isName_generatedDirectory
    rw [← hdirectory] at hname hnul
    rw [if_neg (by simpa using hpath)]
    exact convertFile_ends (levelOf o) hfinite hname hnul path o.out (!o.noCopy) s

theorem run_eq {arguments : List String} {o : Options}
    (h : Request.ofArguments arguments = .ok (.convert o)) (s : Session) :
    run Session.host arguments s =
      (.of (ending o (asked o s)).1, (ending o (asked o s)).2) := by
  rw [← exec_convertAsAsked, run, h]
  dsimp only
  rw [stateM_bind, exec]
  rcases (convertAsAsked Session.host o).run s with ⟨_ | _, t⟩ <;> rfl

/-- What can stand in the way of asking for a path. -/
inductive RunFailure.IsOfAsking : RunFailure → Prop where
  | endOfInput : IsOfAsking .endOfInput
  | system (cause : Fault) : IsOfAsking (.disk cause none)

/-- Asking for a path leaves the disk as it is, and fails for what is read from or written to. -/
theorem asked_cases (o : Options) (s : Session) : (asked o s).2.disk = s.disk ∧
    ∀ cause, (asked o s).1 = .error cause → cause.IsOfAsking := by
  unfold asked
  cases o.input.filter (· != "") with
  | some path => exact ⟨rfl, nofun⟩
  | none =>
    unfold Session.print
    cases s.outputFault with
    | some fault => exact ⟨rfl, fun _ h => Except.error.inj h ▸ .system fault⟩
    | none =>
      dsimp only
      unfold Session.line?
      cases s.inputFault with
      | some fault => exact ⟨rfl, fun _ h => Except.error.inj h ▸ .system fault⟩
      | none =>
        dsimp only
        rcases Session.takeLine s.input with _ | ⟨line, input⟩
        · exact ⟨rfl, fun _ h => Except.error.inj h ▸ .endOfInput⟩
        · exact ⟨rfl, nofun⟩

/-- The options of a run on a file, and perhaps with a place for its folder. -/
def optionsFor (path : String) (out : Option String) : Options := { Options.none with input := some path, out }

end Storyboard
