import Storyboard.Proofs.Disk.Changes
import Storyboard.Run.Session
/-!
# What a run does to a session

A run on a session has a result, or a failure that ended it, and leaves a session behind. Step by step it
can only make directories and write files, and the steps of a conversion write files at few places: the
copy at one, and each generated file at one.

* `exec`: a run as a function of the session.
* `Session.Extends`: the same working directory, and a disk on which files were only written where that is
  allowed.
* `Confined`: the runs that write files only at given places, from a given working directory.
* `makeNested_induction`: what holds of each step of making directories holds of making them.
* `confined_copyInto`, `confined_writeFile` and so on: the steps of a conversion.
-/
namespace Storyboard

open Storyboard.Disk
open Storyboard.Swift (ViewFile)

/-- The result of a run on a session, and the session behind it. -/
def exec {α : Type} (x : Run (StateM Session) α) (s : Session) : Except RunFailure α × Session := x.run s

section
variable {α β : Type}

theorem exec_pure (a : α) (s : Session) : exec (pure a) s = (.ok a, s) := rfl

theorem exec_lift (x : StateM Session α) (s : Session) :
    exec (liftM x) s = (.ok (x s).1, (x s).2) := rfl

theorem exec_bind (x : Run (StateM Session) α) (f : α → Run (StateM Session) β) (s : Session) :
    exec (x >>= f) s =
      match exec x s with
      | (.ok a, t) => exec (f a) t
      | (.error e, t) => (.error e, t) := by
  unfold exec ExceptT.run
  simp only [bind, ExceptT.bind, ExceptT.mk, StateT.bind, ExceptT.bindCont]
  cases x s with
  | mk result t => cases result <;> rfl

theorem exec_tryCatch (x : Run (StateM Session) α) (handle : RunFailure → Run (StateM Session) α)
    (s : Session) : exec (tryCatch x handle) s =
      match exec x s with
      | (.ok a, t) => (.ok a, t)
      | (.error e, t) => exec (handle e) t := by
  unfold exec ExceptT.run
  simp only [tryCatch, tryCatchThe, MonadExceptOf.tryCatch, ExceptT.tryCatch, ExceptT.mk, bind, StateT.bind]
  cases x s with
  | mk result t => cases result <;> rfl

/-- A run of two steps succeeds exactly if both steps do. -/
theorem exec_bind_eq_ok {x : Run (StateM Session) α} {f : α → Run (StateM Session) β} {s t : Session}
    {b : β} : exec (x >>= f) s = (.ok b, t) ↔
      ∃ a u, exec x s = (.ok a, u) ∧ exec (f a) u = (.ok b, t) := by
  rw [exec_bind]
  rcases exec x s with ⟨_ | a, u⟩ <;> simp

end

/-! ## Confined runs -/

/-- The second session is the first one after some steps that wrote files at allowed places only. -/
structure Session.Extends (allowed : Place → Prop) (s t : Session) : Prop where
  working : t.working = s.working
  disk : s.disk.Extends allowed t.disk

theorem Session.Extends.refl (allowed : Place → Prop) (s : Session) : Session.Extends allowed s s :=
  ⟨rfl, .refl allowed s.disk⟩

theorem Session.Extends.trans {allowed : Place → Prop} {s t u : Session}
    (hst : Session.Extends allowed s t) (htu : Session.Extends allowed t u) :
    Session.Extends allowed s u :=
  ⟨htu.working.trans hst.working, hst.disk.trans htu.disk⟩

theorem Session.Extends.weaken {allowed wider : Place → Prop} (h : ∀ p, allowed p → wider p)
    {s t : Session} (hst : Session.Extends allowed s t) : Session.Extends wider s t :=
  ⟨hst.working, hst.disk.weaken h⟩

/-- From the working directory `w` the run writes files at allowed places only. -/
def Confined (w : Place) (allowed : Place → Prop) {α : Type} (x : Run (StateM Session) α) : Prop :=
  ∀ s, s.working = w → Session.Extends allowed s (exec x s).2

section
variable {w : Place} {allowed : Place → Prop} {α β : Type}

theorem Confined.extends {x : Run (StateM Session) α} (hx : Confined w allowed x) {s t : Session}
    (hs : s.working = w) {r : Except RunFailure α} (h : exec x s = (r, t)) :
    Session.Extends allowed s t := by
  have hextends := hx s hs
  rwa [h] at hextends

theorem confined_pure (a : α) : Confined w allowed (pure a : Run _ α) := fun s _ => .refl allowed s

theorem confined_throw (e : RunFailure) : Confined w allowed (throw e : Run _ α) := fun s _ =>
  .refl allowed s

/-- A step that changes nothing but what was printed and read. -/
theorem confined_lift {x : StateM Session α}
    (h : ∀ s, (x s).2.working = s.working ∧ (x s).2.disk = s.disk) :
    Confined w allowed (liftM x : Run _ α) := fun s _ => by
  obtain ⟨hworking, hdisk⟩ := h s
  rw [exec_lift]
  exact ⟨hworking, hdisk ▸ .refl allowed s.disk⟩

theorem Confined.bind {x : Run (StateM Session) α} {f : α → Run (StateM Session) β}
    (hx : Confined w allowed x) (hf : ∀ a, Confined w allowed (f a)) : Confined w allowed (x >>= f) := by
  intro s hs
  rw [exec_bind]
  rcases h : exec x s with ⟨_ | a, t⟩
  · exact hx.extends hs h
  · have hfirst := hx.extends hs h
    exact hfirst.trans (hf a t (hfirst.working.trans hs))

theorem Confined.tryCatch {x : Run (StateM Session) α} {handle : RunFailure → Run (StateM Session) α}
    (hx : Confined w allowed x) (hhandle : ∀ e, Confined w allowed (handle e)) :
    Confined w allowed (tryCatch x handle) := by
  intro s hs
  rw [exec_tryCatch]
  rcases h : exec x s with ⟨e | _, t⟩
  · have hfirst := hx.extends hs h
    exact hfirst.trans (hhandle e t (hfirst.working.trans hs))
  · exact hx.extends hs h

/-- A run that may fail at its start. -/
theorem Confined.guarded {c : Prop} [Decidable c] {e : RunFailure}
    {f : PUnit → Run (StateM Session) α} (hf : Confined w allowed (f ⟨⟩)) :
    Confined w allowed (if c then throw e >>= f else f ⟨⟩) := by
  split
  · exact (confined_throw e).bind fun _ => hf
  · exact hf

theorem confined_mapM {f : α → Run (StateM Session) β} {l : List α}
    (h : ∀ a ∈ l, Confined w allowed (f a)) : Confined w allowed (l.mapM f) := by
  induction l with
  | nil => exact confined_pure []
  | cons a rest ih =>
    obtain ⟨ha, hrest⟩ := List.forall_mem_cons.mp h
    rw [List.mapM_cons]
    exact ha.bind fun b => (ih hrest).bind fun bs => confined_pure (b :: bs)

/-! ## The steps of a conversion -/

theorem confined_report (level : Severity) (n : Notice) :
    Confined w allowed (liftM (report Session.host level n) : Run _ Unit) := by
  refine confined_lift fun s => ?_
  unfold report
  split <;> exact ⟨rfl, rfl⟩

theorem confined_kind? (path : String) :
    Confined w allowed (liftM (Session.host.kind? path) : Run _ (Option EntryKind)) :=
  confined_lift fun _ => ⟨rfl, rfl⟩

theorem confined_kindAt? (path : String) :
    Confined w allowed (liftM (kindAt? Session.host path) : Run _ (Option EntryKind)) := by
  refine confined_lift fun s => ?_
  unfold kindAt?
  split <;> exact ⟨rfl, rfl⟩

theorem confined_write {path : String} (content : List UInt8) (h : allowed (Path.resolve w path)) :
    Confined w allowed (liftM (Session.host.write path content) : Run _ (Except Disk.Fault Unit)) := by
  intro s hs
  rw [exec_lift]
  subst hs
  exact ⟨rfl, (s.disk.write_extends s.working path content).weaken fun p hp => hp ▸ h⟩

theorem confined_makeDirectory (path : String) :
    Confined w allowed (liftM (Session.host.makeDirectory path) : Run _ (Except Disk.Fault Unit)) := by
  intro s _
  rw [exec_lift]
  change Session.Extends allowed s (Session.makeDirectory path s).2
  unfold Session.makeDirectory
  cases h : s.disk.makeDirectory s.working path with
  | error fault => exact .refl allowed s
  | ok disk => exact ⟨rfl, Tree.makeDirectory_extends h allowed⟩

theorem confined_makeOneDirectory (path : String) :
    Confined w allowed (makeOneDirectory Session.host path) := by
  refine Confined.guarded ((confined_makeDirectory path).bind fun made => ?_)
  cases made with
  | ok _ => exact confined_pure ()
  | error cause =>
    refine (confined_kind? path).bind fun kind => ?_
    split
    · exact confined_pure ()
    · exact confined_throw _

/-- What holds of making one directory, of doing nothing, of a choice and of two runs one after the
other, holds of making directories. -/
theorem makeNested_induction {P : Run (StateM Session) Unit → Prop} (hnothing : P (pure ()))
    (hchoice : ∀ path x y, P x → P y → P (do
      if (← (kindAt? Session.host path : StateM Session _)).isSome then x else y))
    (hseq : ∀ x y, P x → P y → P (do x; y)) :
    ∀ paths : List String, (∀ path ∈ paths, P (makeOneDirectory Session.host path)) →
      P (makeNested Session.host paths)
  | [], _ => hnothing
  | [path], hone => hone path (List.mem_singleton_self path)
  | path :: parent :: above, hone => by
    obtain ⟨hpath, habove⟩ := List.forall_mem_cons.mp hone
    rw [makeNested]
    refine hchoice parent _ _ hpath (hseq _ _ (makeNested_induction hnothing hchoice hseq _ habove) ?_)
    split
    · exact hpath
    · exact hnothing

theorem confined_makeNested (paths : List String) :
    Confined w allowed (makeNested Session.host paths) := by
  refine makeNested_induction (confined_pure ()) (fun path x y hx hy => ?_) (fun x y hx hy => ?_) paths
    fun path _ => confined_makeOneDirectory path
  · refine (confined_kindAt? path).bind fun kind => ?_
    split
    · exact hx
    · exact hy
  · exact hx.bind fun _ => hy

/-- Making directories writes no file. -/
theorem confined_makeDirectories (path : String) :
    Confined w allowed (makeDirectories Session.host path) := confined_makeNested _

/-- A copy is written where its path leads to. -/
theorem confined_copyInto (path directory : String)
    (h : allowed (Path.resolve w (Path.join directory (Path.baseName path)))) :
    Confined w allowed (copyInto Session.host path directory) := by
  refine Confined.guarded ((confined_lift fun _ => ⟨rfl, rfl⟩).bind fun same => ?_)
  split
  · exact confined_pure _
  refine (confined_lift fun _ => ⟨rfl, rfl⟩).bind fun bytes => ?_
  cases bytes with
  | error cause => exact confined_pure _
  | ok bytes =>
    refine (confined_write bytes h).bind fun written => ?_
    cases written with
    | error cause => exact confined_pure _
    | ok _ => exact confined_pure _

theorem confined_putFile (directory : String) {path : String} (content : List UInt8)
    (h : allowed (Path.resolve w path)) :
    Confined w allowed (putFile Session.host directory path content) := by
  refine (confined_makeDirectories directory).bind fun _ => (confined_write content h).bind fun written => ?_
  cases written with
  | error cause => exact confined_throw _
  | ok _ => exact confined_pure _

/-- A generated file is written where its path leads to. -/
theorem confined_writeFile (level : Severity) (directory : String) (file : ViewFile)
    (h : allowed (Path.resolve w (Path.join directory file.fileName))) :
    Confined w allowed (writeFile Session.host level directory file) := by
  unfold writeFile
  refine Confined.bind (Confined.tryCatch ?_ fun failure => ?_) fun e => ?_
  · exact (confined_putFile directory _ h).bind fun _ => (confined_report level _).bind fun _ =>
      confined_pure _
  · cases failure with
    | disk cause place => exact (confined_report level _).bind fun _ => confined_pure _
    | nulInPath | conversion | endOfInput => exact (confined_throw _).bind fun _ => confined_pure _
  · cases e <;> exact confined_pure _

end

end Storyboard
