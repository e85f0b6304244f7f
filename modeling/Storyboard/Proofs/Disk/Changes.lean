import Storyboard.Proofs.Disk.Places
/-!
# What happens to a disk

Directories are made where nothing is yet, and files are written anywhere but over a directory; nothing
else happens to a disk. So of all the operations of a run it is enough to say where files may be written.

* `Change`, `Tree.Extends`: what may become of one place, and of a disk.
* `Tree.Grows`: a disk to which only directories were added, at given places.
* `Tree.write_cases`, `Tree.makeDirectory_grows`: the two operations.
* `Tree.write_entry`: a file that is written without a fault is there.
-/
namespace Storyboard.Disk

/-- What may become of an entry: nothing, a directory where nothing was, or a file, if that is
allowed. -/
inductive Change (allowed : Prop) : Option Entry → Option Entry → Prop
  | same (e : Option Entry) : Change allowed e e
  | made : Change allowed none (some .directory)
  | written (content : List UInt8) {old : Option Entry} (hallowed : allowed)
      (hold : old ≠ some .directory) : Change allowed old (some (.file content))

theorem Change.trans {allowed : Prop} {a b c : Option Entry} (hab : Change allowed a b)
    (hbc : Change allowed b c) : Change allowed a c := by
  cases hab with
  | same => exact hbc
  | made =>
    cases hbc with
    | same => exact .made
    | written _ _ hold => exact absurd rfl hold
  | written content hallowed hold =>
    cases hbc with
    | same => exact .written content hallowed hold
    | written content' _ _ => exact .written content' hallowed hold

theorem Change.weaken {p q : Prop} (hpq : p → q) {a b : Option Entry} (h : Change p a b) :
    Change q a b := by
  cases h with
  | same => exact .same _
  | made => exact .made
  | written content hp hold => exact .written content (hpq hp) hold

theorem Change.cases_on {allowed : Prop} {a b : Option Entry} (h : Change allowed a b) :
    b = a ∨ (a = none ∧ b = some .directory) ∨
      (allowed ∧ a ≠ some .directory ∧ ∃ content, b = some (.file content)) := by
  cases h with
  | same => exact .inl rfl
  | made => exact .inr (.inl ⟨rfl, rfl⟩)
  | written content hallowed hold => exact .inr (.inr ⟨hallowed, hold, content, rfl⟩)

/-- A file stays as it is where none may be written. -/
theorem Change.file_eq {allowed : Prop} {content : List UInt8} {b : Option Entry}
    (h : Change allowed (some (.file content)) b) (hallowed : ¬allowed) : b = some (.file content) := by
  cases h with
  | same => rfl
  | written _ hp _ => exact absurd hp hallowed

namespace Tree

/-- The second disk is the first one with new directories, and with files at allowed places. -/
structure Extends (allowed : Place → Prop) (t u : Tree) : Prop where
  faulty : u.faulty = t.faulty
  entries : ∀ p, Change (allowed p) (t.entry? p) (u.entry? p)

theorem Extends.refl (allowed : Place → Prop) (t : Tree) : Extends allowed t t := ⟨rfl, fun _ => .same _⟩

theorem Extends.trans {allowed : Place → Prop} {t u v : Tree} (htu : Extends allowed t u)
    (huv : Extends allowed u v) : Extends allowed t v :=
  ⟨huv.faulty.trans htu.faulty, fun p => (htu.entries p).trans (huv.entries p)⟩

theorem Extends.weaken {allowed wider : Place → Prop} (h : ∀ p, allowed p → wider p) {t u : Tree}
    (htu : Extends allowed t u) : Extends wider t u :=
  ⟨htu.faulty, fun p => (htu.entries p).weaken (h p)⟩

section
variable {made : Place → Prop} {t u v : Tree}

/-- The second disk is the first one with new directories, each at one of some places. -/
structure Grows (made : Place → Prop) (t u : Tree) : Prop where
  faulty : u.faulty = t.faulty
  entries : ∀ p, u.entry? p = t.entry? p ∨
    made p ∧ t.entry? p = none ∧ u.entry? p = some .directory

theorem Grows.refl (made : Place → Prop) (t : Tree) : Grows made t t := ⟨rfl, fun _ => .inl rfl⟩

theorem Grows.trans (htu : Grows made t u) (huv : Grows made u v) : Grows made t v := by
  refine ⟨huv.faulty.trans htu.faulty, fun p => ?_⟩
  rcases htu.entries p with hsame | ⟨hmade, hnone, hdirectory⟩
  · rw [← hsame]
    exact huv.entries p
  · rcases huv.entries p with hsame | ⟨-, hmissing, -⟩
    · exact .inr ⟨hmade, hnone, hsame.trans hdirectory⟩
    · rw [hdirectory] at hmissing
      cases hmissing

theorem Grows.weaken {wider : Place → Prop} (h : ∀ p, made p → wider p) (htu : Grows made t u) :
    Grows wider t u :=
  ⟨htu.faulty, fun p => (htu.entries p).imp_right fun ⟨hmade, hentries⟩ => ⟨h p hmade, hentries⟩⟩

theorem Grows.extends (h : Grows made t u) (allowed : Place → Prop) : Extends allowed t u := by
  refine ⟨h.faulty, fun p => ?_⟩
  rcases h.entries p with hsame | ⟨-, hnone, hdirectory⟩
  · rw [hsame]
    exact .same _
  · rw [hnone, hdirectory]
    exact .made

/-- What was there stays as it is. -/
theorem Grows.entry_eq (h : Grows made t u) {p : Place} (hp : t.entry? p ≠ none) :
    u.entry? p = t.entry? p :=
  (h.entries p).resolve_right fun ⟨_, hnone, _⟩ => hp hnone

end

/-! ## The operations -/

theorem lookup_cons (p place : Place) (e : Entry) (rest : List (Place × Entry)) :
    ((place, e) :: rest).lookup p = if p = place then some e else rest.lookup p := by
  by_cases h : p = place
  · simp [h]
  · rw [List.lookup_cons, beq_false_of_ne h, if_neg h]

theorem lookup_replaced (entries : List (Place × Entry)) (place : Place) (e : Entry) (p : Place) :
    (entries.map fun old => if old.1 = place then (place, e) else old).lookup p =
      if p = place then (entries.lookup place).map fun _ => e else entries.lookup p := by
  induction entries with
  | nil => simp
  | cons old rest ih =>
    obtain ⟨q, old⟩ := old
    rw [List.map_cons, lookup_cons, lookup_cons]
    by_cases hq : q = place
    · rw [if_pos hq, lookup_cons, ih, hq]
      by_cases hp : p = place <;> simp [hp]
    · rw [if_neg hq, lookup_cons, ih, if_neg (Ne.symm hq)]
      by_cases hp : p = place
      · rw [if_pos hp, if_pos hp, if_neg fun h => hq (h.symm.trans hp)]
      · rw [if_neg hp, if_neg hp]

theorem put_entry (t : Tree) {place : Place} (hplace : place ≠ []) (e : Entry) (p : Place) :
    Tree.entry? (t.put place e) p = if p = place then some e else t.entry? p := by
  unfold put entry?
  by_cases htop : p = []
  · rw [if_pos htop, if_pos htop, if_neg (htop ▸ Ne.symm hplace)]
  rw [if_neg htop, if_neg htop]
  split
  · rename_i hthere
    obtain ⟨old, hold⟩ := Option.isSome_iff_exists.mp hthere
    rw [lookup_replaced, hold, Option.map_some]
  · rename_i hnone
    have hnone : t.entries.lookup place = none := Option.not_isSome_iff_eq_none.mp hnone
    rw [List.lookup_append, lookup_cons]
    by_cases hp : p = place
    · simp [hp, hnone]
    · simp [hp]

theorem faulty_put (t : Tree) (place : Place) (e : Entry) : (t.put place e).faulty = t.faulty := by
  unfold put
  split <;> rfl

/-- Nothing but a directory is at the top. -/
theorem ne_nil_of_entry {t : Tree} {place : Place} (h : t.entry? place ≠ some .directory) :
    place ≠ [] := by
  rintro rfl
  exact h rfl

theorem put_extends {allowed : Place → Prop} (t : Tree) {place : Place} {e : Entry}
    (hplace : place ≠ []) (h : Change (allowed place) (t.entry? place) (some e)) :
    Extends allowed t (t.put place e) := by
  refine ⟨faulty_put t place e, fun p => ?_⟩
  rw [put_entry t hplace]
  split
  · rename_i hp
    exact hp ▸ h
  · exact .same _

/-- A file can be opened for writing where a path leads to. -/
def Opens (t : Tree) (working : Place) (path : String) : Prop :=
  t.locate working path = .ok ⟨Path.resolve working path, false⟩ ∧
    t.entry? (Path.resolve working path) ≠ some .directory

instance (t : Tree) (working : Place) (path : String) : Decidable (Opens t working path) :=
  inferInstanceAs (Decidable (_ ∧ _))

/-- A file that cannot be opened is not written; of one that can, the content is lost if its place is
faulty. -/
theorem write_cases (t : Tree) (working : Place) (path : String) (content : List UInt8) :
    (¬Opens t working path ∧ ∃ fault, t.write working path content = (.error fault, t)) ∨
    Opens t working path ∧
      ((Path.resolve working path ∈ t.faulty ∧ t.write working path content =
          (.error .inputOutput, t.put (Path.resolve working path) (.file []))) ∨
        (Path.resolve working path ∉ t.faulty ∧ t.write working path content =
          (.ok (), t.put (Path.resolve working path) (.file content)))) := by
  unfold write Opens
  cases hlocate : t.locate working path with
  | error fault => exact .inl ⟨by simp, fault, rfl⟩
  | ok target =>
    obtain ⟨place, slashed⟩ := target
    rw [← locate_place hlocate]
    dsimp only
    split
    · rename_i hdirectory
      exact .inl ⟨fun h => h.2 hdirectory, _, rfl⟩
    · exact .inl ⟨by simp, _, rfl⟩
    · exact .inl ⟨by simp, _, rfl⟩
    · rename_i hdirectory
      refine .inr ⟨⟨rfl, hdirectory⟩, ?_⟩
      split
      · rename_i hfaulty
        exact .inl ⟨List.contains_iff_mem.mp hfaulty, rfl⟩
      · rename_i hfaulty
        exact .inr ⟨mt List.contains_iff_mem.mpr hfaulty, rfl⟩

theorem write_extends (t : Tree) (working : Place) (path : String) (content : List UInt8) :
    Extends (· = Path.resolve working path) t (t.write working path content).2 := by
  rcases t.write_cases working path content with
    ⟨-, fault, h⟩ | ⟨⟨-, hold⟩, ⟨-, h⟩ | ⟨-, h⟩⟩
  · rw [h]
    exact .refl _ t
  · rw [h]
    exact t.put_extends (ne_nil_of_entry hold) (.written [] rfl hold)
  · rw [h]
    exact t.put_extends (ne_nil_of_entry hold) (.written content rfl hold)

/-- A file that is written without a fault is there. -/
theorem write_entry {t : Tree} {working : Place} {path : String} {content : List UInt8}
    (h : (t.write working path content).1 = .ok ()) :
    Tree.entry? (t.write working path content).2 (Path.resolve working path) = some (.file content) := by
  rcases t.write_cases working path content with
    ⟨-, fault, hw⟩ | ⟨⟨-, hold⟩, ⟨-, hw⟩ | ⟨-, hw⟩⟩
  · simp [hw] at h
  · simp [hw] at h
  · rw [hw, put_entry t (ne_nil_of_entry hold), if_pos rfl]

theorem makeDirectory_eq_ok {t u : Tree} {working : Place} {path : String} :
    t.makeDirectory working path = .ok u ↔ ∃ target, t.locate working path = .ok target ∧
      t.entry? target.place = none ∧ u = t.put target.place .directory := by
  unfold makeDirectory
  cases t.locate working path with
  | error fault => simp [bind, Except.bind]
  | ok target =>
    cases hentry : t.entry? target.place with
    | none => simp [hentry, bind, Except.bind, pure, Except.pure, eq_comm]
    | some e => simp [hentry, bind, Except.bind, throw, throwThe, MonadExceptOf.throw]

theorem makeDirectory_grows {t u : Tree} {working : Place} {path : String}
    (h : t.makeDirectory working path = .ok u) : Grows (· = Path.resolve working path) t u := by
  obtain ⟨target, hlocate, hnone, rfl⟩ := makeDirectory_eq_ok.mp h
  have hplace : target.place ≠ [] := ne_nil_of_entry (t := t) (by simp [hnone])
  refine ⟨faulty_put t _ _, fun p => ?_⟩
  rw [put_entry t hplace]
  split
  · rename_i hp
    rw [hp]
    exact .inr ⟨locate_place hlocate, hnone, rfl⟩
  · exact .inl rfl

theorem makeDirectory_extends {t u : Tree} {working : Place} {path : String}
    (h : t.makeDirectory working path = .ok u) (allowed : Place → Prop) : Extends allowed t u :=
  (makeDirectory_grows h).extends allowed

end Tree

end Storyboard.Disk
