import Mathlib.Data.List.Forall2
import Storyboard.Conversion.Logged
/-!
# Outcomes of sequenced steps

Steps are sequenced in two monads: `Except`, for what can fail, and `Logged`, which collects notices
as well. A sequence has a result exactly if each of its steps has one. The equivalences below take a
sequence apart into its steps.
-/
namespace Storyboard

section Except

variable {ε α β : Type}

theorem bind_eq_ok {x : Except ε α} {f : α → Except ε β} {b : β} :
    x >>= f = .ok b ↔ ∃ a, x = .ok a ∧ f a = .ok b := by
  cases x with
  | error e => simp [bind, Except.bind]
  | ok a => simp [bind, Except.bind]

theorem pure_eq_ok {a b : α} : (pure a : Except ε α) = .ok b ↔ a = b := by
  simp [pure, Except.pure]

theorem map_eq_ok {x : Except ε α} {f : α → β} {b : β} :
    f <$> x = .ok b ↔ ∃ a, x = .ok a ∧ f a = b := by
  cases x with
  | error e => simp [Functor.map, Except.map]
  | ok a => simp [Functor.map, Except.map]

/-- Renaming the error leaves a result as it is. -/
theorem mapError_eq_ok {ε' : Type} {x : Except ε α} {rename : ε → ε'} {a : α} :
    x.mapError rename = .ok a ↔ x = .ok a := by
  cases x with
  | error e => simp [Except.mapError]
  | ok b => simp [Except.mapError]

/-- What stands on the right of a pairing has a partner on the left. -/
theorem exists_left_of_forall₂ {R : α → β → Prop} {as : List α} {bs : List β}
    (h : List.Forall₂ R as bs) {b : β} (hb : b ∈ bs) : ∃ a ∈ as, R a b := by
  induction h with
  | nil => cases hb
  | cons hab _ ih =>
    rcases List.mem_cons.mp hb with rfl | hb
    · exact ⟨_, List.mem_cons_self, hab⟩
    · obtain ⟨a, ha, hr⟩ := ih hb
      exact ⟨a, List.mem_cons_of_mem _ ha, hr⟩

/-- A step done for each item has a list of results, item by item. -/
theorem mapM_eq_ok {f : α → Except ε β} {l : List α} {bs : List β} :
    l.mapM f = .ok bs ↔ List.Forall₂ (fun a b => f a = .ok b) l bs := by
  induction l generalizing bs with
  | nil => simp [pure, Except.pure, eq_comm]
  | cons a rest ih =>
    simp only [List.mapM_cons, bind_eq_ok, pure_eq_ok, ih, List.forall₂_cons_left_iff]
    constructor
    · rintro ⟨b, hb, cs, hcs, rfl⟩; exact ⟨b, cs, hb, hcs, rfl⟩
    · rintro ⟨b, cs, hb, hcs, rfl⟩; exact ⟨b, hb, cs, hcs, rfl⟩

theorem mapM_congr {f g : α → Except ε β} {l : List α} (h : ∀ a ∈ l, f a = g a) :
    l.mapM f = l.mapM g := by
  induction l with
  | nil => rfl
  | cons a rest ih =>
    obtain ⟨ha, hrest⟩ := List.forall_mem_cons.mp h
    rw [List.mapM_cons, List.mapM_cons, ha, ih hrest]

/-- If each item has a result with a property, the step can be done for all. -/
theorem exists_mapM {f : α → Except ε β} {P : β → Prop} {l : List α}
    (h : ∀ a ∈ l, ∃ b, f a = .ok b ∧ P b) : ∃ bs, l.mapM f = .ok bs ∧ ∀ b ∈ bs, P b := by
  induction l with
  | nil => exact ⟨[], rfl, by simp⟩
  | cons a rest ih =>
    obtain ⟨⟨b, hb, hP⟩, hrest⟩ := List.forall_mem_cons.mp h
    obtain ⟨bs, hbs, hall⟩ := ih hrest
    refine ⟨b :: bs, ?_, List.forall_mem_cons.mpr ⟨hP, hall⟩⟩
    simp only [List.mapM_cons, bind_eq_ok, pure_eq_ok]
    exact ⟨b, hb, bs, hbs, rfl⟩

end Except

namespace Logged

variable {α β : Type}

/-- Notices have no part in a result. -/
theorem bind_result (x : Logged α) (f : α → Logged β) :
    (x >>= f).result = x.result >>= fun a => (f a).result := by
  change (Logged.bind x f).result = _
  unfold Logged.bind
  cases h : x.result <;> rfl

theorem bind_result_eq_ok {x : Logged α} {f : α → Logged β} {b : β} :
    (x >>= f).result = .ok b ↔ ∃ a, x.result = .ok a ∧ (f a).result = .ok b := by
  rw [bind_result, bind_eq_ok]

theorem pure_result_eq_ok {a b : α} : (Pure.pure a : Logged α).result = .ok b ↔ a = b := by
  simp [Pure.pure, Logged.pure]

theorem lift_result (x : Except Failure α) : (lift x).result = x := rfl

instance : LawfulMonad Logged := .mk' Logged
  (fun x => by
    obtain ⟨notices, result⟩ := x
    change Logged.bind _ _ = _
    cases result <;> simp [Logged.bind, Logged.pure])
  (fun a f => by
    change Logged.bind _ _ = _
    simp [Pure.pure, Logged.bind, Logged.pure])
  (fun x f g => by
    obtain ⟨notices, result⟩ := x
    change Logged.bind (Logged.bind _ _) _ = Logged.bind _ fun _ => Logged.bind _ _
    cases result with
    | error failure => rfl
    | ok a => cases hf : (f a).result <;> simp [Logged.bind, hf])

/-- A step with a result can be followed by one that has a result. -/
theorem exists_bind {x : Logged α} {f : α → Logged β} {a : α} (hx : x.result = .ok a)
    (hf : ∃ b, (f a).result = .ok b) : ∃ b, (x >>= f).result = .ok b := by
  obtain ⟨b, hb⟩ := hf
  exact ⟨b, bind_result_eq_ok.mpr ⟨a, hx, hb⟩⟩

/-- Notices do not fail. -/
theorem exists_mapM_note (f : α → Notice) (l : List α) :
    ∃ us, (l.mapM fun a => note (f a)).result = .ok us := by
  induction l with
  | nil => exact ⟨[], rfl⟩
  | cons a rest ih =>
    obtain ⟨us, hus⟩ := ih
    simp only [List.mapM_cons, bind_result_eq_ok, pure_result_eq_ok]
    exact ⟨() :: us, (), rfl, us, hus, rfl⟩

end Logged

end Storyboard
