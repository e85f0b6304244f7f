import Mathlib.Data.List.Forall2
import Mathlib.Data.List.Nodup
import Storyboard.Proofs.Navigation.Reachability
import Storyboard.Proofs.Sorting
/-!
# What a flow depends on

A flow is made from the segues in their order and from the first view controller of each id. Nothing
else about the edges counts: not where the view controllers stand among the others, not a later one of
an id that an earlier one has, not an edge of any other kind. Of the kinds of segue that are accepted
only the set counts. There is no flow exactly if no segue leads to a first screen or the first segue that
does so names no view controller.

* `IsFirst`, `Names`: the first edge with a property, and a segue that names a view controller.
* `rootSegue?_eq_some_iff`, `destination?_eq_some_iff`: what is looked up are first edges.
* `flowOf?_eq_none_iff`, `linkedScreens_followed`: when there is no flow, and the screens of one.
* `sortedOnce_congr`: the accepted kinds are listed the same way, in whichever order they are given.
* `flow_determined`: what decides a flow, and what is in it.
-/
namespace Storyboard.Navigation

open Storyboard.Markup

/-- The first edge of a list that has a property. -/
def IsFirst (p : Edge → Prop) (es : List Edge) (e : Edge) : Prop :=
  ∃ before behind, es = before ++ e :: behind ∧ p e ∧ ∀ b ∈ before, ¬p b

/-- The edge is a view controller of the id. -/
def HasId (id : String) (e : Edge) : Prop := e.kind = .viewController ∧ e.id = id

/-- The edge is a segue that leads to a first screen. -/
def LeadsToRoot (e : Edge) : Prop :=
  e.kind = .segue ∧ e.attribute? "relationship" = some "rootViewController"

/-- The destination of the segue is the id of the view controller. -/
def Names (segue e : Edge) : Prop :=
  e.kind = .viewController ∧ segue.attribute? "destination" = some e.id

instance (segue e : Edge) : Decidable (Names segue e) := inferInstanceAs (Decidable (_ ∧ _))

/-- The edge is a segue of an accepted kind that names a view controller. -/
def IsFollowed (kinds : List String) (es : List Edge) (s : Edge) : Prop :=
  s.kind = .segue ∧ (∃ kind ∈ kinds, s.attribute? "kind" = some kind) ∧ ∃ e ∈ es, Names s e

instance (kinds : List String) (es : List Edge) (s : Edge) : Decidable (IsFollowed kinds es s) :=
  inferInstanceAs (Decidable (_ ∧ _))

/-! ## First edges -/

theorem find?_eq_some_iff_isFirst {p : Edge → Bool} {es : List Edge} {e : Edge} :
    es.find? p = some e ↔ IsFirst (fun e => p e = true) es e := by
  rw [List.find?_eq_some_iff_append, IsFirst]
  constructor
  · rintro ⟨he, before, behind, hes, hbefore⟩
    exact ⟨before, behind, hes, he, fun b hb => by simpa using hbefore b hb⟩
  · rintro ⟨before, behind, hes, he, hbefore⟩
    exact ⟨he, before, behind, hes, fun b hb => by simpa using hbefore b hb⟩

/-- The first edge depends on the property alone. -/
theorem IsFirst.congr {p q : Edge → Prop} (h : ∀ e, p e ↔ q e) {es : List Edge} {e : Edge} :
    IsFirst p es e ↔ IsFirst q es e := by
  simp only [IsFirst, h]

section
variable {es : List Edge} {s e : Edge}

theorem viewController?_eq_some_iff {id : String} :
    viewController? es id = some e ↔ IsFirst (HasId id) es e := by
  rw [viewController?, find?_eq_some_iff_isFirst]
  exact IsFirst.congr fun e => by simp [HasId]

theorem rootSegue?_eq_some_iff : rootSegue? es = some s ↔ IsFirst LeadsToRoot es s := by
  rw [rootSegue?, segues, List.find?_filter, find?_eq_some_iff_isFirst]
  exact IsFirst.congr fun e => by simp [LeadsToRoot]

theorem rootSegue?_eq_none_iff : rootSegue? es = none ↔ ∀ s ∈ es, ¬LeadsToRoot s := by
  rw [rootSegue?, segues, List.find?_filter, List.find?_eq_none]
  simp [LeadsToRoot]

theorem destination?_eq_some_iff : destination? es s = some e ↔ IsFirst (Names s) es e := by
  have hnames : ∀ id, s.attribute? "destination" = some id → ∀ e, HasId id e ↔ Names s e := by
    intro id hid e
    simp [HasId, Names, hid, eq_comm]
  rw [destination?, Option.bind_eq_some_iff]
  constructor
  · rintro ⟨id, hid, he⟩
    exact (IsFirst.congr (hnames id hid)).mp (viewController?_eq_some_iff.mp he)
  · intro he
    obtain ⟨-, -, -, hname, -⟩ := id he
    exact ⟨e.id, hname.2,
      viewController?_eq_some_iff.mpr ((IsFirst.congr (hnames e.id hname.2)).mpr he)⟩

theorem destination?_eq_none_iff : destination? es s = none ↔ ∀ e ∈ es, ¬Names s e := by
  rw [destination?, Option.bind_eq_none_iff]
  simp only [viewController?, List.find?_eq_none, Names]
  constructor
  · rintro h e he ⟨hkind, hid⟩
    exact h e.id hid e he (by simp [hkind])
  · intro h id hid e he hfound
    rw [Bool.and_eq_true, decide_eq_true_eq, decide_eq_true_eq] at hfound
    exact h e he ⟨hfound.1, hfound.2 ▸ hid⟩

theorem isAccepted_iff {kinds : List String} :
    isAccepted kinds s = true ↔ ∃ kind ∈ kinds, s.attribute? "kind" = some kind := by
  unfold isAccepted
  split
  · rename_i kind hkind
    simp [hkind]
  · rename_i hkind
    simp [hkind]

end

/-! ## What a flow holds -/

section
variable {kinds : List String} {es : List Edge}

/-- There is no flow exactly if no segue leads to a first screen, or the first one that does names no
view controller. -/
theorem flowOf?_eq_none_iff : flowOf? kinds es = none ↔ (∀ s ∈ es, ¬LeadsToRoot s) ∨
    ∃ s, IsFirst LeadsToRoot es s ∧ ∀ e ∈ es, ¬Names s e := by
  rw [← rootSegue?_eq_none_iff]
  simp only [← rootSegue?_eq_some_iff, ← destination?_eq_none_iff]
  unfold flowOf?
  cases rootSegue? es with
  | none => simp
  | some s => cases h : destination? es s <;> simp [h]

/-- What a partial function makes of a list belongs to the elements that it makes something of. -/
theorem forall₂_filterMap {α β : Type} (f : α → Option β) (l : List α) :
    List.Forall₂ (fun a b => f a = some b) (l.filter fun a => (f a).isSome) (l.filterMap f) := by
  induction l with
  | nil => exact .nil
  | cons a rest ih =>
    cases h : f a with
    | none => simpa [h] using ih
    | some b => simpa [h] using ih

/-- The screens that are linked are those that the segues of accepted kinds name, in their order. -/
theorem linkedScreens_followed (kinds : List String) (es : List Edge) :
    List.Forall₂ (fun s c => ∃ e, IsFirst (Names s) es e ∧ c = Screen.ofEdge e)
      (es.filter fun s => IsFollowed kinds es s) (linkedScreens kinds es) := by
  have hfollowed : ∀ s, ((destination? es s).isSome && isAccepted kinds s && decide (s.kind = .segue)) =
      decide (IsFollowed kinds es s) := by
    intro s
    have hnamed : (destination? es s).isSome = true ↔ ∃ e ∈ es, Names s e := by
      rw [← Option.ne_none_iff_isSome, ne_eq, destination?_eq_none_iff]
      simp
    rw [Bool.eq_iff_iff, Bool.and_eq_true, Bool.and_eq_true, hnamed, isAccepted_iff, decide_eq_true_iff,
      decide_eq_true_iff, IsFollowed]
    tauto
  have hsame : ((segues es).filter (isAccepted kinds)).filter (fun s => (destination? es s).isSome) =
      es.filter fun s => IsFollowed kinds es s := by
    rw [segues, List.filter_filter, List.filter_filter]
    exact List.filter_congr fun s _ => hfollowed s
  have hpaired := forall₂_filterMap (destination? es) ((segues es).filter (isAccepted kinds))
  rw [hsame] at hpaired
  rw [linkedScreens, List.forall₂_map_right_iff]
  exact hpaired.imp fun s e he => ⟨e, destination?_eq_some_iff.mp he, rfl⟩

end

/-! ## The kinds in order -/

theorem nodup_eraseDups {α : Type} [BEq α] [LawfulBEq α] : ∀ l : List α, l.eraseDups.Nodup
  | [] => by simp
  | a :: rest => by
    rw [List.eraseDups_cons, List.nodup_cons]
    exact ⟨by simp, nodup_eraseDups _⟩
termination_by l => l.length
decreasing_by exact Nat.lt_succ_of_le (List.length_filter_le _ _)

theorem isWeak_lt : IsWeak (fun _ => True) fun a b : String => decide (a < b) where
  asymm a b h := by
    rw [decide_eq_true_iff] at h
    exact decide_eq_false (String.lt_asymm h)
  trans a b c _ hba hcb := by
    rw [decide_eq_false_iff_not, String.not_lt] at *
    exact String.le_trans hba hcb

/-- Texts are listed in ascending order. -/
theorem pairwise_sortedOnce (texts : List String) : (sortedOnce texts).Pairwise (· ≤ ·) := by
  have hsettled : (sortedOnce texts).Pairwise (Settled (fun a b => decide (a < b)) fun _ _ => True) :=
    sorted_settled isWeak_lt (List.pairwise_of_forall fun _ _ => trivial) fun _ _ => trivial
  exact hsettled.imp fun h => String.not_lt.mp (of_decide_eq_false h.1)

/-- How texts are listed depends on the set of them only. -/
theorem sortedOnce_congr {texts texts' : List String} (h : ∀ t, t ∈ texts ↔ t ∈ texts') :
    sortedOnce texts = sortedOnce texts' := by
  have hsame : texts.eraseDups.Perm texts'.eraseDups := by
    rw [List.perm_ext_iff_of_nodup (nodup_eraseDups _) (nodup_eraseDups _)]
    intro t
    rw [List.mem_eraseDups, List.mem_eraseDups, h]
  have hperm : (sortedOnce texts).Perm (sortedOnce texts') :=
    (sorted_perm _ _).trans (hsame.trans (sorted_perm _ _).symm)
  exact hperm.eq_of_pairwise (fun _ _ _ _ => String.le_antisymm) (pairwise_sortedOnce _)
    (pairwise_sortedOnce _)

/-! ## What a flow depends on -/

section
variable {kinds kinds' : List String} {es es' : List Edge}

theorem isAccepted_congr (hkinds : ∀ kind, kind ∈ kinds ↔ kind ∈ kinds') :
    isAccepted kinds = isAccepted kinds' := by
  funext s
  rw [Bool.eq_iff_iff, isAccepted_iff, isAccepted_iff]
  simp only [hkinds]

theorem destination?_congr (h : ∀ id e, IsFirst (HasId id) es e ↔ IsFirst (HasId id) es' e) :
    destination? es = destination? es' := by
  have hsame : viewController? es = viewController? es' := by
    funext id
    refine Option.ext fun e => ?_
    rw [viewController?_eq_some_iff, viewController?_eq_some_iff, h]
  funext s
  rw [destination?, destination?, hsame]

/-- The same segues, first view controllers and kinds make the same flow, with the same notices. -/
theorem flow_congr (hkinds : ∀ kind, kind ∈ kinds ↔ kind ∈ kinds') (hsegues : segues es = segues es')
    (hdestination : destination? es = destination? es') : flow kinds es = flow kinds' es' := by
  have hroot : rootSegue? es = rootSegue? es' := by rw [rootSegue?, hsegues, rootSegue?]
  have hlinked : linkedScreens kinds es = linkedScreens kinds' es' := by
    rw [linkedScreens, hsegues, isAccepted_congr hkinds, hdestination, linkedScreens]
  have hmodal : modalNotices kinds es = modalNotices kinds' es' := by
    rw [modalNotices, hsegues, isAccepted_congr hkinds, sortedOnce_congr hkinds, modalNotices]
  simp only [flow, flowOf?, hroot, hlinked, hmodal, hdestination]

end

/-- **What decides a flow.** Two lists of edges make the same flow, with the same notices, if they have
the same segues in the same order and the same first view controller for each id, and the same kinds are
accepted. There is none exactly if no segue leads to a first screen or the first that does names no view
controller. Otherwise the first screen is the first view controller that this segue names, and the linked
screens are, segue by segue, the first view controllers that the segues of accepted kinds name. -/
theorem flow_determined (kinds kinds' : List String) (es es' : List Edge)
    (hkinds : ∀ kind, kind ∈ kinds ↔ kind ∈ kinds')
    (hsegues : segues es = segues es')
    (hcontrollers : ∀ id e, IsFirst (HasId id) es e ↔ IsFirst (HasId id) es' e) :
    flow kinds es = flow kinds' es' ∧ (flow kinds es).result = .ok (flowOf? kinds es) ∧
      (flowOf? kinds es = none ↔ (∀ s ∈ es, ¬LeadsToRoot s) ∨
        ∃ s, IsFirst LeadsToRoot es s ∧ ∀ e ∈ es, ¬Names s e) ∧
      ∀ f, flowOf? kinds es = some f →
        (∃ s e, IsFirst LeadsToRoot es s ∧ IsFirst (Names s) es e ∧ f.root = Screen.ofEdge e) ∧
        List.Forall₂ (fun s c => ∃ e, IsFirst (Names s) es e ∧ c = Screen.ofEdge e)
          (es.filter fun s => IsFollowed kinds es s) f.children := by
  refine ⟨flow_congr hkinds hsegues (destination?_congr hcontrollers), rfl, flowOf?_eq_none_iff,
    fun f hf => ?_⟩
  obtain ⟨s, e, hs, he, rfl⟩ := flowOf?_eq_some hf
  exact ⟨⟨s, e, rootSegue?_eq_some_iff.mp hs, destination?_eq_some_iff.mp he, rfl⟩,
    linkedScreens_followed kinds es⟩

/-- A view controller without a site. -/
def controllerEdge (id storyboardId : String) : Edge :=
  ⟨.viewController, id, none, [("id", id), ("storyboardIdentifier", storyboardId)]⟩

/-- A segue to the first screen, one that leads to another, one that leads back, one that leads nowhere and
one that is not followed. -/
def fiveSegues : List Edge :=
  [⟨.segue, "r", none, [("destination", "a"), ("relationship", "rootViewController")]⟩,
    ⟨.segue, "s", none, [("destination", "b"), ("kind", "show")]⟩,
    ⟨.segue, "t", none, [("destination", "a"), ("kind", "push")]⟩,
    ⟨.segue, "u", none, [("destination", "c"), ("kind", "show")]⟩,
    ⟨.segue, "v", none, [("destination", "b"), ("kind", "modal")]⟩]

/-- Two view controllers, then the segues. -/
def inOrder : List Edge := controllerEdge "a" "A" :: controllerEdge "b" "B" :: fiveSegues

/-- The view controllers the other way round and behind the segues, one of them with another of its id
behind it. -/
def inDisorder : List Edge :=
  fiveSegues ++ [controllerEdge "b" "B", controllerEdge "b" "Later", controllerEdge "a" "A"]

theorem viewController?_inDisorder (id : String) :
    viewController? inOrder id = viewController? inDisorder id := by
  by_cases ha : "a" = id
  · subst ha; rfl
  · by_cases hb : "b" = id
    · subst hb; rfl
    · simp [viewController?, inOrder, inDisorder, fiveSegues, controllerEdge, ha, hb]

/-- The later view controller of an id that is there before does not change the flow. -/
theorem flow_determined_inDisorder :
    flow ["show", "push"] inOrder = flow ["push", "show", "push"] inDisorder ∧
      ∃ f, flowOf? ["show", "push"] inOrder = some f ∧
        (∃ s e, IsFirst LeadsToRoot inOrder s ∧ IsFirst (Names s) inOrder e ∧
          f.root = Screen.ofEdge e) ∧
        f.children.map Screen.storyboardId = ["B", "A"] := by
  have h := flow_determined ["show", "push"] ["push", "show", "push"] inOrder inDisorder
    (by simp) rfl (fun id e => by
      rw [← viewController?_eq_some_iff, ← viewController?_eq_some_iff, viewController?_inDisorder])
  exact ⟨h.1, _, rfl, (h.2.2.2 _ rfl).1, rfl⟩

end Storyboard.Navigation
