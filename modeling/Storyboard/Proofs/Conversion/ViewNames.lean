import Storyboard.Proofs.Conversion.ClosedFiles
import Storyboard.Proofs.Navigation.Reachability
/-!
# The names of views

The names of the files of a flow and of a tab bar are chosen in turn, each for a base of its own, and each
unused by the names before it. The bases are the storyboard ids of the screens of the flow, and the classes
of the tabs' view controllers or their numbers.

* `flow_names`, `tab_names`: the names of the files.
* `mem_kept_iff`: the screens of a flow, each once.
-/
namespace Storyboard

open Storyboard.Markup
open Storyboard.Navigation
open Storyboard.Number (Binary64)
open Storyboard.Swift

section
variable {settings : Settings} {now : Binary64}

/-! ## Flows -/

/-- The names of the files of a flow are chosen in turn for its first screen and for the others that
are kept. -/
theorem flow_names {f : Flow} {files : List ViewFile}
    (h : (flowFiles settings now f).result = .ok files) :
    files.map ViewFile.name = unusedNames []
      ((f.root :: (distinctScreens [f.root.id] f.children).1).map Screen.storyboardId) := by
  obtain ⟨body, -, rfl⟩ := flowFiles_result h
  have hchildren : (linkedNames f).map Prod.snd = unusedNames [unusedName f.root.storyboardId []]
      ((distinctScreens [f.root.id] f.children).1.map Screen.storyboardId) := by
    rw [linkedNames, namedScreens_names]
  rw [List.map_cons, List.map_map]
  exact congrArg (unusedName f.root.storyboardId [] :: ·) hchildren

/-- Leaving out screens of an id that is there already leaves out no screen. -/
theorem mem_kept_iff {kinds : List String} {es : List Edge} {f : Flow}
    (hf : flowOf? kinds es = some f) {s : Screen} :
    s ∈ f.root :: (distinctScreens [f.root.id] f.children).1 ↔ s ∈ f.root :: f.children := by
  have hsub : ∀ t ∈ (distinctScreens [f.root.id] f.children).1, t ∈ f.children := fun t ht =>
    List.mem_of_find?_eq_some (find?_of_mem_distinctScreens ht).2
  have hunique : ∀ t ∈ f.root :: f.children, ∀ u ∈ f.root :: f.children, t.id = u.id → t = u := by
    intro t ht u hu hid
    obtain ⟨e, he, rfl⟩ := viewController?_of_mem hf ht
    obtain ⟨e', he', rfl⟩ := viewController?_of_mem hf hu
    rw [hid, he', Option.some.injEq] at he
    rw [he]
  constructor
  · exact fun hs => List.mem_cons.mpr ((List.mem_cons.mp hs).imp_right (hsub s))
  · intro hs
    by_cases hid : s.id = f.root.id
    · rw [hunique s hs f.root List.mem_cons_self hid]
      exact List.mem_cons_self
    · have hchild : s ∈ f.children := (List.mem_cons.mp hs).resolve_left fun heq => hid (by rw [heq])
      have hids : s.id ∈ (distinctScreens [f.root.id] f.children).1.map Screen.id := by
        rw [distinctScreens_ids, List.mem_eraseDups, List.mem_filter]
        exact ⟨List.mem_map_of_mem hchild, by simp [hid]⟩
      obtain ⟨t, ht, hts⟩ := List.mem_map.mp hids
      rw [← hunique t (List.mem_cons_of_mem _ (hsub t ht)) s hs hts]
      exact List.mem_cons_of_mem _ ht

/-! ## Tabs -/

theorem tab_names {entries : List TabEntry} {files : List ViewFile}
    (h : (tabFiles settings now entries).result = .ok files) :
    files.map ViewFile.name =
      unusedNames [tabBarName] ((entries.zipIdx 1).map fun (entry, i) => tabBase i entry) ++ [tabBarName] := by
  simp only [tabFiles, Logged.bind_result_eq_ok, Logged.pure_result_eq_ok] at h
  obtain ⟨views, hviews, rfl⟩ := h
  rw [List.map_append, List.map_map, ← tabViews_names hviews]
  rfl

end

end Storyboard
