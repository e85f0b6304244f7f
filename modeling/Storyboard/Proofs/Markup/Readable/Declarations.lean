import Storyboard.Proofs.Markup.Readable.Texts
/-!
# Readable declarations

The texts of the entities that a document declares are readable, so are the parts that these are cut
into, and so are default values. Nothing that is done to declarations puts other characters into them, and
what they answer, the text that an entity stands for and the values that an element falls back to, is
readable too.

* `Declarations.IsReadable`: the invariant.
* `isReadable_settle`: what a reference stands for is settled without losing it.
* `areReadable_expansion`, `areReadable_fallbacks`: what the declarations answer.
-/
namespace Storyboard.Markup

structure Entity.IsReadable (e : Entity) : Prop where
  text : ∀ s, e.body = .internal s → AreReadable s
  parts : ∀ ps, e.parts = some ps → ∀ p ∈ ps, p.IsReadable

structure Declarations.IsReadable (d : Declarations) : Prop where
  entities : ∀ e ∈ d.entities, e.IsReadable
  rules : ∀ r ∈ d.rules, ∀ s, r.default = some s → AreReadable s.toList

theorem isReadable_ofBody (name : String) {body : EntityBody}
    (h : ∀ s, body = .internal s → AreReadable s) : (Entity.ofBody name body).IsReadable :=
  ⟨h, nofun⟩

namespace Declarations

theorem isReadable_empty : empty.IsReadable :=
  ⟨fun _ h => absurd h List.not_mem_nil, fun _ h => absurd h List.not_mem_nil⟩

section
variable {d : Declarations} {e : Entity} {name : String}

theorem IsReadable.of_entity? (h : d.IsReadable) (he : d.entity? name = some e) : e.IsReadable :=
  h.entities e (List.mem_of_find?_eq_some he)

theorem IsReadable.addEntity (h : d.IsReadable) (he : e.IsReadable) : (d.addEntity e).IsReadable := by
  unfold Declarations.addEntity
  split
  · exact h
  · exact ⟨List.forall_mem_append.mpr ⟨h.entities, by simpa using he⟩, h.rules⟩

theorem IsReadable.addParameter (h : d.IsReadable) (e : Entity) : (d.addParameter e).IsReadable := by
  unfold Declarations.addParameter
  split
  · exact h
  · exact ⟨h.entities, h.rules⟩

theorem IsReadable.replaceEntity (h : d.IsReadable) (he : e.IsReadable) :
    (d.replaceEntity e).IsReadable := by
  refine ⟨fun old hold => ?_, h.rules⟩
  obtain ⟨old, hmem, rfl⟩ := List.mem_map.mp hold
  split
  · exact he
  · exact h.entities old hmem

/-- Nothing is asked of parameter entities: their texts are read like the document itself. -/
theorem IsReadable.replaceParameter (h : d.IsReadable) (e : Entity) :
    (d.replaceParameter e).IsReadable := ⟨h.entities, h.rules⟩

/-- Where an entity is replaced, the invariant depends on what stands in its stead. -/
theorem IsReadable.updateEntity (h : d.IsReadable) (name : String) {f : Entity → Entity}
    (hf : ∀ e : Entity, e.IsReadable → (f e).IsReadable) :
    (match d.entity? name with
      | none => d
      | some e => d.replaceEntity (f e)).IsReadable := by
  split
  · exact h
  · rename_i e he
    exact h.replaceEntity (hf e (h.of_entity? he))

/-- A rule more that has a readable default value. -/
theorem IsReadable.addRule (h : d.IsReadable) {r : AttributeRule}
    (hr : ∀ s, r.default = some s → AreReadable s.toList) :
    { d with rules := d.rules ++ [r] }.IsReadable :=
  ⟨h.entities, List.forall_mem_append.mpr ⟨h.rules, by simpa using hr⟩⟩

theorem isReadable_settle (fuel : Nat) (h : d.IsReadable) (name : String) :
    (d.settle fuel name).IsReadable := by
  induction fuel generalizing d name with
  | zero => exact h
  | succ fuel ih =>
    rw [settle]
    split
    · rename_i e he
      split
      · rename_i text hbody hparts
        have hreadable := h.of_entity? he
        have hcut : ({ e with parts := some (partsOf text).1 } : Entity).IsReadable := by
          refine ⟨hreadable.text, fun ps hps => ?_⟩
          rw [← Option.some.inj hps]
          exact isReadable_partsOf (hreadable.text text hbody)
        exact List.foldlRecOn _ _ (h.replaceEntity hcut) fun _ hd name _ => ih hd name
      · exact h
    · exact h

theorem areReadable_expansion (h : d.IsReadable) (fuel : Nat) (name : String) :
    AreReadable (d.expansion fuel name).toList := by
  induction fuel generalizing name with
  | zero => exact areReadable_nil
  | succ fuel ih =>
    have hparts : ∀ p ∈ ((d.entity? name).bind Entity.parts).getD [], p.IsReadable := by
      cases he : d.entity? name with
      | none => simp
      | some e =>
        cases hps : e.parts with
        | none => simp [hps]
        | some ps => simpa [hps] using (h.of_entity? he).parts ps hps
    rw [expansion, areReadable_join, List.forall_mem_map]
    intro p hp
    cases p with
    | characters s => simpa [Part.IsReadable] using hparts _ hp
    | entity name => exact ih name

/-- What an element falls back to is a default value. -/
theorem areReadable_fallbacks (h : d.IsReadable) (element : String) (scope : Scope) :
    ∀ f ∈ d.fallbacks element scope, AreReadable f.2.toList := by
  have hfitting : ∀ r ∈ d.rules.filter (·.element == element), ∀ s, r.fitting? = some s →
      AreReadable s.toList := fun r hr s hs =>
    h.rules r (List.mem_filter.mp hr).1 s (Option.eq_some_of_filter_eq_some hs)
  unfold fallbacks
  dsimp only
  intro f hf
  obtain ⟨⟨name, value⟩, hmem, hvalue⟩ := List.mem_filterMap.mp hf
  -- a value of the list is what a rule gives
  have hrule : ∃ r ∈ d.rules.filter (·.element == element), r.fitting? = value := by
    rcases List.mem_append.mp hmem with hplain | hspace
    · obtain ⟨r, hr, hpair⟩ := List.mem_map.mp hplain
      exact ⟨r, (List.mem_filter.mp hr).1, congrArg Prod.snd hpair⟩
    · obtain ⟨⟨label, uri⟩, -, hspace⟩ := List.mem_flatMap.mp hspace
      dsimp only at hspace
      split at hspace
      · exact absurd hspace List.not_mem_nil
      · obtain ⟨r, hr, hpair⟩ := List.mem_map.mp hspace
        exact ⟨r, (List.mem_filter.mp hr).1, congrArg Prod.snd hpair⟩
  obtain ⟨r, hr, rfl⟩ := hrule
  dsimp only at hvalue
  split at hvalue
  · obtain ⟨s, hs, rfl⟩ := Option.map_eq_some_iff.mp hvalue
    exact hfitting r hr s hs
  · cases hvalue

end

end Declarations

end Storyboard.Markup
