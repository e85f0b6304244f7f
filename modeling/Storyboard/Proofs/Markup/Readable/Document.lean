import Mathlib
import Storyboard.Proofs.Markup.Readable.Doctype
/-!
# Reading a document

Every element that is read is readable, so a document is; in particular, there are no separators in it,
whatever the bytes of its file are.

* `RawTag.IsReadable`, `Growth.IsReadable`: what is kept while a tag and while content is read.
* `yields_resolveTag`: the tag of an element.
* `yields_contentFrom`: content, by what stands at its head.
* `isReadable_ofSource`, `isUnseparated_ofBytes`: a document that was read.
-/
namespace Storyboard.Markup

/-! ## Tags -/

def RawTag.IsReadable (t : RawTag) : Prop := ∀ a ∈ t.assignments, ∀ p ∈ a.parts, p.IsReadable

@[simp] theorem RawTag.isReadable_declared {t : RawTag} {declared : List (Option String × String)} :
    RawTag.IsReadable { t with declared } ↔ t.IsReadable := Iff.rfl

namespace Reading

open Std.Do

set_option mvcgen.warning false

theorem yields_declareSpace {tag : RawTag} (h : tag.IsReadable) (label : Option String) (uri : String) :
    Yields (declareSpace tag label uri) RawTag.IsReadable := by
  mvcgen [declareSpace] <;> simp_all

theorem yields_addAssignment {tag : RawTag} (h : tag.IsReadable) (name : LabelledName) {parts : List Part}
    (hparts : ∀ p ∈ parts, p.IsReadable) : Yields (addAssignment tag name parts) RawTag.IsReadable := by
  have hmore : RawTag.IsReadable { tag with assignments := tag.assignments ++ [⟨name, parts⟩] } :=
    List.forall_mem_append.mpr ⟨h, by simpa using hparts⟩
  have hspace := yields_declareSpace h
  mvcgen [addAssignment, hspace] <;> simp_all

@[spec] theorem yields_assignedValue? (tag : RawTag) (name : LabelledName) :
    Yields (assignedValue? tag name) fun parts? =>
      ∀ parts, parts? = some parts → ∀ p ∈ parts, p.IsReadable := by
  mvcgen [assignedValue?] <;> simp_all

@[spec] theorem keeps_seesTagEnd : Keeps seesTagEnd := by
  mvcgen [seesTagEnd]

theorem yields_assignmentsFrom (fuel : Nat) {tag : RawTag} (h : tag.IsReadable) :
    Yields (assignmentsFrom fuel tag) RawTag.IsReadable := by
  induction fuel generalizing tag with
  | zero => exact yields_pure h
  | succ fuel ih =>
    mvcgen [assignmentsFrom, yields_addAssignment, ih] <;> simp_all

theorem yields_addDefaultSpaces {tag : RawTag} (h : tag.IsReadable) (rules : List AttributeRule) :
    Yields (addDefaultSpaces tag rules) RawTag.IsReadable := by
  induction rules generalizing tag with
  | nil => exact yields_pure h
  | cons rule more ih =>
    mvcgen [addDefaultSpaces, ih] <;> simp_all

@[spec] theorem keeps_checkDefaults (scope : Scope) (seen : List Resolved) (rules : List AttributeRule) :
    Keeps (checkDefaults scope seen rules) := by
  induction rules generalizing seen with
  | nil => exact yields_pure trivial
  | cons rule more ih =>
    mvcgen [checkDefaults, ih] <;> simp_all

@[spec] theorem keeps_addIdentifier (value : String) : Keeps (addIdentifier value) := by
  mvcgen [addIdentifier]

@[spec] theorem keeps_noteIdentifier (element : String) (a : Attribute) :
    Keeps (noteIdentifier element a) := by
  mvcgen [noteIdentifier]
  simp_all

theorem yields_resolveTag (scope : Scope) {tag : RawTag} (h : tag.IsReadable) :
    Yields (resolveTag scope tag) fun resolved => resolved.1.IsReadable := by
  unfold resolveTag
  refine Yields.bind (P := fun _ => True) (by mvcgen) fun r _ => ?_
  refine (yields_addDefaultSpaces h _).bind fun tag htag => ?_
  refine (keeps_reportAll _).bind fun _ _ => (keeps_reportAll _).bind fun _ _ => ?_
  refine (keeps_checkDefaults _ _ _).bind fun _ _ => (keeps_reportAll _).bind fun _ _ => ?_
  refine Yields.bind (P := fun attributes => ∀ a ∈ attributes, AreReadable (Attribute.value a).toList)
    ?_ fun attributes hattributes => ?_
  · refine yields_mapM fun (r, a) hmem => ?_
    have hparts := htag a (List.of_mem_zip hmem).2
    refine (yields_mapM fun p hp => yields_pieceOf (hparts p hp)).bind fun pieces hpieces => yields_pure ?_
    rw [Attribute.value, areReadable_join]
    simpa using hpieces
  · have hnote := keeps_forM (keeps_noteIdentifier tag.name.written) attributes
    mvcgen [hnote] <;> try assumption
    all_goals exact ⟨‹_›, hattributes, Declarations.areReadable_fallbacks ‹_› _ _⟩

theorem yields_startTag? (fuel : Nat) (scope : Scope) :
    Yields (startTag? fuel scope) fun o? => ∀ o, o? = some o → o.tag.IsReadable := by
  have hassignments : ∀ name, Yields (assignmentsFrom fuel ⟨name, [], []⟩) RawTag.IsReadable :=
    fun name => yields_assignmentsFrom fuel fun _ h => absurd h List.not_mem_nil
  mvcgen [startTag?, hassignments, yields_resolveTag] <;> simp_all

@[spec] theorem keeps_endTag (written : String) : Keeps (endTag written) := by
  mvcgen [endTag] <;> simp_all

end Reading

/-! ## Growing elements -/

structure Unclosed.IsReadable (u : Unclosed) : Prop where
  tag : u.tag.IsReadable
  before : ∀ n ∈ u.before, n.IsReadable

structure Growth.IsReadable (g : Growth) : Prop where
  outer : ∀ u ∈ g.outer, u.IsReadable
  nodes : ∀ n ∈ g.nodes, n.IsReadable

namespace Growth

variable {g : Growth}

theorem isReadable_empty (scope : Scope) : (empty scope).IsReadable :=
  ⟨fun _ h => absurd h List.not_mem_nil, fun _ h => absurd h List.not_mem_nil⟩

theorem IsReadable.push (h : g.IsReadable) {n : Node} (hn : n.IsReadable) : (g.push n).IsReadable :=
  ⟨h.outer, List.forall_mem_cons.mpr ⟨hn, h.nodes⟩⟩

theorem IsReadable.pushText (h : g.IsReadable) {s : String} (hs : AreReadable s.toList) :
    (g.pushText s).IsReadable := by
  unfold Growth.pushText
  split
  · rename_i before rest hnodes
    have hall := h.nodes
    rw [hnodes] at hall
    obtain ⟨hbefore, hrest⟩ := List.forall_mem_cons.mp hall
    refine ⟨h.outer, List.forall_mem_cons.mpr ⟨?_, hrest⟩⟩
    simp only [Node.IsReadable, String.toList_append, areReadable_append] at hbefore ⊢
    exact ⟨hbefore, hs⟩
  · exact h.push (by simpa [Node.IsReadable] using hs)

theorem IsReadable.pushAll (h : g.IsReadable) {n? : Option Node} (hn : ∀ n, n? = some n → n.IsReadable) :
    (g.pushAll n?).IsReadable := by
  cases n? with
  | none => exact h
  | some n => exact h.push (hn n rfl)

theorem IsReadable.openElement (h : g.IsReadable) {o : Reading.Opening} (ho : o.tag.IsReadable) :
    (g.openElement o).IsReadable :=
  ⟨List.forall_mem_cons.mpr ⟨⟨ho, h.nodes⟩, h.outer⟩, fun _ hn => absurd hn List.not_mem_nil⟩

theorem IsReadable.closeElement (h : g.IsReadable) : g.closeElement.IsReadable := by
  unfold Growth.closeElement
  split
  · exact h
  · rename_i inner outer houter
    have hall := h.outer
    rw [houter] at hall
    obtain ⟨hinner, houter⟩ := List.forall_mem_cons.mp hall
    refine ⟨houter, List.forall_mem_cons.mpr ⟨?_, hinner.before⟩⟩
    rw [Node.IsReadable, areReadableNodes_iff]
    exact ⟨hinner.tag, fun n hn => h.nodes n (List.mem_reverse.mp hn)⟩

theorem IsReadable.finish (h : g.IsReadable) : ∀ n ∈ g.finish, n.IsReadable :=
  fun n hn => h.nodes n (List.mem_reverse.mp hn)

end Growth

theorem isReadable_partsOfNodes {nodes : List Node} (h : ∀ n ∈ nodes, n.IsReadable) :
    ∀ p ∈ partsOfNodes nodes, p.IsReadable := by
  intro p hp
  obtain ⟨n, hn, hpart⟩ := List.mem_filterMap.mp hp
  have hreadable := h n hn
  cases n with
  | text s =>
    cases hpart
    simpa [Node.IsReadable, Part.IsReadable] using hreadable
  | reference name =>
    cases hpart
    simpa [Node.IsReadable, Part.IsReadable] using hreadable
  | element | comment | instruction => cases hpart

namespace Reading

open Std.Do

set_option mvcgen.warning false

/-! ## Content -/

theorem yields_text {g : Growth} (h : g.IsReadable) : Yields (text g) Growth.IsReadable := by
  have hpush : ∀ s : List Char, AreReadable s →
      (if s = [] then g else g.pushText (String.ofList s)).IsReadable := by
    intro s hs
    split
    · exact h
    · exact h.pushText (by simpa using hs)
  mvcgen [text] <;> simp_all

theorem yields_section? {g : Growth} (h : g.IsReadable) : Yields (section? g) Growth.IsReadable := by
  have hpush : ∀ s : List Char, AreReadable s → (g.pushText (String.ofList s)).IsReadable := fun s hs =>
    h.pushText (by simpa using hs)
  mvcgen [section?] <;> simp_all

theorem yields_element (fuel around : Nat) {g : Growth} (h : g.IsReadable) :
    Yields (element fuel around g) Growth.IsReadable := by
  have hopen : ∀ o : Opening, o.tag.IsReadable →
      (if o.closed then (g.openElement o).closeElement else g.openElement o).IsReadable := by
    intro o ho
    split
    · exact (h.openElement ho).closeElement
    · exact h.openElement ho
  mvcgen [element, yields_startTag?] <;> simp_all
  all_goals exact hopen _ (And.right ‹_›)

theorem yields_elementEnd {g : Growth} (h : g.IsReadable) : Yields (elementEnd g) Growth.IsReadable := by
  have hclose := h.closeElement
  mvcgen [elementEnd]
  simp_all

theorem keeps_noteContent (name : String) {nodes : List Node} (h : ∀ n ∈ nodes, n.IsReadable)
    (expanded : Nat) : Keeps (noteContent name nodes expanded) := by
  mvcgen [noteContent, keeps_updateDeclarations]
  refine fun d hd => hd.updateEntity name fun e he => ⟨he.text, fun ps hps => ?_⟩
  dsimp only at hps
  split at hps
  · cases hps
    exact isReadable_partsOfNodes h
  · exact he.parts ps hps

theorem keeps_enterEntity {content : Reading (List Node)}
    (h : Yields content fun nodes => ∀ n ∈ nodes, n.IsReadable) (e : Entity) :
    Keeps (enterEntity content e) := by
  have hwithin := fun mark text measured => yields_within mark text measured h
  mvcgen [enterEntity, hwithin, keeps_noteContent] <;> simp_all

theorem yields_reference {content : Reading (List Node)}
    (h : Yields content fun nodes => ∀ n ∈ nodes, n.IsReadable) {g : Growth} (hg : g.IsReadable) :
    Yields (reference content g) Growth.IsReadable := by
  unfold reference
  refine keeps_rest.bind fun s _ => ?_
  split
  rename_i referent rest hreferent
  refine (keeps_moveTo rest).bind fun _ _ => ?_
  have hreadable : ∀ r, referent = .ok r → r.IsReadable := fun r hr =>
    isReadable_referenceFrom (by rw [hreferent, hr])
  split
  · exact (keeps_report _).bind fun _ _ => yields_pure hg
  · rename_i c
    have hc : isReadable c = true := hreadable _ rfl
    exact yields_pure (hg.pushText (by simpa using hc))
  · rename_i name
    split
    · rename_i c hc
      exact yields_pure (hg.pushText (by simpa using isReadable_predefined hc))
    · have hpush : (g.push (.reference name)).IsReadable :=
        hg.push (by simpa [Node.IsReadable, Referent.IsReadable] using hreadable _ rfl)
      have henter := keeps_enterEntity h
      mvcgen [henter] <;> simp_all

/-- Content is readable, whatever stands at its head, if the texts of entities are read so. -/
theorem yields_contentFrom {enter : Nat → Reading (List Node)}
    (h : ∀ around, Yields (enter around) fun nodes => ∀ n ∈ nodes, n.IsReadable) (around fuel : Nat)
    {g : Growth} (hg : g.IsReadable) : Yields (contentFrom enter around fuel g) Growth.IsReadable := by
  induction fuel generalizing g with
  | zero => exact yields_pure hg
  | succ fuel ih =>
    unfold contentFrom
    refine keeps_rest.bind fun s _ => ?_
    split
    · exact yields_pure hg
    · exact (keeps_moveTo _).bind fun _ _ => (yields_reference (h _) hg).bind fun _ hg => ih hg
    · refine (keeps_accept _).bind fun _ _ => ?_
      split
      · exact yields_instruction?.bind fun _ hn => ih (hg.pushAll hn)
      refine (keeps_accept _).bind fun _ _ => ?_
      split
      · exact (yields_section? hg).bind fun _ hg => ih hg
      refine (keeps_accept _).bind fun _ _ => ?_
      split
      · exact (yields_comment? fuel).bind fun _ hn => ih (hg.pushAll hn)
      split
      · have hend := yields_elementEnd hg
        mvcgen [hend, ih] <;> simp_all
      · exact (keeps_skip _).bind fun _ _ => (yields_element fuel around hg).bind fun _ hg => ih hg
    · exact (yields_text hg).bind fun _ hg => ih hg

theorem yields_contentOf {enter : Nat → Reading (List Node)}
    (h : ∀ around, Yields (enter around) fun nodes => ∀ n ∈ nodes, n.IsReadable) (around : Nat)
    (scope : Scope) : Yields (contentOf enter around scope) fun nodes => ∀ n ∈ nodes, n.IsReadable := by
  unfold contentOf
  refine keeps_rest.bind fun s _ => ?_
  refine (yields_contentFrom h around _ (Growth.isReadable_empty scope)).bind fun g hg => ?_
  have hfinish := hg.finish
  mvcgen <;> simp_all

theorem yields_entityContent (left around : Nat) :
    Yields (entityContent left around) fun nodes => ∀ n ∈ nodes, n.IsReadable := by
  induction left generalizing around with
  | zero => exact yields_giveUp _ _
  | succ left ih =>
    have hcontent := yields_contentOf ih
    mvcgen [entityContent, hcontent] <;> simp_all

/-! ## The document -/

theorem yields_rootContent (scope : Scope) :
    Yields (rootContent scope) fun nodes => ∀ n ∈ nodes, n.IsReadable :=
  yields_contentOf (yields_entityContent _) 1 scope

@[spec] theorem keeps_asidesFrom (fuel : Nat) : Keeps (asidesFrom fuel) := by
  induction fuel with
  | zero => exact yields_pure trivial
  | succ fuel ih => mvcgen [asidesFrom, ih] <;> simp_all

@[spec] theorem keeps_asides : Keeps asides := by
  mvcgen [asides]
  assumption

@[spec] theorem keeps_prolog (unknown : Option String) : Keeps (prolog unknown) := by
  mvcgen [prolog] <;> simp_all

theorem yields_rootElement? : Yields rootElement? fun e? => ∀ e, e? = some e → e.IsReadable := by
  mvcgen [rootElement?, yields_startTag?, yields_rootContent] <;> simp_all

@[spec] theorem keeps_documentEnd (truncated : Bool) : Keeps (documentEnd truncated) := by
  mvcgen [documentEnd] <;> simp_all

theorem yields_document? (unknown : Option String) (truncated : Bool) :
    Yields (document? unknown truncated) fun e? => ∀ e, e? = some e → e.IsReadable := by
  mvcgen [document?, yields_rootElement?] <;> simp_all

end Reading

/-- All of a document that was read is readable. -/
theorem isReadable_ofSource {source : Source} {d : Document} (h : Document.ofSource source = .ok d) :
    d.root.IsReadable := by
  unfold Document.ofSource at h
  have hyields := Reading.yields_iff.mp
    (Reading.yields_document? source.unknownEncoding source.truncated) (Reader.ofSource source)
  dsimp only at h
  split at h
  · rename_i root r hrun
    obtain ⟨-, hroot⟩ := hyields root r Declarations.isReadable_empty hrun
    split at h
    · cases h
    · cases h
      exact hroot _ rfl
    · cases h
  · cases h

/-- A document that was read has no separators. -/
theorem isUnseparated_ofBytes {bytes : List UInt8} {d : Document} (h : Document.ofBytes bytes = .ok d) :
    d.root.isUnseparated = true := by
  unfold Document.ofBytes at h
  split at h
  · cases h
  · exact (isReadable_ofSource h).isUnseparated

end Storyboard.Markup
