import Storyboard.Proofs.Markup.Margins.Content
import Storyboard.Proofs.Markup.Margins.Doctype
import Storyboard.Proofs.Markup.Margins.Tags
/-!
# Documents with margins

White space behind a document does not change it, nor does white space in front of one that has no XML
declaration. All it can do is to raise what the document may expand to, since that is measured by how much of
the document was read.

* `sealed_rootElement?`: the outermost element cannot end in the white space behind it.
* `alike_asidesFrom`: what stands behind the element ends in front of something in both documents or in none.
* `ofSource_between`: the document between its margins.
-/
namespace Storyboard.Markup

namespace Reading

variable {α β : Type} {t : Bool} {m : Margin} {n k : Nat} {r : Reader} {s e : List Char}

/-! ## In front of the outermost element -/

theorem paired_asidesFrom {fuel fuel' : Nat} (hfuel : IsEnough n fuel fuel') :
    Paired false m n (asidesFrom fuel) (asidesFrom fuel') := by
  refine paired_loop (f := fun fuel (_ : Unit) => asidesFrom fuel) (fun _ _ => paired_pure _)
    (fun n fuel fuel' hfuel ih _ => ?_) hfuel ()
  refine paired_skipSpaces.bind fun _ s e he => ?_
  refine pairedOn_accept (by decide) (by decide) he (sealed_instruction?.paired.loosen.bind fun _ => ih ()) ?_
  refine pairedOn_accept (by decide) (by decide) he ((paired_comment? hfuel).bind fun _ => ih ()) ?_
  exact .of_paired (paired_pure _) he

theorem paired_asides : Steady false m n asides :=
  paired_rest fun _ _ he _ => .of_length (paired_asidesFrom (.length (by simp))) he

/-- What may stand in front of the outermost element, with fuel for what comes first. -/
def undeclaredPrologFrom (fuel : Nat) : Reading Unit := do
  asidesFrom fuel
  if ← accept "<!DOCTYPE" then
    documentType
    asides

theorem paired_undeclaredPrologFrom (hm : m.metered = true) {fuel fuel' : Nat}
    (hfuel : IsEnough n fuel fuel') :
    Paired false m n (undeclaredPrologFrom fuel) (undeclaredPrologFrom fuel') := by
  refine (paired_asidesFrom hfuel).bind fun _ => (paired_accept (by decide)).bind fun _ =>
    .ite (fun _ => ?_) fun _ => paired_pure _
  exact (paired_documentType hm).bind fun _ => paired_asides

theorem paired_undeclaredProlog (hm : m.metered = true) :
    Steady false m n undeclaredProlog := by
  refine paired_asides.bind fun _ => (paired_accept (by decide)).bind fun _ => .ite (fun _ => ?_) fun _ =>
    paired_pure _
  exact (paired_documentType hm).bind fun _ => paired_asides

/-- Two readings that fail on their texts are paired there. -/
theorem pairedOn_of_error {s' : List Char} {x y : Reading α}
    (hx : ∀ r : Reader, r.IsSettled → r.rest = s → ∃ r', EStateM.run x r = .error () r')
    (hy : ∀ r : Reader, r.IsSettled → r.rest = s' → ∃ r', EStateM.run y r = .error () r') :
    PairedOn t m n s s' x y where
  left r hr hs := by
    obtain ⟨r', hrun⟩ := hx r hr hs
    rw [hrun]
    rintro _ _ ⟨⟩
  right r hr hs := by
    obtain ⟨r', hrun⟩ := hy r hr hs
    rw [hrun]
    rintro _ _ ⟨⟩
  agrees r hr hs hs' _ := by
    obtain ⟨r', hrun⟩ := hx r hr.settled hs
    obtain ⟨r'', hrun'⟩ := hy (r.followed m) (hr.settled.followed m) (by rw [hs', ← hs]; rfl)
    rw [hrun, hrun']
    exact .failed r' r''

theorem isDeclared_eq (s : List Char) :
    isDeclared s = ("<?xml".toList.isPrefixOf s && ((s.drop 5).head?.map isSpace).getD false) := by
  by_cases h : "<?xml".toList <+: s
  · obtain ⟨u, rfl⟩ := h
    cases u <;> rfl
  · have hbegins : "<?xml".toList.isPrefixOf s = false := by
      rw [Bool.eq_false_iff, ne_eq, List.isPrefixOf_iff_prefix]
      exact h
    rw [hbegins, Bool.false_and]
    unfold isDeclared
    split
    · exact absurd ⟨_, rfl⟩ h
    · rfl

/-- White space behind a text makes an XML declaration of it only if nothing else is missing. -/
theorem isDeclared_append (he : IsMargin e) (hs : s ≠ "<?xml".toList) :
    isDeclared (s ++ e) = isDeclared s := by
  rw [isDeclared_eq, isDeclared_eq, isPrefixOf_margin (by decide) he]
  by_cases h : "<?xml".toList <+: s
  · obtain ⟨u, rfl⟩ := h
    cases u with
    | nil => exact absurd (List.append_nil _) hs
    | cons c u => rfl
  · have hbegins : "<?xml".toList.isPrefixOf s = false := by
      rw [Bool.eq_false_iff, ne_eq, List.isPrefixOf_iff_prefix]
      exact h
    rw [hbegins]
    rfl

theorem isBlocked_xmlDeclaration (unknown : Option String) : IsBlocked (xmlDeclaration unknown) := by
  intro r hr hrest
  have hmoved : IsMargin (r.rest.dropWhile isSpace) := hrest.of_suffix (List.dropWhile_suffix _)
  have hversion : EStateM.run (assigned? "version" versionFrom) (r.moved (r.rest.dropWhile isSpace)) =
      .ok none (r.moved (r.rest.dropWhile isSpace)) := by
    rw [assigned?, run_bind_ok (run_accept_margin (by decide) (by decide) hmoved)]
    rfl
  have hhead : ∃ r', EStateM.run declarationHead r = .error () r' := by
    rw [declarationHead, run_bind_ok (run_skipSpaces r), run_bind_ok hversion]
    exact (fails_report rfl).bind _ _ (hr.moved _)
  obtain ⟨r', hrun⟩ := hhead
  exact ⟨r', run_bind_error hrun⟩

theorem paired_prolog (hm : m.metered = true) (unknown : Option String) :
    Steady false m n (prolog unknown) := by
  rw [prolog_eq]
  refine paired_rest fun s e he _ => ?_
  by_cases hcut : s = "<?xml".toList
  · -- Only the second text can have a declaration, which nothing follows.
    subst hcut
    have hcutOff : ∀ r : Reader, r.IsSettled → r.rest = "<?xml".toList →
        ∃ r', EStateM.run undeclaredProlog r = .error () r' := by
      intro r hr hrest
      have hparts : r.rest = [] ++ ("<?xml".toList ++ []) := hrest
      obtain ⟨r', hrun⟩ := run_asides_declared hr hparts .nil nofun
      exact ⟨r', run_bind_error hrun⟩
    refine pairedOn_of_error hcutOff fun r hr hrest => ?_
    split
    · obtain ⟨r', hrun⟩ := isBlocked_xmlDeclaration unknown (r.moved e) (hr.moved e) he
      exact ⟨r', (run_bind_ok (run_moveTo _ r)).trans (run_bind_error hrun)⟩
    · cases e with
      | nil => exact hcutOff r hr hrest
      | cons c e => exact absurd (he c List.mem_cons_self) ‹_›
  · rw [isDeclared_append he hcut]
    refine .ite (fun hdeclared => ?_) fun _ => .of_paired (paired_undeclaredProlog hm) he
    obtain ⟨c, u, rfl, -⟩ := exists_of_isDeclared hdeclared
    exact pairedOn_moveTo he (List.suffix_append "<?xml".toList (c :: u)) (k := n) (by simp; omega)
      ((paired_xmlDeclaration unknown).bind fun _ => paired_undeclaredProlog hm)

/-! ## The outermost element -/

/-- The end of the outermost element, behind its content. -/
def rootEnd (written : String) (a : α) : Reading α := do
  if (← rest).isEmpty then
    if ← isSound then report (.unfinished written)
  else
    skip 2
    endTag written
  return a

/-- What follows the tag that opens the outermost element. -/
def rootBehind : Option Opening → Reading (Option Element)
  | none => return none
  | some o => do
    if o.closed then return some ⟨o.tag, []⟩
    let nodes ← rootContent o.scope
    rootEnd o.written (some ⟨o.tag, nodes⟩)

theorem rootElement?_eq : rootElement? = (do rootBehind (← startTag? (← rest).length .outermost)) := rfl

theorem sealed_rootEnd (written : String) (a : α) : Sealed m n (rootEnd written a) (rootEnd written a) := by
  have hempty : Fails (do
      if ← isSound then
        report (.unfinished written)
      return a) := fun r hr => by
    rw [run_bind_ok (run_isSound hr)]
    exact (fails_report rfl).bind _ r hr
  have hended : ∀ n, Sealed m n (do skip 2; endTag written; return a) (do skip 2; endTag written; return a) :=
    fun _ => (paired_skip 2).bind_sealed fun _ => (sealed_endTag written).bind fun _ => paired_pure _
  have hblocked : IsBlocked (rootEnd written a) := by
    intro r hr hrest
    rw [rootEnd, run_bind_ok (run_rest r)]
    split
    · exact hempty r hr
    · exact (hended 0).left r hr hrest
  refine ⟨paired_rest fun s e he _ => ?_, hblocked, hblocked⟩
  cases s with
  | cons c s => exact .of_paired (hended n).paired he
  | nil =>
    refine pairedOn_of_error (fun r hr _ => hempty r hr) fun r hr hrest => ?_
    split
    · exact hempty r hr
    · exact (hended 0).left r hr (hrest ▸ he)

theorem sealed_rootElement? (hm : m.metered = true) : Sealed m n rootElement? rootElement? := by
  have hroot : ∀ s s' : List Char, s.length ≤ s'.length → Sealed m (s.length + 1)
      (startTag? s.length .outermost >>= rootBehind) (startTag? s'.length .outermost >>= rootBehind) := by
    intro s s' hs
    refine (sealed_startTag? hm (.inr ⟨Nat.le_refl _, hs⟩) _).bind fun o? => ?_
    cases o? with
    | none => exact paired_pure _
    | some o =>
      refine .ite (fun _ => paired_pure _) fun _ => ?_
      exact Sealed.paired ((paired_rootContent hm _).bind_sealed fun nodes => sealed_rootEnd _ _)
  rw [rootElement?_eq]
  exact ⟨paired_rest fun s e he _ => .of_length (hroot s (s ++ e) (by simp)).paired he,
    fun r hr hrest => (hroot r.rest r.rest (Nat.le_refl _)).left r hr hrest,
    fun r hr hrest => (hroot r.rest r.rest (Nat.le_refl _)).right r hr hrest⟩

/-! ## Behind the outermost element -/

/-- What two readings come to: the same answer with readers that go together, or both fail. -/
inductive Alike (m : Margin) (together : Reader → Reader → Prop) : Result α → Result α → Prop
  | same (a : α) {r r' : Reader} : together r r' → Alike m together (.ok a r) (.ok a r')
  | failed (r r' : Reader) : Alike m together (.error () r) (.error () r')
  | exceeded {o o' : Result α} : 0 < m.slack → Exceeds o → Alike m together o o'

variable {P Q : Reader → Reader → Prop}

theorem Alike.bind {x y : Reading α} {f g : α → Reading β} {r r' : Reader}
    (h : Alike m P (EStateM.run x r) (EStateM.run y r'))
    (hsame : ∀ a r₁ r₂, P r₁ r₂ → Alike m Q (EStateM.run (f a) r₁) (EStateM.run (g a) r₂)) :
    Alike m Q (EStateM.run (x >>= f) r) (EStateM.run (y >>= g) r') := by
  generalize ho : EStateM.run x r = o at h
  generalize ho' : EStateM.run y r' = o' at h
  cases h with
  | same a htogether =>
    rw [run_bind_ok ho, run_bind_ok ho']
    exact hsame a _ _ htogether
  | failed r₁ r₂ =>
    rw [run_bind_error ho, run_bind_error ho']
    exact .failed r₁ r₂
  | exceeded hslack hexceeds =>
    obtain ⟨r₁, rfl, hrefusal⟩ := hexceeds
    exact .exceeded hslack ⟨r₁, run_bind_error ho, hrefusal⟩

theorem Fails.alike {x y : Reading α} (hx : Fails x) (hy : Fails y) (hr : r.IsSettled) :
    Alike m P (EStateM.run x r) (EStateM.run y (r.followed m)) := by
  obtain ⟨r', hrun⟩ := hx r hr
  obtain ⟨r'', hrun'⟩ := hy (r.followed m) (hr.followed m)
  rw [hrun, hrun']
  exact .failed r' r''

/-- What is paired to the very end of a text is followed by the same. -/
theorem Paired.alike_bind {x y : Reading α} {f g : α → Reading β} (h : Paired true m n x y) (hr : m.Fits r)
    (hn : r.rest.length < n)
    (hsame : ∀ a r', m.Fits r' → r'.rest.length ≤ r.rest.length →
      Alike m Q (EStateM.run (f a) r') (EStateM.run (g a) (r'.followed m))) :
    Alike m Q (EStateM.run (x >>= f) r) (EStateM.run (y >>= g) (r.followed m)) := by
  have hagrees := h.agrees hr hn
  have hleft := h.left hr.settled
  refine Alike.bind (P := fun r₁ r₂ => m.Fits r₁ ∧ r₁.rest.length ≤ r.rest.length ∧ r₂ = r₁.followed m) ?_
    fun a r₁ r₂ ⟨hfits, hlength, hfollowed⟩ => hfollowed ▸ hsame a r₁ hfits hlength
  generalize EStateM.run x r = o at hagrees hleft
  generalize EStateM.run y (r.followed m) = o' at hagrees
  cases hagrees with
  | same a r' =>
    obtain ⟨hsettled, hsuffix, hdepth⟩ := hleft a r' rfl
    exact .same a ⟨hr.of_depth hsettled hdepth, hsuffix.length_le, rfl⟩
  | failed r' r'' => exact .failed r' r''
  | spent ht => cases ht
  | exceeded hslack hexceeds => exact .exceeded hslack hexceeds

theorem alike_accept {w : String} (hw : w.toList.any isSpace = false) (hne : w ≠ "")
    {f g : Bool → Reading α} (htrue : ∀ u : List Char, u.length < r.rest.length →
      Alike m P (EStateM.run (f true) (r.moved u)) (EStateM.run (g true) ((r.moved u).followed m)))
    (hfalse : Alike m P (EStateM.run (f false) r) (EStateM.run (g false) (r.followed m))) :
    Alike m P (EStateM.run (accept w >>= f) r) (EStateM.run (accept w >>= g) (r.followed m)) := by
  by_cases hs : w.toList <+: r.rest
  · obtain ⟨u, hu⟩ := hs
    have hu' : (r.followed m).rest = w.toList ++ (u ++ m.spaces) := by
      rw [← List.append_assoc, hu]
      rfl
    rw [run_bind_ok (run_accept_true hu.symm), run_bind_ok (run_accept_true hu')]
    refine htrue u ?_
    have hpos : 0 < w.toList.length := List.length_pos_iff.mpr (by simpa using hne)
    rw [← hu, List.length_append]
    omega
  · have hno : w.toList.isPrefixOf r.rest = false := by
      rw [Bool.eq_false_iff, ne_eq, List.isPrefixOf_iff_prefix]
      exact hs
    rw [run_bind_ok (run_accept_false hno),
      run_bind_ok (run_accept_false ((isPrefixOf_margin hw m.isMargin r.rest).trans hno))]
    exact hfalse

theorem isMargin_of_dropWhile {s : List Char} (h : s.dropWhile isSpace = []) : IsMargin s := by
  have htake := List.takeWhile_append_dropWhile (p := isSpace) (l := s)
  rw [h, List.append_nil] at htake
  exact htake ▸ List.all_eq_true.mp List.all_takeWhile

theorem run_asidesFrom_margin (fuel : Nat) (h : IsMargin r.rest) :
    EStateM.run (asidesFrom (fuel + 1)) r = .ok () (r.moved []) :=
  run_asidesFrom_bare (List.append_nil r.rest).symm h nofun (isBare_of_head nofun)

/-- Both readers are behind all comments and instructions, with the same faults; something is left for both of
them or for neither. -/
structure BothEnd (r r' : Reader) : Prop where
  left : r.IsSettled
  right : r'.IsSettled
  log : r'.log = r.log
  isEmpty : r'.rest.isEmpty = r.rest.isEmpty

theorem alike_asidesFrom {fuel fuel' : Nat} (hr : m.Fits r) (hfuel : r.rest.length < fuel)
    (hfuel' : r.rest.length < fuel') :
    Alike m BothEnd (EStateM.run (asidesFrom fuel) r) (EStateM.run (asidesFrom fuel') (r.followed m)) := by
  induction fuel generalizing r fuel' with
  | zero => cases hfuel
  | succ fuel ih =>
    obtain ⟨fuel', rfl⟩ := Nat.exists_eq_add_of_le' (Nat.lt_of_le_of_lt (Nat.zero_le _) hfuel')
    by_cases hrest : IsMargin r.rest
    · have hrest' : IsMargin (r.followed m).rest := isMargin_append.mpr ⟨hrest, m.isMargin⟩
      rw [run_asidesFrom_margin fuel hrest, run_asidesFrom_margin fuel' hrest']
      exact .same () ⟨hr.settled.moved _, (hr.settled.followed m).moved _, rfl, rfl⟩
    -- What follows the spaces is a comment, an instruction, or something that may not stand there.
    have hspaces : (r.followed m).rest.dropWhile isSpace = r.rest.dropWhile isSpace ++ m.spaces :=
      dropWhile_isSpace_append fun h => absurd h hrest
    have hlength := (List.dropWhile_suffix isSpace (l := r.rest)).length_le
    have hne : r.rest.dropWhile isSpace ≠ [] := fun h => hrest (isMargin_of_dropWhile h)
    rw [asidesFrom, asidesFrom, run_bind_ok (run_skipSpaces r), run_bind_ok (run_skipSpaces (r.followed m)),
      hspaces]
    generalize r.rest.dropWhile isSpace = s at hlength hne
    have hpos := List.length_pos_iff.mpr hne
    have hmore : ∀ r' : Reader, m.Fits r' → r'.rest.length < s.length →
        Alike m BothEnd (EStateM.run (asidesFrom fuel) r') (EStateM.run (asidesFrom fuel') (r'.followed m)) :=
      fun r' hr' hshorter => ih hr' (by omega) (by omega)
    have hmoved : ∀ u : List Char, m.Fits (r.moved u) := fun u => hr.of_depth (hr.settled.moved u) rfl
    refine alike_accept (r := r.moved s) (by decide) (by decide) (fun u hu => ?_) ?_
    · exact Paired.alike_bind sealed_instruction?.paired (hmoved u) (Nat.lt_succ_self _) fun _ r' hr' hle =>
        hmore r' hr' (Nat.lt_of_le_of_lt hle hu)
    refine alike_accept (r := r.moved s) (by decide) (by decide) (fun u hu => ?_) ?_
    · obtain ⟨k, rfl⟩ := Nat.exists_eq_add_of_le' (by omega : 1 ≤ fuel)
      obtain ⟨k', rfl⟩ := Nat.exists_eq_add_of_le' (by omega : 1 ≤ fuel')
      exact Paired.alike_bind (sealed_comment? k k').paired (hmoved u) (Nat.lt_succ_self _)
        fun _ r' hr' hle =>
        hmore r' hr' (Nat.lt_of_le_of_lt hle hu)
    · refine .same () ⟨(hmoved s).settled, (hmoved s).settled.followed m, rfl, ?_⟩
      obtain ⟨c, u, rfl⟩ := List.exists_cons_of_ne_nil hne
      rfl

theorem alike_asides (hr : m.Fits r) :
    Alike m BothEnd (EStateM.run asides r) (EStateM.run asides (r.followed m)) :=
  alike_asidesFrom hr (Nat.lt_succ_self _) (Nat.lt_succ_of_le (by simp [Reader.followed]))

theorem run_documentEnd {truncated : Bool} (h : r.IsSettled) :
    EStateM.run (documentEnd truncated) r =
      if r.log.isMild = true then
        if !r.rest.isEmpty then .error () (r.noting .strayContent)
        else if truncated then .error () (r.noting .undecodable) else .ok () r
      else .ok () r := by
  rw [documentEnd, run_bind_ok (run_lookAhead h.cutOff)]
  change EStateM.run (if r.log.isMild = true then _ else _ : Reading Unit) r = _
  split
  · rw [run_bind_ok (run_rest r)]
    split
    · exact run_report_fatal h rfl
    split
    · exact run_report_fatal h rfl
    · rfl
  · rfl

/-! ## The document -/

/-- The readers have met the same faults. -/
def SameLog (r r' : Reader) : Prop := r'.log = r.log

theorem alike_documentEnd (truncated : Bool) {r r' : Reader} (h : BothEnd r r') :
    Alike m SameLog (EStateM.run (documentEnd truncated) r) (EStateM.run (documentEnd truncated) r') := by
  rw [run_documentEnd h.left, run_documentEnd h.right, h.log, h.isEmpty]
  split
  · split
    · exact .failed _ _
    split
    · exact .failed _ _
    · exact .same () h.log
  · exact .same () h.log

/-- A document behind what stands in front of its outermost element. -/
def behindProlog (truncated : Bool) : Reading (Option Element) := do
  if ← accept "<" then
    let root ← rootElement?
    asides
    documentEnd truncated
    return root
  else
    if ← isSound then report .empty
    return none

theorem fails_rootless : Fails (do
    if ← isSound then
      report .empty
    return (none : Option Element)) := fun r hr => by
  rw [run_bind_ok (run_isSound hr)]
  exact (fails_report rfl).bind _ r hr

theorem alike_behindProlog (hm : m.metered = true) (truncated : Bool) (hr : m.Fits r) :
    Alike m SameLog (EStateM.run (behindProlog truncated) r)
      (EStateM.run (behindProlog truncated) (r.followed m)) := by
  refine alike_accept (by decide) (by decide) (fun u _ => ?_) ?_
  · refine Paired.alike_bind (sealed_rootElement? hm).paired (hr.of_depth (hr.settled.moved u) rfl)
      (Nat.lt_succ_self _) fun root r' hr' _ => ?_
    exact (alike_asides hr').bind fun _ _ _ hends => (alike_documentEnd truncated hends).bind
      fun _ _ _ hlog =>
      .same root hlog
  · exact fails_rootless.alike fails_rootless hr.settled

theorem isBlocked_behindProlog (truncated : Bool) : IsBlocked (behindProlog truncated) :=
  isBlocked_accept (by decide) (by decide) fails_rootless.blocked

/-- What stands in front of the element may be read in two ways that are paired. -/
theorem alike_document {x y : Reading Unit} (hm : m.metered = true)
    (h : Paired false m (r.rest.length + 1) x y)
    (truncated : Bool) (hr : m.Fits r) :
    Alike m SameLog (EStateM.run (do x; behindProlog truncated) r)
      (EStateM.run (do y; behindProlog truncated) (r.followed m)) := by
  have hagrees := h.agrees hr (Nat.lt_succ_self _)
  have hleft := h.left hr.settled
  have hright := h.right (hr.settled.followed m)
  generalize ho : EStateM.run x r = o at hagrees
  generalize ho' : EStateM.run y (r.followed m) = o' at hagrees
  cases hagrees with
  | same a r' =>
    obtain ⟨hsettled, -, hdepth⟩ := hleft a r' ho
    rw [run_bind_ok ho, run_bind_ok ho']
    exact alike_behindProlog hm truncated (hr.of_depth hsettled hdepth)
  | failed r' r'' =>
    rw [run_bind_error ho, run_bind_error ho']
    exact .failed r' r''
  | spent _ _ hspent hspent' =>
    obtain ⟨r', hrun⟩ := hspent.fails ho hleft fun _ => isBlocked_behindProlog truncated
    obtain ⟨r'', hrun'⟩ := hspent'.fails ho' hright fun _ => isBlocked_behindProlog truncated
    rw [hrun, hrun']
    exact .failed r' r''
  | exceeded hslack hexceeds =>
    obtain ⟨r', rfl, hrefusal⟩ := hexceeds
    exact .exceeded hslack ⟨r', run_bind_error ho, hrefusal⟩

theorem isBlocked_document? (unknown : Option String) (truncated : Bool) :
    IsBlocked (document? unknown truncated) := by
  intro r hr hrest
  rw [run_document? hr]
  split
  · exact ⟨_, rfl⟩
  · have hprolog : ∀ r : Reader, r.IsSettled → Proceeds r (EStateM.run (prolog unknown) r) := fun _ =>
      (paired_prolog (m := ⟨[], .nil, 0, 0, true⟩) (n := 0) rfl unknown).left
    exact IsBlocked.bind_left hprolog (fun _ => isBlocked_behindProlog truncated) r hr hrest

/-- A document, and the same document with a margin behind it. -/
theorem alike_document? (hm : m.metered = true) (unknown : Option String) (truncated : Bool) (hr : m.Fits r) :
    Alike m SameLog (EStateM.run (document? unknown truncated) r)
      (EStateM.run (document? unknown truncated) (r.followed m)) := by
  cases hrest : r.rest with
  | nil =>
    have hmargin : IsMargin (r.followed m).rest := isMargin_append.mpr ⟨hrest ▸ .nil, m.isMargin⟩
    obtain ⟨r', hrun⟩ := isBlocked_document? unknown truncated r hr.settled (hrest ▸ .nil)
    obtain ⟨r'', hrun'⟩ := isBlocked_document? unknown truncated _ (hr.settled.followed m) hmargin
    rw [hrun, hrun']
    exact .failed r' r''
  | cons c u =>
    have hfollowed : (r.followed m).rest = c :: (u ++ m.spaces) := by
      rw [← List.cons_append, ← hrest]
      rfl
    rw [run_document? hr.settled, run_document? (hr.settled.followed m), hrest, hfollowed]
    change Alike m SameLog (if decide (some c = some '\x00') = true then _ else _)
      (if decide (some c = some '\x00') = true then _ else _)
    split
    · exact .failed _ _
    · exact alike_document hm (paired_prolog hm unknown) truncated hr

theorem run_asidesFrom_led {fuel : Nat} {lead : List Char} (hlead : IsMargin lead) (h : r.rest = lead ++ s) :
    EStateM.run (asidesFrom (fuel + 1)) r = EStateM.run (asidesFrom (fuel + 1)) (r.moved s) := by
  rw [asidesFrom, run_bind_ok (run_skipSpaces r), run_bind_ok (run_skipSpaces (r.moved s)), h,
    List.dropWhile_append_of_pos hlead]
  rfl

theorem run_undeclaredProlog {lead : List Char} (hlead : IsMargin lead) (h : r.rest = lead ++ s) :
    EStateM.run undeclaredProlog r = EStateM.run (undeclaredPrologFrom (r.rest.length + 1)) (r.moved s) := by
  have hasides : EStateM.run asides r = EStateM.run (asidesFrom (r.rest.length + 1)) (r.moved s) :=
    run_asidesFrom_led hlead h
  rw [undeclaredProlog, undeclaredPrologFrom, run_bind, run_bind, hasides]

/-- White space in front of a document without an XML declaration, too. -/
theorem alike_document?_led (hm : m.metered = true) (unknown : Option String) (truncated : Bool)
    (hr : m.Fits r)
    (hrest : r.rest.head? = some '<') {lead : List Char} (hlead : IsMargin lead) (hne : lead ≠ [])
    (hplain : isDeclared r.rest = false) :
    Alike m SameLog (EStateM.run (document? unknown truncated) r)
      (EStateM.run (document? unknown truncated) ((r.followed m).moved (lead ++ (r.followed m).rest))) := by
  obtain ⟨u, hu⟩ : ∃ u, r.rest = '<' :: u := List.head?_eq_some_iff.mp hrest
  obtain ⟨c, more, rfl⟩ := List.exists_cons_of_ne_nil hne
  have hc : c ≠ '\x00' := ne_of_isSpace (hlead c List.mem_cons_self) rfl
  have hled : EStateM.run undeclaredProlog ((r.followed m).moved (c :: more ++ (r.followed m).rest)) =
      EStateM.run (undeclaredPrologFrom ((c :: more ++ (r.followed m).rest).length + 1)) (r.followed m) :=
    run_undeclaredProlog hlead rfl
  have hplain' : isDeclared (c :: more ++ (r.followed m).rest) = false := isDeclared_margin hlead hne
  rw [run_document? hr.settled, run_document? ((hr.settled.followed m).moved _), hu, if_neg (by simp),
    if_neg (by simpa using hc)]
  change Alike m SameLog (EStateM.run (prolog unknown >>= fun _ => behindProlog truncated) r)
    (EStateM.run (prolog unknown >>= fun _ => behindProlog truncated) _)
  rw [run_bind, run_bind, run_prolog_undeclared hplain, run_prolog_undeclared hplain', hled,
    run_undeclaredProlog .nil (List.nil_append r.rest).symm, ← run_bind, ← run_bind]
  refine alike_document hm (paired_undeclaredPrologFrom hm (.inr ⟨Nat.le_refl _, ?_⟩)) truncated hr
  simp [Reader.followed]
  omega

/-- A tag begins with a name. -/
theorem document?_refused_unnamed {unknown : Option String} {truncated : Bool} {lead u : List Char} {c : Char}
    (h : r.IsSettled) (hr : r.rest = lead ++ '<' :: c :: u) (hlead : IsMargin lead)
    (hc : isNameStart c = false)
    (hdeclaration : c ≠ '!') (hinstruction : c ≠ '?') :
    ∃ r', EStateM.run (document? unknown truncated) r = .error () r' := by
  have hbare : IsBare ('<' :: c :: u) := by
    intro w hw
    simp only [List.mem_cons, List.not_mem_nil, or_false] at hw
    rcases hw with rfl | rfl | rfl
    · simp [List.isPrefixOf, hinstruction.symm]
    · simp [List.isPrefixOf, hdeclaration.symm]
    · simp [List.isPrefixOf, hdeclaration.symm]
  have hplain : isDeclared r.rest = false := by
    rw [hr]
    cases lead with
    | nil => simp [isDeclared_eq, List.isPrefixOf, hinstruction.symm]
    | cons d lead => exact isDeclared_margin hlead (List.cons_ne_nil _ _)
  have hname : nameFrom (c :: u) = ([], c :: u) := by
    change (if isNameStart c then _ else _) = _
    rw [hc]
    rfl
  have hunnamed : EStateM.run labelledName? (r.moved (c :: u)) = .ok none (r.moved (c :: u)) := by
    rw [run_labelledName? (h.moved _), Reader.rest_moved, hname]
    rfl
  have htag : ∃ r', EStateM.run (startTag? (c :: u).length .outermost) (r.moved (c :: u)) = .error () r' := by
    rw [startTag?, run_bind_ok hunnamed]
    exact (fails_report rfl).bind _ _ (h.moved _)
  have hroot : ∃ r', EStateM.run rootElement? (r.moved (c :: u)) = .error () r' := by
    obtain ⟨r', hrun⟩ := htag
    rw [rootElement?_eq, run_bind_ok (run_rest _)]
    exact ⟨r', run_bind_error hrun⟩
  obtain ⟨r', hrun⟩ := hroot
  rw [run_document? h]
  split
  · exact ⟨_, rfl⟩
  · refine ⟨r', ?_⟩
    rw [run_bind_ok (run_prolog_bare hr hlead (by rintro d ⟨⟩; rfl) hbare hplain),
      run_bind_ok (run_accept_true (s := c :: u) rfl), if_pos rfl]
    exact run_bind_error hrun

end Reading

/-! ## Sources -/

/-- A source between white space. -/
def Source.between (source : Source) (lead trail : List Char) : Source :=
  { source with
    characters := lead ++ (source.characters ++ trail), size := source.size + (lead.length + trail.length) }

/-- All bytes of the source could be decoded. -/
structure Source.IsWhole (source : Source) : Prop where
  undamaged : source.isDamaged = false
  uncut : source.cutOff = none

theorem Source.IsWhole.isSettled {source : Source} (h : source.IsWhole) :
    (Reader.ofSource source).IsSettled :=
  ⟨h.undamaged, h.uncut, rfl, Nat.le_refl _⟩

/-- What a reading of a document comes to. -/
def outcome : Reading.Result (Option Element) → Except Fault Document
  | .ok root r =>
    match r.log.refusal?, root with
    | some fault, _ => .error fault
    | none, some root => .ok ⟨root⟩
    | none, none => .error .empty
  | .error _ r => .error (r.log.refusal?.getD .empty)

theorem ofSource_eq (source : Source) : Document.ofSource source =
    outcome (EStateM.run (Reading.document? source.unknownEncoding source.truncated)
      (Reader.ofSource source)) := by
  unfold Document.ofSource outcome
  rfl

theorem outcome_alike {m : Margin} {o o' : Reading.Result (Option Element)}
    (h : Reading.Alike m Reading.SameLog o o') :
    (outcome o').toOption = (outcome o).toOption ∨ 0 < m.slack ∧ outcome o = .error .excessiveExpansion := by
  cases h with
  | @same a r r' hlog =>
    left
    have hlog : r'.log = r.log := hlog
    dsimp only [outcome]
    rw [hlog]
  | failed r r' => exact .inl rfl
  | exceeded hslack hexceeds =>
    obtain ⟨r, rfl, hrefusal⟩ := hexceeds
    exact .inr ⟨hslack, by rw [outcome, hrefusal]; rfl⟩

/-- The document between white space is the same, unless there is a declaration that must come first. Only
what it may expand to can be more. -/
theorem ofSource_between {source : Source} (h : source.IsWhole) {lead trail : List Char}
    (hlead : IsMargin lead) (htrail : IsMargin trail)
    (hfront : lead = [] ∨ source.characters.head? = some '<' ∧ Reading.isDeclared source.characters = false) :
    (Document.ofSource (source.between lead trail)).toOption = (Document.ofSource source).toOption ∨
      lead ≠ [] ∧ Document.ofSource source = .error .excessiveExpansion := by
  let m : Margin := ⟨trail, htrail, lead.length + trail.length, lead.length, true⟩
  have hfits : m.Fits (Reader.ofSource source) :=
    ⟨h.isSettled, fun hdepth => absurd hdepth (Nat.lt_irrefl 1), fun _ _ => Nat.add_comm _ _⟩
  have hdamage : (source.between lead trail).isDamaged = source.isDamaged := by
    have hmark : ∀ {s : List Char}, IsMargin s → damageMark ∉ s :=
      fun hs hmem => absurd (hs _ hmem) (by decide)
    simp [Source.isDamaged, Source.between, hmark hlead, hmark htrail]
  have hreader : Reader.ofSource (source.between lead trail) =
      ((Reader.ofSource source).followed m).moved (lead ++ ((Reader.ofSource source).followed m).rest) := by
    unfold Reader.ofSource
    rw [hdamage]
    rfl
  rw [ofSource_eq, ofSource_eq, hreader]
  have hslack : 0 < m.slack → lead ≠ [] := fun h => List.length_pos_iff.mp h
  refine (outcome_alike (m := m) ?_).imp_right fun ⟨hpos, ho⟩ => ⟨hslack hpos, ho⟩
  rcases hfront with rfl | ⟨hhead, hplain⟩
  · exact Reading.alike_document? rfl _ _ hfits
  · by_cases hne : lead = []
    · subst hne
      exact Reading.alike_document? rfl _ _ hfits
    · exact Reading.alike_document?_led rfl _ _ hfits hhead hlead hne hplain

end Storyboard.Markup
