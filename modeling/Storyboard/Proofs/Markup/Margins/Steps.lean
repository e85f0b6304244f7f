import Storyboard.Proofs.Markup.Margins.Pairs
/-!
# The basic readings in front of a margin

Each reading that others are built from is paired with itself. Names, words that are looked for and faults are
so to the very end of a text. Spaces, runs of characters and single characters are so as long as there is
more than white space: they would go on into the margin.

* `paired_report`, `paired_accept`, `paired_labelledName?`: to the very end.
* `paired_skipSpaces`, `paired_run`, `paired_next?`: up to the white space at the end.
* `paired_charge`: what a document expands to is measured by what was read of it.
* `paired_within`: a text inside the document has no margin.
-/
namespace Storyboard.Markup

/-! ## Texts -/

theorem takeWhile_margin {p : Char → Bool} {e : List Char} (he : ∀ c ∈ e, p c = false) (s : List Char) :
    (s ++ e).takeWhile p = s.takeWhile p := by
  induction s with
  | nil =>
    cases e with
    | nil => rfl
    | cons c e => simp [he c List.mem_cons_self]
  | cons c s ih => simp only [List.cons_append, List.takeWhile_cons, ih]

theorem dropWhile_append_margin {p : Char → Bool} {e : List Char} (he : ∀ c ∈ e, p c = false)
    (s : List Char) :
    (s ++ e).dropWhile p = s.dropWhile p ++ e := by
  induction s with
  | nil =>
    cases e with
    | nil => rfl
    | cons c e => simp [he c List.mem_cons_self]
  | cons c s ih =>
    simp only [List.cons_append, List.dropWhile_cons, ih]
    split <;> rfl

theorem nameFrom_margin {e : List Char} (he : IsMargin e) (s : List Char) :
    nameFrom (s ++ e) = ((nameFrom s).1, (nameFrom s).2 ++ e) := by
  have hnot : ∀ c ∈ e, isNameCharacter c = false := fun c hc => isNameCharacter_of_isSpace (he c hc)
  cases s with
  | nil =>
    cases e with
    | nil => rfl
    | cons c e =>
      have hc := hnot c List.mem_cons_self
      have hstart : isNameStart c = false := by
        simp only [isNameCharacter, Bool.or_eq_false_iff] at hc
        exact hc.1
      simp [nameFrom, hstart]
  | cons c s =>
    change (if isNameStart c then _ else _) = _
    change _ = ((if isNameStart c then _ else _ : List Char × List Char).1,
      (if isNameStart c then _ else _ : List Char × List Char).2 ++ e)
    split
    · rw [takeWhile_margin hnot, dropWhile_append_margin hnot]
    · rfl

theorem nameFrom_append_self (s : List Char) : (nameFrom s).1 ++ (nameFrom s).2 = s := by
  unfold nameFrom
  split
  · rfl
  · split <;> simp

theorem ne_of_isSpace {c d : Char} (h : isSpace c = true) (hd : isSpace d = false) : c ≠ d := by
  rintro rfl
  rw [h] at hd
  cases hd

theorem head?_append_iff {c : Char} (hc : isSpace c = false) {s e : List Char} (he : IsMargin e) :
    (s ++ e).head? = some c ↔ s.head? = some c := by
  cases s with
  | nil => exact ⟨fun h => absurd rfl (ne_of_isSpace (he _ (List.mem_of_mem_head? h)) hc), nofun⟩
  | cons d s => rfl

/-- Spaces behind a text that is more than white space are not among those at its start. -/
theorem dropWhile_isSpace_append {s e : List Char} (h : IsMargin s → e = []) :
    (s ++ e).dropWhile isSpace = s.dropWhile isSpace ++ e := by
  induction s with
  | nil => rw [h .nil]; rfl
  | cons c s ih =>
    by_cases hc : isSpace c = true
    · simpa [hc] using ih fun hs => h (List.forall_mem_cons.mpr ⟨hc, hs⟩)
    · simp [hc]

theorem head?_append {s e : List Char} (h : IsMargin s → e = []) : (s ++ e).head? = s.head? := by
  cases s with
  | nil => simp [h .nil]
  | cons c s => rfl

theorem isEmpty_append {s e : List Char} (h : IsMargin s → e = []) : (s ++ e).isEmpty = s.isEmpty := by
  cases s with
  | nil => rw [h .nil]; rfl
  | cons c s => rfl

theorem isPrefixOf_margin {w e : List Char} (hw : w.any isSpace = false) (he : IsMargin e)
    (s : List Char) :
    w.isPrefixOf (s ++ e) = w.isPrefixOf s := by
  induction w generalizing s with
  | nil => simp
  | cons c w ih =>
    obtain ⟨hc, hw⟩ := Bool.or_eq_false_iff.mp (List.any_cons ▸ hw)
    cases s with
    | nil =>
      refine isPrefixOf_eq_false (List.cons_ne_nil _ _) ?_
      intro hhead
      have hmem : c ∈ e := List.mem_of_mem_head? (hhead ▸ rfl : c ∈ e.head?)
      rw [he c hmem] at hc
      cases hc
    | cons d s => simp only [List.cons_append, List.isPrefixOf, ih hw]

/-! ## Readers -/

/-- How much of the document was read. -/
def Reader.passed (r : Reader) : Nat := if r.depth ≤ 1 then r.size - byteCount r.rest else 0

/-- The reader after an expansion. -/
def Reader.expanding (r : Reader) (size : Nat) : Reader :=
  { r with expanded := r.expanded + size + Reading.referenceCost }

/-- The reader at the start of a text inside the current one. -/
def Reader.entering (r : Reader) (name : String) (text : List Char) (measured : Bool) : Reader :=
  { r with rest := text, depth := r.depth + 1, expanded := 0, measured, opened := name :: r.opened }

/-- The reader back in the text that it came from. -/
def Reader.leaving (r outer : Reader) : Reader :=
  { r with
    rest := outer.rest, depth := outer.depth, expanded := outer.expanded
    measured := outer.measured, opened := outer.opened }

theorem Reader.IsSettled.entering {r : Reader} (h : r.IsSettled) (name : String) (text : List Char)
    (measured : Bool) : (r.entering name text measured).IsSettled :=
  ⟨h.damaged, h.cutOff, h.sound, Nat.le_add_left 1 r.depth⟩

theorem Reader.IsSettled.leaving {r outer : Reader} (h : r.IsSettled) (houter : outer.IsSettled) :
    (r.leaving outer).IsSettled := ⟨h.damaged, h.cutOff, h.sound, houter.depth⟩

theorem Margin.Fits.entering {m : Margin} {r : Reader} (h : m.Fits r) (name : String) (text : List Char)
    (measured : Bool) : m.inside.Fits (r.entering name text measured) where
  settled := h.settled.entering name text measured
  inside _ := rfl
  metered _ hdepth := absurd h.settled.depth (by have : r.depth + 1 ≤ 1 := hdepth; omega)

namespace Reading

variable {α β : Type} {t : Bool} {m : Margin} {n k : Nat} {r : Reader}

/-! ## Faults -/

theorem isSound_add {log : Log} {fault : Fault} (h : log.isSound = true) (hmild : fault.gravity ≠ .fatal) :
    (log.add fault).isSound = true := by
  unfold Log.add
  split
  · simp only [Log.isSound, List.all_cons, Bool.and_eq_true, bne_iff_ne] at h ⊢
    exact ⟨hmild, h⟩
  · exact h

theorem paired_report (fault : Fault) : Steady t m n (report fault) := by
  refine paired_self (fun r hr => ?_) fun r hr _ => ?_
  · rw [run_report hr]
    split
    · rintro _ _ ⟨⟩
    · rintro _ _ ⟨⟩
      exact ⟨⟨hr.damaged, hr.cutOff, isSound_add hr.sound ‹_›, hr.depth⟩, List.suffix_refl _, rfl⟩
  · rw [run_report hr.settled, run_report (hr.settled.followed m)]
    split
    · exact .failed _ _
    · exact .same () (r.noting fault)

theorem paired_reportAll (faults : List Fault) : Steady t m n (reportAll faults) :=
  paired_forM paired_report faults

/-- The reading fails in any case. -/
def Fails (x : Reading α) : Prop := ∀ r : Reader, r.IsSettled → ∃ r', EStateM.run x r = .error () r'

theorem Fails.blocked {x : Reading α} (h : Fails x) : IsBlocked x := fun r hr _ => h r hr

theorem Fails.proceeds {x : Reading α} (h : Fails x) (hr : r.IsSettled) : Proceeds r (EStateM.run x r) := by
  obtain ⟨r', hrun⟩ := h r hr
  rw [hrun]
  rintro _ _ ⟨⟩

theorem Fails.paired {x y : Reading α} (hx : Fails x) (hy : Fails y) : Paired t m n x y := by
  refine paired_of (fun _ => hx.proceeds) (fun _ => hy.proceeds) fun r hr _ => ?_
  obtain ⟨r', hrun⟩ := hx r hr.settled
  obtain ⟨r'', hrun'⟩ := hy _ (hr.settled.followed m)
  rw [hrun, hrun']
  exact .failed r' r''

theorem Fails.sealed {x y : Reading α} (hx : Fails x) (hy : Fails y) : Sealed m n x y :=
  ⟨hx.paired hy, hx.blocked, hy.blocked⟩

theorem Fails.bind {x : Reading α} (h : Fails x) (f : α → Reading β) : Fails (x >>= f) := fun r hr => by
  obtain ⟨r', hrun⟩ := h r hr
  exact ⟨r', run_bind_error hrun⟩

theorem fails_report {fault : Fault} (h : fault.gravity = .fatal) : Fails (report fault) :=
  fun _ hr => ⟨_, run_report_fatal hr h⟩

theorem fails_giveUp {fault : Fault} (h : fault.gravity = .fatal) : Fails (giveUp (α := α) fault) :=
  (fails_report h).bind _

theorem paired_isSound : Steady t m n isSound := by
  refine paired_self (fun r hr => ?_) fun r hr _ => ?_
  · rw [run_isSound hr]
    exact .pure hr
  · rw [run_isSound hr.settled, run_isSound (hr.settled.followed m)]
    exact .same true r

theorem run_reportDamage (h : r.IsSettled) : EStateM.run reportDamage r = .ok () r := by
  change EStateM.run (if r.damaged then _ else pure () : Reading Unit) r = _
  rw [h.damaged]
  rfl

theorem paired_reportDamage : Steady t m n reportDamage := by
  refine paired_self (fun r hr => ?_) fun r hr _ => ?_
  · rw [run_reportDamage hr]
    exact .pure hr
  · rw [run_reportDamage hr.settled, run_reportDamage (hr.settled.followed m)]
    exact .same () r

/-! ## Words and names -/

theorem paired_accept {w : String} (hw : w.toList.any isSpace = false) :
    Steady t m n (accept w) := by
  refine paired_self (fun r hr => ?_) fun r hr _ => ?_
  · rw [run_accept]
    split
    · rintro _ _ ⟨⟩
      exact ⟨hr.moved _, List.drop_suffix _ _, rfl⟩
    · exact .pure hr
  · rw [run_accept, run_accept]
    change Agrees m t _ (if w.toList.isPrefixOf (r.rest ++ m.spaces) = true then _ else _)
    rw [isPrefixOf_margin hw m.isMargin]
    split
    · rename_i hbegins
      have hlength : w.length ≤ r.rest.length := by
        rw [← String.length_toList]
        exact (List.isPrefixOf_iff_prefix.mp hbegins).length_le
      have hdrop : (r.followed m).rest.drop w.length = r.rest.drop w.length ++ m.spaces :=
        List.drop_append_of_le_length hlength
      rw [hdrop]
      exact .same true (r.moved (r.rest.drop w.length))
    · exact .same false r

/-- A word that is there is passed, and otherwise the text stays. -/
theorem pairedOn_accept {w : String} (hw : w.toList.any isSpace = false) (hne : w ≠ "") {s e : List Char}
    (he : IsMargin e) {f g : Bool → Reading α} (htrue : Paired t m n (f true) (g true))
    (hfalse : PairedOn t m (n + 1) s (s ++ e) (f false) (g false)) :
    PairedOn t m (n + 1) s (s ++ e) (accept w >>= f) (accept w >>= g) := by
  have hpos : 0 < w.toList.length := List.length_pos_iff.mpr (by simpa using hne)
  by_cases hs : w.toList <+: s
  · obtain ⟨u, rfl⟩ := hs
    refine pairedOn_congr (pairedOn_moveTo he (List.suffix_append w.toList u) (k := n) (fun hn => ?_) htrue)
      (fun r _ hr => run_bind_ok (run_accept_true hr))
      fun r _ hr => run_bind_ok (run_accept_true (hr.trans (List.append_assoc _ _ _)))
    rw [List.length_append] at hn
    omega
  · have hno : w.toList.isPrefixOf s = false := by
      rw [Bool.eq_false_iff, ne_eq, List.isPrefixOf_iff_prefix]
      exact hs
    have hno' : w.toList.isPrefixOf (s ++ e) = false := (isPrefixOf_margin hw he s).trans hno
    exact pairedOn_congr hfalse (fun r _ hr => run_bind_ok (run_accept_false (hr ▸ hno)))
      fun r _ hr => run_bind_ok (run_accept_false (hr ▸ hno'))

theorem shortens_accept {w : String} (hw : w ≠ "") : Shortens (· = true) (accept w) := by
  intro r _ a r' hrun ha
  have hpos : 0 < w.length := by
    rw [← String.length_toList]
    exact List.length_pos_iff.mpr (by simpa using hw)
  rw [run_accept] at hrun
  split at hrun
  · rename_i hbegins
    have hlength := (List.isPrefixOf_iff_prefix.mp hbegins).length_le
    rw [String.length_toList] at hlength
    cases hrun
    rw [Reader.rest_moved, List.length_drop]
    omega
  · cases hrun
    cases ha

theorem run_accept_margin {w : String} (hw : w.toList.any isSpace = false) (hne : w ≠ "")
    (h : IsMargin r.rest) : EStateM.run (accept w) r = .ok false r := by
  have hnil : w.toList.isPrefixOf ([] ++ r.rest) = w.toList.isPrefixOf [] := isPrefixOf_margin hw h []
  refine run_accept_false (hnil.trans (isPrefixOf_eq_false (by simpa using hne) ?_))
  cases hlist : w.toList with
  | nil => exact absurd hlist (by simpa using hne)
  | cons c w => simp

theorem paired_sees {w : String} (hw : w.toList.any isSpace = false) :
    Steady t m n (sees w) := by
  refine paired_self (fun r hr => .pure hr) fun r _ _ => ?_
  change Agrees m t (.ok (w.toList.isPrefixOf r.rest) r)
    (.ok (w.toList.isPrefixOf (r.rest ++ m.spaces)) (r.followed m))
  rw [isPrefixOf_margin hw m.isMargin]
  exact .same _ r

theorem paired_name? : Steady t m n name? := by
  refine paired_rest fun s e he _ => ?_
  dsimp only
  rw [nameFrom_margin he]
  refine pairedOn_moveTo he ⟨(nameFrom s).1, nameFrom_append_self s⟩ (k := n) ?_ ?_
  · have hlength := congrArg List.length (nameFrom_append_self s)
    rw [List.length_append] at hlength
    omega
  · exact .ite (fun _ => (fails_report rfl).bind _ |>.paired ((fails_report rfl).bind _)) fun _ =>
      paired_pure _

theorem suffix_of_nameFrom (s : List Char) : (nameFrom s).2 <:+ s := ⟨(nameFrom s).1, nameFrom_append_self s⟩

theorem shortens_name? : Shortens (·.isSome) name? := by
  intro r hr a r' hrun ha
  rw [run_name? hr] at hrun
  split at hrun
  · cases hrun
  · cases hrun
    have hlength := congrArg List.length (nameFrom_append_self r.rest)
    rw [List.length_append] at hlength
    cases hname : (nameFrom r.rest).1 with
    | nil => simp [hname] at ha
    | cons c name =>
      rw [hname, List.length_cons] at hlength
      rw [Reader.rest_moved]
      omega

theorem run_name?_margin (hr : r.IsSettled) (h : IsMargin r.rest) : EStateM.run name? r = .ok none r := by
  have hname : nameFrom r.rest = ([], r.rest) := nameFrom_margin h []
  rw [run_name? hr, hname]
  rfl

/-! ## Names with labels -/

/-- What a written name leaves of itself is shorter than the name. -/
theorem ofName_rest (s : List Char) : (LabelledName.ofName s).2.2 <:+ s ∧
    (s ≠ [] → (LabelledName.ofName s).2.2.length < s.length) := by
  have hnil : ([] : List Char) <:+ s ∧ (s ≠ [] → ([] : List Char).length < s.length) :=
    ⟨List.nil_suffix, List.length_pos_iff.mpr⟩
  unfold LabelledName.ofName
  dsimp only
  split
  · exact hnil
  · rename_i base hbase
    split
    · exact hnil
    · split
      · exact hnil
      · rename_i more hmore
        split
        · exact hnil
        · have hbase : _ :: base <:+ s := hbase ▸ List.dropWhile_suffix _
          have hmore : _ :: more <:+ base := hmore ▸ List.dropWhile_suffix _
          refine ⟨((List.suffix_cons _ _).trans hmore).trans ((List.suffix_cons _ _).trans hbase),
            fun _ => ?_⟩
          have hlength := hbase.length_le
          have hlength' := hmore.length_le
          rw [List.length_cons] at hlength hlength'
          change more.length < s.length
          omega

/-- What a reading does with a written name, once it has it. -/
def labelled (name : List Char) : Reading (Option LabelledName) := do
  reportAll (LabelledName.ofName name).2.1
  return some (LabelledName.ofName name).1

theorem paired_labelled (name : List Char) : Steady t m n (labelled name) :=
  (paired_reportAll _).bind fun _ => paired_pure _

theorem proceeds_labelled (name : List Char) (hr : r.IsSettled) :
    Proceeds r (EStateM.run (labelled name) r) :=
  (paired_labelled (t := true) (m := .none) (n := 0) name).left hr

theorem run_labelledName? (h : r.IsSettled) : EStateM.run labelledName? r =
    if longestName < byteCount (nameFrom r.rest).1 then
      .error () ((r.moved (nameFrom r.rest).2).noting (.badName "a name that is too long"))
    else if (nameFrom r.rest).1.isEmpty then .ok none (r.moved (nameFrom r.rest).2)
    else EStateM.run (labelled (nameFrom r.rest).1)
      (r.moved ((LabelledName.ofName (nameFrom r.rest).1).2.2 ++ (nameFrom r.rest).2)) := by
  have hrun := run_name? h
  split
  · rw [if_pos ‹_›] at hrun
    exact run_bind_error hrun
  · rw [if_neg ‹_›] at hrun
    rw [labelledName?, run_bind_ok hrun]
    by_cases hname : (nameFrom r.rest).1.isEmpty = true
    · rw [if_pos hname, if_pos hname]
      rfl
    · rw [if_neg hname, if_neg hname]
      dsimp only
      rw [String.toList_ofList]
      rfl

theorem paired_labelledName? : Steady t m n labelledName? := by
  have hsuffix : ∀ s : List Char, (LabelledName.ofName (nameFrom s).1).2.2 ++ (nameFrom s).2 <:+ s := by
    intro s
    obtain ⟨p, hp⟩ := (ofName_rest (nameFrom s).1).1
    refine ⟨p, ?_⟩
    rw [← List.append_assoc, hp, nameFrom_append_self]
  refine paired_self (fun r hr => ?_) fun r hr hn => ?_
  · rw [run_labelledName? hr]
    split
    · rintro _ _ ⟨⟩
    split
    · rintro _ _ ⟨⟩
      exact ⟨hr.moved _, suffix_of_nameFrom r.rest, rfl⟩
    · intro a r' hrun
      obtain ⟨hsettled, hmore, hdepth⟩ := proceeds_labelled _ (hr.moved _) a r' hrun
      exact ⟨hsettled, hmore.trans (hsuffix r.rest), hdepth⟩
  · have hname : nameFrom (r.followed m).rest = ((nameFrom r.rest).1, (nameFrom r.rest).2 ++ m.spaces) :=
      nameFrom_margin m.isMargin r.rest
    rw [run_labelledName? hr.settled, run_labelledName? (hr.settled.followed m), hname]
    split
    · exact .failed _ _
    split
    · exact .same none (r.moved (nameFrom r.rest).2)
    · have hmoved := hr.of_depth (hr.settled.moved
        ((LabelledName.ofName (nameFrom r.rest).1).2.2 ++ (nameFrom r.rest).2)) rfl
      have hagrees := (paired_labelled (t := t) (n := n) (nameFrom r.rest).1).agrees hmoved
        (Nat.lt_of_le_of_lt (hsuffix r.rest).length_le hn)
      rw [← List.append_assoc]
      exact hagrees

theorem shortens_labelledName? : Shortens (·.isSome) labelledName? := by
  intro r hr a r' hrun ha
  rw [run_labelledName? hr] at hrun
  split at hrun
  · cases hrun
  split at hrun
  · cases hrun
    cases ha
  · rename_i hname
    have hlength := congrArg List.length (nameFrom_append_self r.rest)
    have hshorter := (ofName_rest (nameFrom r.rest).1).2 (by simpa using hname)
    have hrest := (proceeds_labelled _ (hr.moved _) a r' hrun).2.1.length_le
    rw [List.length_append] at hlength
    rw [Reader.rest_moved, List.length_append] at hrest
    omega

/-! ## Up to the white space at the end -/

theorem paired_skipSpaces : Steady false m n skipSpaces := by
  refine paired_rest fun s e he hlive => ?_
  rw [dropWhile_isSpace_append (hlive rfl), head?_append (hlive rfl)]
  exact pairedOn_moveTo he (List.dropWhile_suffix _)
    (fun hn => Nat.lt_of_le_of_lt (List.dropWhile_suffix _).length_le hn) (paired_pure _)

theorem paired_expectSpaces (fault : Fault) : Steady false m n (expectSpaces fault) :=
  paired_skipSpaces.bind fun _ => .guard (fun _ => paired_report fault) (paired_pure _)

/-- A step without a text of its own to go through is told by its run. -/
theorem paired_of_run {x : Reading α} {f : Reader → α} {d : Reader → List Char}
    (hrun : ∀ r : Reader, r.IsSettled → EStateM.run x r = .ok (f r) (r.moved (d r)))
    (hd : ∀ r : Reader, d r <:+ r.rest)
    (h : ∀ r : Reader, m.Fits r → f (r.followed m) = f r ∧ d (r.followed m) = d r ++ m.spaces ∨
      m.spaces ≠ [] ∧ IsMargin (d r) ∧ IsMargin (d (r.followed m))) : Steady false m n x := by
  refine paired_self (fun r hr => ?_) fun r hr _ => ?_
  · rw [hrun r hr]
    rintro _ _ ⟨⟩
    exact ⟨hr.moved _, hd r, rfl⟩
  · rw [hrun r hr.settled, hrun _ (hr.settled.followed m)]
    rcases h r hr with ⟨hf, hd⟩ | ⟨hne, hspent, hspent'⟩
    · rw [hf, hd]
      exact .same (f r) (r.moved (d r))
    · refine .spent rfl hne ?_ ?_
      · rintro _ _ ⟨⟩
        exact hspent
      · rintro _ _ ⟨⟩
        exact hspent'

theorem paired_next? : Steady false m n next? := by
  refine paired_of_run (f := fun r => r.rest.head?) (d := Reader.rest) (fun _ _ => rfl)
    (fun _ => List.suffix_refl _) fun r _ => ?_
  by_cases hspent : IsMargin r.rest ∧ m.spaces ≠ []
  · exact .inr ⟨hspent.2, hspent.1, isMargin_append.mpr ⟨hspent.1, m.isMargin⟩⟩
  · refine .inl ⟨head?_append fun hrest => ?_, rfl⟩
    exact Classical.byContradiction fun hne => hspent ⟨hrest, hne⟩

theorem paired_skip (k : Nat) : Steady false m n (skip k) := by
  refine paired_of_run (f := fun _ => ()) (d := fun r => r.rest.drop k) (fun _ _ => rfl)
    (fun _ => List.drop_suffix _ _) fun r _ => ?_
  by_cases hk : k ≤ r.rest.length
  · exact .inl ⟨rfl, List.drop_append_of_le_length hk⟩
  · have hdrop : (r.followed m).rest.drop k = m.spaces.drop (k - r.rest.length) := by
      change (r.rest ++ m.spaces).drop k = _
      rw [List.drop_append, List.drop_eq_nil_of_le (by omega), List.nil_append]
    have hnil : r.rest.drop k = [] := List.drop_eq_nil_of_le (by omega)
    by_cases hne : m.spaces = []
    · left
      rw [hdrop, hne, hnil]
      simp
    · right
      rw [hdrop, hnil]
      exact ⟨hne, .nil, m.isMargin.of_suffix (List.drop_suffix _ _)⟩

theorem paired_skipAny : Steady false m n skipAny :=
  paired_next?.bind fun _ => .guard (fun _ => paired_reportDamage) (paired_skip 1)

/-! ## Runs of characters -/

/-- Where a run stops is not changed by white space behind the text. -/
def IsBlind (stop : List Char → Bool) : Prop :=
  (∀ s e, s ≠ [] → IsMargin e → stop (s ++ e) = stop s) ∧ ∀ c e, IsMargin (c :: e) → stop (c :: e) = false

theorem isBlind_isPrefixOf {w : List Char} (hw : w.any isSpace = false) (hne : w ≠ []) :
    IsBlind w.isPrefixOf := by
  refine ⟨fun s e _ he => isPrefixOf_margin hw he s, fun c e he => ?_⟩
  have hnil : w.isPrefixOf ([] ++ c :: e) = w.isPrefixOf [] := isPrefixOf_margin hw he []
  obtain ⟨d, w, rfl⟩ := List.exists_cons_of_ne_nil hne
  exact hnil

theorem isLegal_of_isSpace {c : Char} (h : isSpace c = true) : isLegal c = true := by
  rcases eq_of_isSpace h with rfl | rfl | rfl | rfl <;> rfl

theorem runFrom_margin {stop : List Char → Bool} (h : IsBlind stop) {e : List Char} (he : IsMargin e)
    (acc : List Char) : (runFrom stop acc e).2 = [] := by
  induction e generalizing acc with
  | nil => rfl
  | cons c e ih =>
    obtain ⟨hc, he'⟩ := List.forall_mem_cons.mp he
    rw [runFrom, h.2 c e he, isLegal_of_isSpace hc]
    exact ih he' _

/-- A run ends at the same place, or at the end. -/
theorem runFrom_append {stop : List Char → Bool} (h : IsBlind stop) {e : List Char} (he : IsMargin e)
    (s acc : List Char) : (runFrom stop acc s).2 = [] ∧ (runFrom stop acc (s ++ e)).2 = [] ∨
      runFrom stop acc (s ++ e) = ((runFrom stop acc s).1, (runFrom stop acc s).2 ++ e) := by
  induction s generalizing acc with
  | nil => exact .inl ⟨rfl, runFrom_margin h he acc⟩
  | cons c s ih =>
    have hstop := h.1 (c :: s) e (List.cons_ne_nil _ _) he
    rw [List.cons_append] at hstop ⊢
    rw [runFrom, runFrom, hstop]
    split
    · exact .inr rfl
    · exact ih _

theorem suffix_of_runFrom (stop : List Char → Bool) (s acc : List Char) : (runFrom stop acc s).2 <:+ s := by
  induction s generalizing acc with
  | nil => exact List.suffix_refl _
  | cons c s ih =>
    rw [runFrom]
    split
    · exact List.suffix_refl _
    · exact (ih _).trans (List.suffix_cons _ _)

theorem run_run (stop : List Char → Bool) (h : r.IsSettled) : EStateM.run (run stop) r =
    .ok (unifyLineEnds (runFrom stop [] r.rest).1) (r.moved (runFrom stop [] r.rest).2) := by
  rw [run, run_bind_ok (run_rest r)]
  change EStateM.run (if (runFrom stop [] r.rest).1.contains damageMark then _ else _ : Reading _)
    (r.moved (runFrom stop [] r.rest).2) = _
  split
  · exact run_bind_ok (run_reportDamage (h.moved _))
  · rfl

theorem paired_run {stop : List Char → Bool} (h : IsBlind stop) : Steady false m n (run stop) := by
  refine paired_of_run (f := fun r => unifyLineEnds (runFrom stop [] r.rest).1)
    (d := fun r => (runFrom stop [] r.rest).2) (fun r hr => run_run stop hr)
    (fun r => suffix_of_runFrom stop r.rest []) fun r _ => ?_
  rcases runFrom_append h m.isMargin r.rest [] with ⟨hnil, hnil'⟩ | hsame
  · by_cases hne : m.spaces = []
    · left
      change unifyLineEnds (runFrom stop [] (r.rest ++ m.spaces)).1 = _ ∧
        (runFrom stop [] (r.rest ++ m.spaces)).2 = _
      rw [hne, List.append_nil, List.append_nil]
      exact ⟨rfl, rfl⟩
    · right
      change m.spaces ≠ [] ∧ IsMargin (runFrom stop [] r.rest).2 ∧
        IsMargin (runFrom stop [] (r.rest ++ m.spaces)).2
      rw [hnil, hnil']
      exact ⟨hne, .nil, .nil⟩
  · left
    change unifyLineEnds (runFrom stop [] (r.rest ++ m.spaces)).1 = _ ∧
      (runFrom stop [] (r.rest ++ m.spaces)).2 = _
    rw [hsame]
    exact ⟨rfl, rfl⟩

theorem paired_runUpTo {w : String} (hw : w.toList.any isSpace = false) (hne : w ≠ "") :
    Steady false m n (runUpTo w) :=
  (paired_run (isBlind_isPrefixOf hw (by simpa using hne))).bind fun _ =>
    (paired_accept hw).bind fun _ => paired_pure _

/-! ## Expansion -/

theorem byteCount_append (s u : List Char) : byteCount (s ++ u) = byteCount s + byteCount u := by
  have hfold : ∀ (u : List Char) n, u.foldl (fun n c => n + c.utf8Size) n = n + byteCount u := by
    intro u
    induction u with
    | nil => exact fun _ => rfl
    | cons c u ih =>
      intro n
      have hcons : byteCount (c :: u) = c.utf8Size + byteCount u := by
        rw [byteCount, List.foldl_cons, ih, Nat.zero_add]
      rw [List.foldl_cons, ih, hcons, Nat.add_assoc]
  rw [byteCount, List.foldl_append, hfold]
  rfl

theorem byteCount_margin {e : List Char} (he : IsMargin e) : byteCount e = e.length := by
  induction e with
  | nil => rfl
  | cons c e ih =>
    obtain ⟨hc, he⟩ := List.forall_mem_cons.mp he
    have hsize : c.utf8Size = 1 := by
      rcases eq_of_isSpace hc with rfl | rfl | rfl | rfl <;> rfl
    have hcons : byteCount (c :: e) = byteCount [c] + byteCount e := byteCount_append [c] e
    have hone : byteCount [c] = c.utf8Size := Nat.zero_add _
    rw [hcons, hone, hsize, ih he, List.length_cons, Nat.add_comm]

theorem run_charge (h : r.IsSettled) (size : Nat) : EStateM.run (charge size) r =
    if r.measured = true then .ok () r
    else if freeExpansion < (r.expanding size).expanded ∧
        r.passed < (r.expanding size).expanded / expansionFactor then
      .error () ((r.expanding size).noting .excessiveExpansion)
    else .ok () (r.expanding size) := by
  have hsettled : (r.expanding size).IsSettled := ⟨h.damaged, h.cutOff, h.sound, h.depth⟩
  change EStateM.run (if r.measured = true then pure () else _ : Reading Unit) r = _
  split
  · rfl
  · change EStateM.run (if freeExpansion < (r.expanding size).expanded then
      (if r.passed < (r.expanding size).expanded / expansionFactor then
        giveUp .excessiveExpansion else pure ()) else pure () : Reading Unit) (r.expanding size) = _
    by_cases hfree : freeExpansion < (r.expanding size).expanded
    · rw [if_pos hfree]
      by_cases hpassed : r.passed < (r.expanding size).expanded / expansionFactor
      · rw [if_pos hpassed, if_pos ⟨hfree, hpassed⟩]
        exact run_bind_error (run_report_fatal hsettled rfl)
      · rw [if_neg hpassed, if_neg fun h => hpassed h.2]
        rfl
    · rw [if_neg hfree, if_neg fun h => hfree h.1]
      rfl

theorem passed_followed (hm : m.metered = true) (h : m.Fits r) :
    r.passed ≤ (r.followed m).passed ∧
      (m.slack = 0 → (r.followed m).passed = r.passed) := by
  unfold Reader.passed
  change (if r.depth ≤ 1 then _ else _) ≤ (if r.depth ≤ 1 then _ else _) ∧
    (_ → (if r.depth ≤ 1 then _ else _) = (if r.depth ≤ 1 then _ else _))
  split
  · rename_i hdepth
    have hbytes := h.metered hm hdepth
    have hcount : byteCount (r.followed m).rest = byteCount r.rest + m.spaces.length := by
      rw [← byteCount_margin m.isMargin]
      exact byteCount_append _ _
    have hsize : (r.followed m).size = r.size + m.bytes := rfl
    omega
  · exact ⟨Nat.le_refl _, fun _ => rfl⟩

theorem refusal?_add {log : Log} {fault : Fault} (h : log.isSound = true) (hfatal : fault.gravity = .fatal) :
    (log.add fault).refusal? = some fault := by
  have hroom : log.hasRoom fault.gravity = true := by
    rw [hfatal, Log.hasRoom, h, Bool.or_true]
  have hunsound : Log.isSound ⟨fault :: log.faults⟩ = false := by
    simp [Log.isSound, hfatal]
  rw [Log.add, if_pos hroom]
  change (if Log.isSound ⟨fault :: log.faults⟩ && _ then none else some fault) = _
  rw [hunsound]
  rfl

/-- The longer the document is in front, the more it may expand to. -/
theorem paired_charge (hm : m.metered = true) (size : Nat) : Steady t m n (charge size) := by
  have hsettled : ∀ r : Reader, r.IsSettled → (r.expanding size).IsSettled := fun _ h =>
    ⟨h.damaged, h.cutOff, h.sound, h.depth⟩
  refine paired_self (fun r hr => ?_) fun r hr _ => ?_
  · rw [run_charge hr]
    split
    · exact .pure hr
    split
    · rintro _ _ ⟨⟩
    · rintro _ _ ⟨⟩
      exact ⟨hsettled r hr, List.suffix_refl _, rfl⟩
  · obtain ⟨hless, hsame⟩ := passed_followed hm hr
    have hexpanded : ((r.followed m).expanding size).expanded = (r.expanding size).expanded := rfl
    rw [run_charge hr.settled, run_charge (hr.settled.followed m), hexpanded]
    change Agrees m t _ (if r.measured = true then _ else _)
    split
    · exact .same () r
    by_cases hexceeds : freeExpansion < (r.expanding size).expanded ∧
        r.passed < (r.expanding size).expanded / expansionFactor
    · rw [if_pos hexceeds]
      by_cases hslack : m.slack = 0
      · rw [hsame hslack, if_pos hexceeds]
        exact .failed _ _
      · exact .exceeded (Nat.pos_of_ne_zero hslack) ⟨_, rfl, refusal?_add hr.settled.sound rfl⟩
    · rw [if_neg hexceeds, if_neg fun h => hexceeds ⟨h.1, Nat.lt_of_le_of_lt hless h.2⟩]
      exact .same () (r.expanding size)

/-! ## Texts inside texts -/

theorem paired_isOpen (name : String) : Steady t m n (isOpen name) :=
  paired_get fun _ _ _ => paired_pure _

theorem paired_opened (f : List String → List String) :
    Steady t m n (modify fun r : Reader => { r with opened := f r.opened }) :=
  paired_modify (fun _ h => ⟨h.damaged, h.cutOff, h.sound, h.depth⟩) (fun _ => rfl) (fun _ => rfl)
    fun _ => rfl

theorem run_within (name : String) (text : List Char) (measured : Bool) (x : Reading α) (r : Reader) :
    EStateM.run (within name text measured x) r =
      match EStateM.run x (r.entering name text measured) with
      | .ok a r' => .ok (a, r'.expanded) (r'.leaving r)
      | .error e r' => .error e r' := by
  change EStateM.run (x >>= fun a => _) (r.entering name text measured) = _
  rw [run_bind]
  cases EStateM.run x (r.entering name text measured) <;> rfl

theorem paired_within {x y : Reading α} (name : String) (text : List Char) (measured : Bool)
    (h : ∀ n, Paired false m.inside n x y) :
    Paired t m n (within name text measured x) (within name text measured y) := by
  have hproceeds : ∀ {z : Reading α}, (∀ {r : Reader}, r.IsSettled → Proceeds r (EStateM.run z r)) →
      ∀ r : Reader, r.IsSettled → Proceeds r (EStateM.run (within name text measured z) r) := by
    intro z hz r hr
    rw [run_within]
    cases hrun : EStateM.run z (r.entering name text measured) with
    | error => rintro _ _ ⟨⟩
    | ok a r' =>
      rintro _ _ ⟨⟩
      exact ⟨(hz (hr.entering name text measured) a r' hrun).1.leaving hr, List.suffix_refl _, rfl⟩
  refine paired_of (hproceeds (h 0).left) (hproceeds (h 0).right) fun r hr _ => ?_
  have hagrees := (h (text.length + 1)).agrees (hr.entering name text measured) (Nat.lt_succ_self _)
  have hentering : (r.followed m).entering name text measured =
      (r.entering name text measured).followed m.inside := by
    simp [Reader.followed, Reader.entering, Margin.inside]
  change Agrees m t (EStateM.run (x >>= fun a => _) (r.entering name text measured))
    (EStateM.run (y >>= fun a => _) ((r.followed m).entering name text measured))
  rw [hentering]
  exact hagrees.bind_inside (m := m) rfl rfl fun a r' => .same (a, r'.expanded) (r'.leaving r)

end Reading

end Storyboard.Markup
