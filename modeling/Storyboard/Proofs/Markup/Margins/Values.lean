import Storyboard.Proofs.Markup.Margins.Asides
/-!
# Attribute values in front of a margin

A value ends with its quote. What it refers to is looked up and measured without a look at the text.

* `paired_checkInValue`, `paired_writeOut`: entities in values.
* `paired_valueParts`, `paired_value?`: values.
-/
namespace Storyboard.Markup.Reading

variable {α β : Type} {t : Bool} {m : Margin} {n k : Nat} {r : Reader}

/-! ## Entities in values -/

theorem paired_entity? (inValue : Bool) (name : String) :
    Steady t m n (entity? inValue name) := by
  refine paired_get_known (fun _ _ _ => rfl) fun r => ?_
  dsimp only
  cases r.declarations.entity? name with
  | none => exact (paired_report _).bind fun _ => paired_pure _
  | some e => exact .ite (fun _ => (paired_report _).bind fun _ => paired_pure _) fun _ => paired_pure _

theorem paired_isChecked (e : Entity) : Steady t m n (isChecked e) :=
  paired_get_known (fun _ _ _ => rfl) fun _ => paired_pure _

theorem paired_noteChecked (name : String) (size : Nat) :
    Steady t m n (noteChecked name size) :=
  paired_get_known (fun _ _ _ => rfl) fun _ => paired_updateDeclarations _

theorem paired_sizeOf (name : String) : Steady t m n (sizeOf name) :=
  paired_get_known (fun _ _ _ => rfl) fun _ => paired_pure _

theorem paired_textsLeft : Steady t m n textsLeft :=
  paired_get_known (fun _ _ _ => rfl) fun _ => paired_pure _

theorem paired_holdingOpen (name : String) {x : Reading Unit} (hx : Steady t m n x) :
    Steady t m n (holdingOpen name x) :=
  (paired_opened (name :: ·)).bind fun _ => hx.bind fun _ => paired_opened List.tail

theorem paired_optionForM {f : β → Reading PUnit} (hf : ∀ b, Steady t m n (f b)) (b? : Option β) :
    Steady t m n (b?.forM f) := by
  cases b? with
  | none => exact paired_pure _
  | some b => exact hf b

theorem paired_checkInValue (left : Nat) (e : Entity) :
    Steady t m n (checkInValue left e) := by
  induction left generalizing e with
  | zero => exact paired_report _
  | succ left ih =>
    refine (paired_isOpen _).bind fun _ => .ite (fun _ => paired_report _) fun _ => ?_
    refine (paired_isChecked e).bind fun _ => .ite (fun _ => ?_) fun _ => paired_pure _
    cases e.body with
    | internal text =>
      refine paired_holdingOpen _ ?_
      refine (paired_foldlM (fun size name => ?_) _ _).bind fun size =>
        (paired_optionForM paired_report _).bind fun _ => paired_noteChecked _ _
      refine (paired_entity? _ _).bind fun inner? => ?_
      cases inner? with
      | none => exact paired_pure _
      | some inner =>
        exact (paired_isChecked inner).bind fun _ => .guard (fun _ => ih inner)
          ((paired_sizeOf _).bind fun _ => paired_pure _)
    | external => exact paired_noteChecked _ _
    | unparsed => exact paired_noteChecked _ _

theorem paired_referInValue (hm : m.metered = true) (draft : Draft) (name : String) :
    Steady t m n (referInValue draft name) := by
  refine (paired_entity? _ _).bind fun e? => ?_
  cases e? with
  | none => exact paired_pure _
  | some e =>
    exact paired_textsLeft.bind fun _ => (paired_checkInValue _ _).bind fun _ =>
      (paired_sizeOf _).bind fun _ => (paired_charge hm _).bind fun _ => paired_pure _

theorem paired_writeOut (hm : m.metered = true) (left : Nat) (draft : Draft) (e : Entity) :
    Steady t m n (writeOut left draft e) := by
  induction left generalizing draft e with
  | zero => exact (paired_report _).bind fun _ => paired_pure _
  | succ left ih =>
    refine (paired_isOpen _).bind fun _ =>
      .ite (fun _ => (paired_report _).bind fun _ => paired_pure _) fun _ => ?_
    cases e.body with
    | internal text =>
      refine (paired_charge hm _).bind fun _ => (paired_opened (e.name :: ·)).bind fun _ => ?_
      refine (paired_foldlM (fun draft part => ?_) _ _).bind fun draft =>
        (paired_optionForM paired_report _).bind fun _ => (paired_opened List.tail).bind fun _ =>
          paired_pure _
      cases part with
      | characters s => exact paired_pure _
      | entity name =>
        refine (paired_entity? _ _).bind fun inner? => ?_
        cases inner? with
        | none => exact paired_pure _
        | some inner => exact ih draft inner
    | external => exact paired_pure _
    | unparsed => exact paired_pure _

/-! ## References -/

theorem takeWhile_append_of_mem {p : Char → Bool} {s : List Char} {c : Char} (hc : c ∈ s) (hp : p c = false)
    (e : List Char) : (s ++ e).takeWhile p = s.takeWhile p := by
  induction s with
  | nil => cases hc
  | cons d s ih =>
    rw [List.cons_append, List.takeWhile_cons, List.takeWhile_cons]
    split
    · rename_i hd
      rcases List.mem_cons.mp hc with rfl | hc
      · rw [hp] at hd
        cases hd
      · rw [ih hc]
    · rfl

theorem isDigitOf_of_isSpace {base : Nat} {c : Char} (h : isSpace c = true) :
    Text.isDigitOf base c = false := by
  have hnone : Text.digitOf? base c = none := by
    rcases eq_of_isSpace h with rfl | rfl | rfl | rfl <;> exact if_neg (Nat.lt_irrefl base)
  rw [Text.isDigitOf, hnone]
  rfl

theorem numberedFrom_margin (base : Nat) {e : List Char} (he : IsMargin e) (s : List Char) :
    numberedFrom base (s ++ e) = ((numberedFrom base s).1, (numberedFrom base s).2 ++ e) := by
  have hnot : ∀ c ∈ e, Text.isDigitOf base c = false := fun c hc => isDigitOf_of_isSpace (he c hc)
  unfold numberedFrom
  rw [takeWhile_margin hnot, dropWhile_append_margin hnot]
  generalize s.dropWhile (Text.isDigitOf base) = more
  cases more with
  | nil =>
    cases e with
    | nil => rfl
    | cons c e => simp [ne_of_isSpace (he c List.mem_cons_self) (d := ';') (by decide)]
  | cons c more =>
    by_cases hc : c = ';'
    · subst hc
      dsimp only [List.cons_append]
      cases character? (Text.numberOf base (s.takeWhile (Text.isDigitOf base))) <;> rfl
    · simp [hc]

theorem suffix_of_numberedFrom (base : Nat) (s : List Char) : (numberedFrom base s).2 <:+ s := by
  have hsuffix : s.dropWhile (Text.isDigitOf base) <:+ s := List.dropWhile_suffix _
  unfold numberedFrom
  dsimp only
  split
  · rename_i rest hrest
    rw [hrest] at hsuffix
    have hbehind : rest <:+ s := (List.suffix_cons _ _).trans hsuffix
    split <;> exact hbehind
  · exact hsuffix

/-- A reference by name. -/
theorem referenceFrom_named {s : List Char} (h : s.head? ≠ some '#') : referenceFrom s =
    match (nameFrom s).1, (nameFrom s).2 with
    | [], _ => (.error (.badReference ""), (nameFrom s).2)
    | name, ';' :: rest => (.ok (.entity (String.ofList name)), rest)
    | name, rest => (.error (.badReference (String.ofList name)), rest) := by
  unfold referenceFrom
  split
  · exact absurd rfl h
  · exact absurd rfl h
  · rfl

theorem referenceFrom_numbered {s : List Char} (h : s.head? ≠ some 'x') :
    referenceFrom ('#' :: s) = numberedFrom 10 s := by
  unfold referenceFrom
  split
  · rename_i heq
    cases heq
    exact absurd rfl h
  · rename_i heq
    cases heq
    rfl
  · rename_i hnot
    exact absurd rfl (hnot s)

theorem referenceFrom_margin {e : List Char} (he : IsMargin e) (s : List Char) :
    referenceFrom (s ++ e) = ((referenceFrom s).1, (referenceFrom s).2 ++ e) := by
  by_cases hs : s.head? = some '#'
  · obtain ⟨rest, rfl⟩ := List.head?_eq_some_iff.mp hs
    by_cases hx : rest.head? = some 'x'
    · obtain ⟨digits, rfl⟩ := List.head?_eq_some_iff.mp hx
      exact numberedFrom_margin 16 he digits
    · have hx' : (rest ++ e).head? ≠ some 'x' := mt (head?_append_iff (by decide) he).mp hx
      rw [List.cons_append, referenceFrom_numbered hx, referenceFrom_numbered hx']
      exact numberedFrom_margin 10 he rest
  · have hs' : (s ++ e).head? ≠ some '#' := mt (head?_append_iff (by decide) he).mp hs
    rw [referenceFrom_named hs, referenceFrom_named hs', nameFrom_margin he]
    dsimp only
    generalize (nameFrom s).1 = name
    generalize (nameFrom s).2 = rest
    cases name with
    | nil => rfl
    | cons c name =>
      cases rest with
      | nil =>
        cases e with
        | nil => rfl
        | cons d e => simp [ne_of_isSpace (he d List.mem_cons_self) (d := ';') (by decide)]
      | cons d rest =>
        by_cases hd : d = ';'
        · subst hd
          rfl
        · simp [hd]

theorem suffix_of_referenceFrom (s : List Char) : (referenceFrom s).2 <:+ s := by
  unfold referenceFrom
  split
  · exact (suffix_of_numberedFrom _ _).trans ((List.suffix_cons _ _).trans (List.suffix_cons _ _))
  · exact (suffix_of_numberedFrom _ _).trans (List.suffix_cons _ _)
  · have hsuffix := suffix_of_nameFrom s
    dsimp only
    generalize (nameFrom s).1 = name
    generalize (nameFrom s).2 = rest at hsuffix
    split
    · exact hsuffix
    · exact (List.suffix_cons _ _).trans hsuffix
    · exact hsuffix

theorem paired_referenceInValue (hm : m.metered = true) (writing : Bool) (draft : Draft) :
    Steady t m n (referenceInValue writing draft) := by
  refine paired_rest fun s e he _ => ?_
  dsimp only
  rw [referenceFrom_margin he]
  refine pairedOn_moveTo he (suffix_of_referenceFrom s)
    (fun hn => Nat.lt_of_le_of_lt (suffix_of_referenceFrom s).length_le hn) ?_
  dsimp only
  split
  · exact (paired_report _).bind fun _ => paired_pure _
  · exact (paired_report _).bind fun _ => paired_pure _
  · exact paired_pure _
  · split
    · exact paired_pure _
    · refine .ite (fun _ => ?_) fun _ => (paired_referInValue hm _ _).bind fun _ => paired_pure _
      refine (paired_entity? _ _).bind fun e? => ?_
      cases e? with
      | none => exact paired_pure _
      | some e => exact paired_textsLeft.bind fun _ => (paired_writeOut hm _ _ _).bind fun _ => paired_pure _

/-! ## Values -/

theorem isPlainInValue_of_isSpace {quote c : Char} (h : isSpace c = true) :
    isPlainInValue quote c = false := by
  simp [isPlainInValue, h]

/-- What follows a space that is one half of a line end, perhaps. -/
def afterLineEnd (c : Char) (rest : List Char) : List Char :=
  if c = '\r' && rest.head? = some '\n' then rest.tail else rest

theorem suffix_of_afterLineEnd (c : Char) (rest : List Char) : afterLineEnd c rest <:+ rest := by
  unfold afterLineEnd
  split
  · exact List.tail_suffix rest
  · exact List.suffix_refl rest

theorem afterLineEnd_append {c : Char} {rest e : List Char} (h : rest = [] → e = []) :
    afterLineEnd c (rest ++ e) = afterLineEnd c rest ++ e := by
  cases rest with
  | nil => simp [h rfl]
  | cons d rest =>
    exact (apply_ite (· ++ e) _ rest (d :: rest)).symm

/-- A damaged byte is none in a source that is whole. -/
theorem pairedOn_skipping {s s' : List Char} {x y : Reading α} (h : PairedOn t m n s s' x y) :
    PairedOn t m n s s' (reportDamage >>= fun _ => x) (reportDamage >>= fun _ => y) :=
  pairedOn_congr h (fun _ hr _ => run_bind_ok (run_reportDamage hr)) fun _ hr _ =>
    run_bind_ok (run_reportDamage hr)

theorem paired_valueParts (hm : m.metered = true) (quote : Char) (writing : Bool) {fuel fuel' : Nat}
    (hfuel : IsEnough n fuel fuel') (draft : Draft) :
    Paired false m n (valueParts quote writing fuel draft) (valueParts quote writing fuel' draft) := by
  refine paired_loop (fun _ _ => paired_pure _) (fun n fuel fuel' _ ih draft => ?_) hfuel draft
  refine paired_rest fun s e he hlive => ?_
  cases s with
  | nil =>
    rw [hlive rfl .nil]
    exact ((fails_report rfl).bind _).paired ((fails_report rfl).bind _) _ _ .nil
  | cons c rest =>
    rw [List.cons_append]
    refine .ite (fun _ => ?_) fun hquote' => .ite (fun _ => ?_) fun _ => .ite (fun hspace => ?_) fun _ =>
      .ite (fun _ => ?_) fun _ => .ite (fun _ => ?_) fun _ => ?_
    · exact pairedOn_moveTo_behind he List.suffix_rfl (paired_pure _)
    · refine pairedOn_moveTo_behind he List.suffix_rfl ?_
      refine (paired_referenceInValue hm writing draft).bind fun draft? => ?_
      cases draft? with
      | none => exact paired_pure _
      | some draft => exact ih draft
    · change PairedOn false m (n + 1) (c :: rest) ((c :: rest) ++ e)
        (moveTo (afterLineEnd c rest) >>= fun _ => _) (moveTo (afterLineEnd c (rest ++ e)) >>= fun _ => _)
      rw [afterLineEnd_append fun hnil =>
        hlive rfl (by rw [hnil]; exact List.forall_mem_singleton.mpr hspace)]
      exact pairedOn_moveTo_behind he (suffix_of_afterLineEnd c rest) (ih _)
    · exact pairedOn_skipping (pairedOn_moveTo_behind he List.suffix_rfl (ih _))
    · rw [takeWhile_margin fun d hd => isPlainInValue_of_isSpace (he d hd),
        dropWhile_append_margin fun d hd => isPlainInValue_of_isSpace (he d hd)]
      exact pairedOn_moveTo_behind he (List.dropWhile_suffix _) (ih _)
    · have hfails : ∀ {γ : Type} (f : Unit → Reading γ),
          Fails (report (if c = '<' then .badValue else .illegalCharacter c) >>= f) := fun f => by
        refine (fails_report ?_).bind f
        split <;> rfl
      exact (hfails _).paired (hfails _) _ _ he

theorem paired_value? (hm : m.metered = true) (words writing : Bool) :
    Steady false m n (value? words writing) := by
  have hfails : Fails (do report .badValue; return (none : Option (List Part))) := (fails_report rfl).bind _
  refine paired_rest fun s e he hlive => ?_
  cases s with
  | nil =>
    rw [hlive rfl .nil]
    exact hfails.paired hfails _ _ .nil
  | cons c rest =>
    rw [List.cons_append]
    refine .ite (fun hquote => ?_) fun _ => hfails.paired hfails _ _ he
    have hspace := isSpace_quote hquote
    refine pairedOn_moveTo (s := c :: rest) he (List.suffix_cons c rest) (k := rest.length + 1) (by simp)
      (paired_valueParts hm c writing ?_ _)
    by_cases hc : c ∈ rest
    · rw [takeWhile_append_of_mem (p := (· != c)) hc (bne_self_eq_false c)]
      exact .inl rfl
    · have hc' : c ∉ rest ++ e := by
        rw [List.mem_append]
        exact fun hmem => hmem.elim hc fun hmem => ne_of_isSpace (he c hmem) hspace rfl
      have hall : ∀ {s : List Char}, c ∉ s → s.takeWhile (· != c) = s := by
        intro s hs
        rw [← List.append_nil s, List.takeWhile_append_of_pos]
        · rfl
        · rintro d hd
          simp only [bne_iff_ne]
          rintro rfl
          exact hs hd
      rw [hall hc, hall hc']
      exact .length (by simp)

end Storyboard.Markup.Reading
