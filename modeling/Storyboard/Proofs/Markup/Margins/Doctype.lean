import Storyboard.Markup.Doctype
import Storyboard.Proofs.Markup.Margins.Asides
import Storyboard.Proofs.Markup.Margins.Definitions
/-!
# Document types in front of a margin

Declarations stand between brackets, and each ends with its angle bracket. A parameter entity stands for a
text inside the document, which has no margin.

* `shortens_declaration`: a declaration takes something of the text, so that the fuel is enough.
* `paired_declarations`, `paired_documentType`: all declarations, and the document type.
* `paired_xmlDeclaration`: the XML declaration.
-/
namespace Storyboard.Markup.Reading

variable {α β : Type} {t : Bool} {m : Margin} {n k : Nat} {r : Reader}

/-! ## One declaration -/

theorem paired_declaration (hm : m.metered = true) {fuel fuel' : Nat} (hfuel : IsEnough n fuel fuel') :
    Paired false m (n + 1) (declaration fuel) (declaration fuel') := by
  intro s e he
  refine pairedOn_accept (by decide) (by decide) he
    (sealed_instruction?.paired.loosen.bind fun _ => paired_pure _) ?_
  refine pairedOn_accept (by decide) (by decide) he paired_entityDeclaration ?_
  refine pairedOn_accept (by decide) (by decide) he paired_elementDeclaration ?_
  refine pairedOn_accept (by decide) (by decide) he (paired_attributesDeclaration hm) ?_
  refine pairedOn_accept (by decide) (by decide) he paired_notationDeclaration ?_
  refine pairedOn_accept (by decide) (by decide) he ((paired_comment? hfuel).bind fun _ => paired_pure _) ?_
  exact .of_paired ((paired_report _).bind fun _ => paired_skip 2) he

theorem Fails.shortens {x : Reading α} (h : Fails x) : Shortens (fun _ => True) x := by
  intro r hr a r' hrun
  obtain ⟨r'', hrun'⟩ := h r hr
  cases hrun.symm.trans hrun'

/-- A word that is there is taken, whatever follows. -/
theorem shortens_accept_bind {w : String} (hw : w ≠ "") {f : Bool → Reading α}
    (htrue : ∀ r : Reader, r.IsSettled → Proceeds r (EStateM.run (f true) r))
    (hfalse : Shortens (fun _ => True) (f false)) : Shortens (fun _ => True) (accept w >>= f) := by
  intro r hr a r' hrun _
  rw [run_bind] at hrun
  cases haccept : EStateM.run (accept w) r with
  | error _ r₁ =>
    rw [haccept] at hrun
    cases hrun
  | ok found r₁ =>
    rw [haccept] at hrun
    cases found with
    | true =>
      have hshorter := shortens_accept hw r hr true r₁ haccept rfl
      rw [run_accept] at haccept
      split at haccept
      · cases haccept
        have := (htrue _ (hr.moved _) a r' hrun).2.1.length_le
        omega
      · cases haccept
    | false =>
      rw [run_accept] at haccept
      split at haccept
      · cases haccept
      · cases haccept
        exact hfalse r hr a r' hrun trivial

theorem shortens_declaration (fuel : Nat) : Shortens (fun _ => True) (declaration fuel) := by
  have proceeds : ∀ {x : Reading Unit}, Paired false ⟨[], .nil, 0, 0, true⟩ 0 x x →
      ∀ r : Reader, r.IsSettled → Proceeds r (EStateM.run x r) := fun h _ hr => h.left hr
  refine shortens_accept_bind (by decide)
    (proceeds (sealed_instruction?.paired.loosen.bind fun _ => paired_pure _)) ?_
  refine shortens_accept_bind (by decide) (proceeds paired_entityDeclaration) ?_
  refine shortens_accept_bind (by decide) (proceeds paired_elementDeclaration) ?_
  refine shortens_accept_bind (by decide) (proceeds (paired_attributesDeclaration rfl)) ?_
  refine shortens_accept_bind (by decide) (proceeds paired_notationDeclaration) ?_
  refine shortens_accept_bind (by decide)
    (proceeds ((paired_comment? (.inl rfl)).bind fun _ => paired_pure _)) ?_
  exact ((fails_report rfl).bind _).shortens

/-! ## Declarations -/

theorem paired_chargeParameter (hm : m.metered = true) (e : Entity) (expanded : Nat) :
    Steady t m n (chargeParameter e expanded) :=
  (paired_updateDeclarations _).bind fun _ => paired_charge hm _

theorem paired_parameter (hm : m.metered = true) {declarations : Reading Bool}
    (h : ∀ n, Steady false m.inside n declarations) (name : String) :
    Steady t m n (parameter declarations name) := by
  refine paired_get_known (fun _ _ _ => rfl) fun r => ?_
  cases r.declarations.parameter? name with
  | none => exact (paired_reportUndeclared _).bind fun _ => paired_pure _
  | some e =>
    dsimp only
    split
    · refine (paired_isOpen _).bind fun _ => .guard (fun _ => (fails_giveUp rfl).paired (fails_giveUp rfl)) ?_
      exact (paired_within _ _ _ h).bind fun _ => (paired_chargeParameter hm _ _).bind fun _ => paired_pure _
    · exact paired_pure _

/-- What one step of reading declarations does, by the character that comes next. -/
theorem declarationsFrom_succ (enter : String → Reading Bool) (fuel : Nat) :
    declarationsFrom enter (fuel + 1) = (do
      let _ ← skipSpaces
      match ← rest with
      | [] => return true
      | c :: s =>
        if c = ']' then
          if (← get).depth ≤ 1 then return true
          report (.badDeclaration "DOCTYPE")
          return false
        else if c = '%' then
          moveTo s
          match ← parameterName? with
          | none => declarationsFrom enter fuel
          | some name => if ← enter name then declarationsFrom enter fuel else return false
        else if c = '<' ∧ (s.head? = some '!' ∨ s.head? = some '?') then
          declaration fuel
          declarationsFrom enter fuel
        else
          report (.badDeclaration "DOCTYPE")
          return false) := by
  rw [declarationsFrom]
  congr
  funext _
  congr
  funext x
  cases x with
  | nil => rfl
  | cons c s =>
    by_cases hclosed : c = ']'
    · subst hclosed
      rfl
    by_cases hparameter : c = '%'
    · subst hparameter
      rfl
    by_cases hmarkup : c = '<'
    · subst hmarkup
      cases s with
      | nil => rfl
      | cons d s => simp
    · simp [hclosed, hparameter, hmarkup]

theorem paired_declarationsFrom (hm : m.metered = true) {enter : String → Reading Bool}
    (henter : ∀ name n, Steady false m n (enter name)) {fuel fuel' : Nat}
    (hfuel : IsEnough n fuel fuel') :
    Paired false m n (declarationsFrom enter fuel) (declarationsFrom enter fuel') := by
  refine paired_loop (f := fun fuel (_ : Unit) => declarationsFrom enter fuel) (fun _ _ => paired_pure _)
    (fun n fuel fuel' hfuel ih _ => ?_) hfuel ()
  rw [declarationsFrom_succ, declarationsFrom_succ]
  refine paired_skipSpaces.bind fun _ => paired_rest fun s e he hlive => ?_
  have hbad : Steady false m (n + 1) (do report (.badDeclaration "DOCTYPE"); return false) :=
    (paired_report _).bind fun _ => paired_pure _
  cases s with
  | nil =>
    rw [hlive rfl .nil]
    exact .of_paired (paired_pure _) .nil
  | cons c s =>
    rw [List.cons_append]
    refine .ite (fun _ => ?_) fun _ => .ite (fun _ => ?_) fun _ => ?_
    · exact pairedOn_get_known (fun _ _ _ => rfl) fun r =>
        .ite (fun _ => .of_paired (paired_pure _) he) fun _ => .of_paired (s := c :: s) hbad he
    · refine pairedOn_moveTo_behind he List.suffix_rfl ?_
      refine paired_parameterName?.bind fun name? => ?_
      cases name? with
      | none => exact ih ()
      | some name => exact (henter name _).bind fun _ => .ite (fun _ => ih ()) fun _ => paired_pure _
    · have hmarked : (s ++ e).head? = some '!' ∨ (s ++ e).head? = some '?' ↔
          s.head? = some '!' ∨ s.head? = some '?' :=
        or_congr (head?_append_iff (by decide) he) (head?_append_iff (by decide) he)
      simp only [hmarked]
      refine .ite (fun _ => ?_) fun _ => .of_paired (s := c :: s) hbad he
      exact .of_paired (s := c :: s) ((paired_declaration hm hfuel).bind_shorter (shortens_declaration fuel)
        (fun _ _ => ih ()) fun _ h => absurd trivial h) he

theorem paired_declarations (hm : m.metered = true) (left : Nat) :
    Steady false m n (declarations left) := by
  induction left generalizing m n with
  | zero => exact (fails_giveUp rfl).paired (fails_giveUp rfl)
  | succ left ih =>
    exact paired_rest fun s e he _ => .of_length (paired_declarationsFrom hm
      (fun name _ => paired_parameter hm (fun _ => ih (m := m.inside) hm) name) (.length (by simp))) he

theorem paired_internalSubset (hm : m.metered = true) : Steady false m n internalSubset := by
  have hdeclaring : ∀ b, Steady false m n (modify fun r : Reader => { r with declaring := b }) := fun _ =>
    paired_modify (fun _ h => ⟨h.damaged, h.cutOff, h.sound, h.depth⟩) (fun _ => rfl) (fun _ => rfl)
      fun _ => rfl
  refine (hdeclaring true).bind fun _ => (paired_declarations hm _).bind fun _ =>
    (hdeclaring false).bind fun _ => ?_
  refine (paired_accept (by decide)).bind fun _ => .guard (fun _ => paired_skipSpaces) ?_
  exact paired_isSound.bind fun _ => (paired_sees (by decide)).bind fun _ =>
    .ite (fun _ => paired_report _) fun _ => paired_skipAny

theorem paired_documentType (hm : m.metered = true) : Steady false m n documentType := by
  refine (paired_expectSpaces _).bind fun _ => paired_name?.bind fun _ => .guard (fun _ => paired_report _) ?_
  refine paired_skipSpaces.bind fun _ => (paired_location _).bind fun _ =>
    .guard (fun _ => paired_updateDeclarations _) (paired_skipSpaces.bind fun _ => ?_)
  exact (paired_accept (by decide)).bind fun _ => .ite (fun _ => paired_internalSubset hm) fun _ =>
    (paired_endDeclaration _).bind fun _ => paired_pure _

/-! ## The XML declaration -/

/-- White space behind a text is left alone. -/
structure IsParser (parse : List Char → Option α × List Char) : Prop where
  append : ∀ s e, IsMargin e → parse (s ++ e) = ((parse s).1, (parse s).2 ++ e)
  suffix : ∀ s, (parse s).2 <:+ s

theorem versionFrom_undotted {c : Char} {s : List Char} (hs : s.head? ≠ some '.') :
    versionFrom (c :: s) = (none, if c.isDigit then s else c :: s) := by
  unfold versionFrom
  split
  · rename_i heq
    obtain ⟨-, rfl⟩ := List.cons_eq_cons.mp heq
    exact absurd rfl hs
  · rename_i heq
    obtain ⟨rfl, rfl⟩ := List.cons_eq_cons.mp heq
    rfl
  · rename_i heq
    cases heq

theorem isDigit_of_isSpace {c : Char} (h : isSpace c = true) : c.isDigit = false := by
  rcases eq_of_isSpace h with rfl | rfl | rfl | rfl <;> rfl

theorem isParser_versionFrom : IsParser versionFrom where
  append s e he := by
    have hdigits : ∀ c ∈ e, c.isDigit = false := fun c hc => isDigit_of_isSpace (he c hc)
    cases s with
    | nil =>
      cases e with
      | nil => rfl
      | cons c e =>
        have hdot : e.head? ≠ some '.' :=
          mt (head?_append_iff (s := []) (by decide) (he.of_suffix (List.suffix_cons c e))).mp nofun
        rw [List.nil_append, versionFrom_undotted hdot, hdigits c List.mem_cons_self]
        rfl
    | cons c s =>
      rw [List.cons_append]
      by_cases hdot : s.head? = some '.'
      · obtain ⟨u, rfl⟩ : ∃ u, s = '.' :: u := by
          cases s with
          | nil => cases hdot
          | cons d u => exact ⟨u, by rw [Option.some.inj hdot]⟩
        simp only [List.cons_append, versionFrom, takeWhile_margin hdigits, dropWhile_append_margin hdigits]
        split <;> rfl
      · rw [versionFrom_undotted hdot, versionFrom_undotted (mt (head?_append_iff (by decide) he).mp hdot)]
        split <;> rfl
  suffix s := by
    unfold versionFrom
    split
    · split
      · exact (List.dropWhile_suffix _).trans ((List.suffix_cons _ _).trans (List.suffix_cons _ _))
      · exact List.suffix_refl _
    · dsimp only
      split
      · exact List.suffix_cons _ _
      · exact List.suffix_refl _
    · exact List.suffix_refl _

/-- Does a character stand in the name of an encoding? -/
def isMember (c : Char) : Bool := c.isAlphanum || "._-".toList.contains c

theorem isMember_of_isSpace {c : Char} (h : isSpace c = true) : isMember c = false ∧ c.isAlpha = false := by
  rcases eq_of_isSpace h with rfl | rfl | rfl | rfl <;> exact ⟨rfl, rfl⟩

theorem encodingFrom_cons (c : Char) (s : List Char) : encodingFrom (c :: s) =
    if c.isAlpha then (some (c :: s.takeWhile isMember), s.dropWhile isMember) else (none, c :: s) := rfl

theorem isParser_encodingFrom : IsParser encodingFrom where
  append s e he := by
    have hmember : ∀ c ∈ e, isMember c = false := fun c hc => (isMember_of_isSpace (he c hc)).1
    cases s with
    | nil =>
      cases e with
      | nil => rfl
      | cons c e =>
        rw [List.nil_append, encodingFrom_cons, (isMember_of_isSpace (he c List.mem_cons_self)).2]
        rfl
    | cons c s =>
      rw [List.cons_append, encodingFrom_cons, encodingFrom_cons, takeWhile_margin hmember,
        dropWhile_append_margin hmember]
      split <;> rfl
  suffix s := by
    cases s with
    | nil => exact List.suffix_refl _
    | cons c s =>
      rw [encodingFrom_cons]
      split
      · exact (List.dropWhile_suffix _).trans (List.suffix_cons _ _)
      · exact List.suffix_refl _

theorem standaloneFrom_eq (s : List Char) : standaloneFrom s =
    if "no".toList.isPrefixOf s then (some false, s.drop 2)
    else if "yes".toList.isPrefixOf s then (some true, s.drop 3) else (none, s) := by
  unfold standaloneFrom
  split
  · rfl
  · rfl
  · rename_i hno hyes
    rw [if_neg, if_neg]
    · intro h
      obtain ⟨u, rfl⟩ := List.isPrefixOf_iff_prefix.mp h
      exact hyes u rfl
    · intro h
      obtain ⟨u, rfl⟩ := List.isPrefixOf_iff_prefix.mp h
      exact hno u rfl

theorem isParser_standaloneFrom : IsParser standaloneFrom where
  append s e he := by
    have hdrop : ∀ w : List Char, w.isPrefixOf s = true → (s ++ e).drop w.length = s.drop w.length ++ e :=
      fun _ h => List.drop_append_of_le_length (List.isPrefixOf_iff_prefix.mp h).length_le
    rw [standaloneFrom_eq, standaloneFrom_eq, isPrefixOf_margin (by decide) he,
      isPrefixOf_margin (by decide) he]
    split
    · exact congrArg (some false, ·) (hdrop "no".toList ‹_›)
    split
    · exact congrArg (some true, ·) (hdrop "yes".toList ‹_›)
    · rfl
  suffix s := by
    rw [standaloneFrom_eq]
    split
    · exact List.drop_suffix _ _
    split
    · exact List.drop_suffix _ _
    · exact List.suffix_refl _

theorem paired_assigned? {word : String} (hword : word.toList.any isSpace = false)
    {parse : List Char → Option α × List Char} (hparse : IsParser parse) :
    Steady false m n (assigned? word parse) := by
  have hbad : Paired false m n (do report badXmlDeclaration; return (none : Option α))
      (do report badXmlDeclaration; return none) := (paired_report _).bind fun _ => paired_pure _
  refine (paired_accept hword).bind fun _ => .ite (fun _ => paired_pure _) fun _ =>
    paired_skipSpaces.bind fun _ => ?_
  refine (paired_accept (by decide)).bind fun _ => .ite (fun _ => hbad) fun _ =>
    paired_skipSpaces.bind fun _ => ?_
  refine paired_rest fun s e he hlive => ?_
  cases s with
  | nil =>
    rw [hlive rfl .nil]
    exact .of_paired hbad .nil
  | cons c s =>
    rw [List.cons_append]
    refine .ite (fun hquote => ?_) fun _ => .of_paired (s := c :: s) hbad he
    have hc := isSpace_quote hquote
    have hsuffix := (hparse.suffix s).trans (List.suffix_cons c s)
    rw [hparse.append s e he]
    refine pairedOn_moveTo (s := c :: s) he hsuffix (fun hn => Nat.lt_of_le_of_lt hsuffix.length_le hn) ?_
    refine .guard (fun _ => paired_report _) ((paired_accept ?_).bind fun _ =>
      .ite (fun _ => paired_pure _) fun _ => hbad)
    simpa [Char.toString] using hc

theorem paired_declarationHead : Steady false m n declarationHead := by
  have hencoding : Steady false m n
      (do
        let _ ← skipSpaces
        return ((← assigned? "encoding" encodingFrom).map String.ofList, false)) :=
    paired_skipSpaces.bind fun _ => (paired_assigned? (by decide) isParser_encodingFrom).bind fun _ =>
      paired_pure _
  have hbehind : Steady false m n
      (do
        let s ← rest
        if !(s.head?.map isSpace).getD false then
          if ← accept "?>" then return (none, true)
          report badXmlDeclaration
        let _ ← skipSpaces
        return ((← assigned? "encoding" encodingFrom).map String.ofList, false)) := by
    refine paired_rest fun s e he hlive => ?_
    rw [head?_append (hlive rfl)]
    refine .of_paired (.ite (fun _ => ?_) fun _ => hencoding) he
    exact (paired_accept (by decide)).bind fun _ => .ite (fun _ => paired_pure _) fun _ =>
      (paired_report _).bind fun _ => hencoding
  refine paired_skipSpaces.bind fun _ => (paired_assigned? (by decide) isParser_versionFrom).bind
    fun version? => ?_
  cases version? with
  | none => exact (paired_report _).bind fun _ => hbehind
  | some version => exact (paired_reportAll _).bind fun _ => hbehind

theorem paired_declarationEnd : Steady false m n declarationEnd := by
  refine paired_skipSpaces.bind fun _ => (paired_accept (by decide)).bind fun _ => .ite (fun _ => ?_) fun _ =>
    paired_pure _
  exact ((fails_report rfl).bind _).paired ((fails_report rfl).bind _)

theorem paired_xmlDeclaration (unknown : Option String) :
    Steady false m n (xmlDeclaration unknown) := by
  refine paired_declarationHead.bind fun (encoding, ended) => .ite (fun _ => paired_pure _) fun _ => ?_
  have hend : Steady false m n
      (do
        let _ ← skipSpaces
        let standalone ← assigned? "standalone" standaloneFrom
        updateDeclarations fun d => { d with standalone := standalone.getD false }
        declarationEnd) :=
    paired_skipSpaces.bind fun _ => (paired_assigned? (by decide) isParser_standaloneFrom).bind fun _ =>
      (paired_updateDeclarations _).bind fun _ => paired_declarationEnd
  refine .guard (fun _ => paired_reportAll _) (paired_rest fun s e he hlive => ?_)
  rw [head?_append (hlive rfl)]
  refine .of_paired (.ite (fun _ => ?_) fun _ => hend) he
  exact (paired_accept (by decide)).bind fun _ => .ite (fun _ => paired_pure _) fun _ =>
    (paired_report _).bind fun _ => hend

end Storyboard.Markup.Reading
