import Storyboard.Markup.Definition
import Storyboard.Proofs.Markup.Margins.Values
/-!
# Declarations in front of a margin

A declaration ends with its angle bracket, and its literals with their quotes. The literal of an entity is
read for itself, up to its quote, and has no margin.

* `paired_literal?`: what stands between quotes.
* `paired_entityLiteral?`: the literal of an entity.
* `paired_entityDeclaration`, `paired_notationDeclaration`, `paired_elementDeclaration`,
  `paired_attributesDeclaration`: the four kinds of declarations.
-/
namespace Storyboard.Markup.Reading

variable {α β : Type} {t : Bool} {m : Margin} {n k : Nat} {r : Reader}

theorem paired_endDeclaration (keyword : String) : Steady t m n (endDeclaration keyword) :=
  (paired_accept (by decide)).bind fun _ => .guard (fun _ => paired_report _) (paired_pure _)

/-! ## Literals -/

theorem quote?_bind (f : Option Char → Reading α) :
    quote? >>= f = (do
      match ← next? with
      | some c =>
        if c = '"' || c = '\x27' then
          skip 1
          f (some c)
        else f none
      | none => f none) := by
  simp only [quote?, bind_assoc]
  congr
  funext c?
  cases c? with
  | none => exact pure_bind _ _
  | some c =>
    dsimp only
    split
    · simp only [bind_assoc, pure_bind]
    · exact pure_bind _ _

theorem paired_quote? {f g : Option Char → Reading α}
    (hsome : ∀ c, isSpace c = false → Paired false m n (f (some c)) (g (some c)))
    (hnone : Paired false m n (f none) (g none)) : Paired false m n (quote? >>= f) (quote? >>= g) := by
  rw [quote?_bind, quote?_bind]
  refine paired_next?.bind fun c? => ?_
  cases c? with
  | none => exact hnone
  | some c =>
    refine .ite (fun hquote => (paired_skip 1).bind fun _ => hsome c (isSpace_quote ?_)) fun _ => hnone
    simpa using hquote

theorem paired_literal? {run : Char → Reading (List Char)}
    (hrun : ∀ c, isSpace c = false → Steady false m n (run c)) :
    Steady false m n (literal? run) := by
  refine paired_quote? (fun c hc => (hrun c hc).bind fun s => ?_)
    ((paired_report _).bind fun _ => paired_pure _)
  refine (paired_accept ?_).bind fun _ => .guard (fun _ => paired_report _) (paired_pure _)
  simpa [Char.toString] using hc

theorem isBlind_head? {c : Char} (hc : isSpace c = false) : IsBlind fun s => s.head? = some c := by
  refine ⟨fun s e hs _ => ?_, fun d e he => ?_⟩
  · cases s with
    | nil => exact absurd rfl hs
    | cons d s => rfl
  · simpa using ne_of_isSpace (he d List.mem_cons_self) hc

theorem paired_systemLiteral? : Steady false m n systemLiteral? :=
  paired_literal? fun _ hc => paired_run (isBlind_head? hc)

/-- The characters of one kind at the head of a text go to its end, or what is behind it does not matter. -/
theorem span_append (p : Char → Bool) (s e : List Char) :
    (s.dropWhile p = [] ∧ (s ++ e).dropWhile p = e.dropWhile p) ∨
      (s.dropWhile p ≠ [] ∧ (s ++ e).takeWhile p = s.takeWhile p ∧
        (s ++ e).dropWhile p = s.dropWhile p ++ e) := by
  induction s with
  | nil => exact .inl ⟨rfl, rfl⟩
  | cons c s ih =>
    by_cases hc : p c = true
    · simpa [hc] using ih
    · exact .inr (by simp [hc])

theorem paired_takeWhile (p : Char → Bool) (f : List Char → α) :
    Steady false m n (do let s ← rest; moveTo (s.dropWhile p); return f (s.takeWhile p)) := by
  refine paired_of_run (f := fun r => f (r.rest.takeWhile p)) (d := fun r => r.rest.dropWhile p)
    (fun _ _ => rfl) (fun _ => List.dropWhile_suffix _) fun r _ => ?_
  change f ((r.rest ++ m.spaces).takeWhile p) = _ ∧ (r.rest ++ m.spaces).dropWhile p = _ ∨
    _ ∧ _ ∧ IsMargin ((r.rest ++ m.spaces).dropWhile p)
  by_cases hne : m.spaces = []
  · rw [hne, List.append_nil, List.append_nil]
    exact .inl ⟨rfl, rfl⟩
  rcases span_append p r.rest m.spaces with ⟨hnil, hdrop⟩ | ⟨-, htake, hdrop⟩
  · rw [hnil, hdrop]
    exact .inr ⟨hne, .nil, m.isMargin.of_suffix (List.dropWhile_suffix _)⟩
  · rw [htake, hdrop]
    exact .inl ⟨rfl, rfl⟩

theorem paired_publicLiteral? : Steady false m n publicLiteral? :=
  paired_literal? fun _ _ => paired_takeWhile _ id

theorem paired_location (mayStandAlone : Bool) : Steady false m n (location mayStandAlone) := by
  refine (paired_accept (by decide)).bind fun _ => .ite (fun _ => ?_) fun _ => ?_
  · exact (paired_expectSpaces _).bind fun _ => paired_systemLiteral?.bind fun _ => paired_pure _
  refine (paired_accept (by decide)).bind fun _ => .ite (fun _ => ?_) fun _ => paired_pure _
  refine (paired_expectSpaces _).bind fun _ => paired_publicLiteral?.bind fun publicName => ?_
  have hreference : Steady false m n (do return (⟨publicName, ← systemLiteral?⟩ : Location)) :=
    paired_systemLiteral?.bind fun _ => paired_pure _
  refine .ite (fun _ => ?_) fun _ => (paired_expectSpaces _).bind fun _ => hreference
  exact paired_skipSpaces.bind fun _ => paired_next?.bind fun _ => .ite (fun _ => paired_pure _) fun _ =>
    hreference

/-! ## Entities -/

theorem paired_reportUndeclared (name : String) : Steady t m n (reportUndeclared name) :=
  paired_get_known (fun _ _ _ => rfl) fun _ => paired_report _

theorem paired_parameterName? : Steady t m n parameterName? := by
  refine paired_name?.bind fun name? => ?_
  cases name? with
  | none => exact (paired_report _).bind fun _ => paired_pure _
  | some name =>
    refine (paired_accept (by decide)).bind fun _ => .ite (fun _ => ?_) fun _ => ?_
    · exact (paired_updateDeclarations _).bind fun _ => paired_pure _
    · exact (paired_report _).bind fun _ => paired_pure _

theorem paired_declareEntity (e : Entity) : Steady t m n (declareEntity e) := by
  unfold declareEntity
  split
  · exact paired_isSound.bind fun _ => .ite (fun _ => paired_report _) fun _ => paired_pure _
  · exact paired_updateDeclarations _

/-- What one step of reading an entity's literal does, by the character that comes next. -/
theorem entityText_succ (fuel : Nat) (acc : List Char) :
    entityText (fuel + 1) acc = (do
      match ← rest with
      | [] => return acc.reverse
      | c :: s =>
        if c = '&' then
          let (referent, s) := referenceFrom s
          moveTo s
          match referent with
          | .error fault =>
            report fault
            return acc.reverse
          | .ok (.character c) => entityText fuel (c :: acc)
          | .ok (.entity name) => entityText fuel ((("&" ++ name ++ ";").toList.reverse) ++ acc)
        else if c = '%' then
          moveTo s
          match ← parameterName? with
          | none => return acc.reverse
          | some name =>
            match (← get).declarations.parameter? name with
            | none => reportUndeclared name
            | some _ => report (.misusedEntity name)
            return acc.reverse
        else
          moveTo s
          if c = damageMark then
            reportDamage
            entityText fuel (c :: acc)
          else if isLegal c then entityText fuel (c :: acc)
          else
            report (.illegalCharacter c)
            return acc.reverse) := by
  rw [entityText]
  congr
  funext x
  cases x with
  | nil => rfl
  | cons c s =>
    by_cases hreference : c = '&'
    · subst hreference
      rfl
    · by_cases hparameter : c = '%'
      · subst hparameter
        rfl
      · simp [hreference, hparameter]

theorem paired_entityText {fuel fuel' : Nat} (hfuel : IsEnough n fuel fuel') (acc : List Char) :
    Paired false m n (entityText fuel acc) (entityText fuel' acc) := by
  refine paired_loop (fun _ _ => paired_pure _) (fun n fuel fuel' hfuel ih acc => ?_) hfuel acc
  rw [entityText_succ, entityText_succ]
  refine paired_rest fun s e he hlive => ?_
  cases s with
  | nil =>
    rw [hlive rfl .nil]
    exact .of_paired (paired_pure _) .nil
  | cons c s =>
    rw [List.cons_append]
    refine .ite (fun _ => ?_) fun _ => .ite (fun _ => ?_) fun _ => ?_
    · have hsuffix := suffix_of_referenceFrom s
      rw [referenceFrom_margin he]
      generalize referenceFrom s = found at hsuffix
      obtain ⟨referent, u⟩ := found
      dsimp only at hsuffix
      refine pairedOn_moveTo_behind he hsuffix ?_
      rcases referent with fault | (c | name)
      · exact (paired_report _).bind fun _ => paired_pure _
      · exact ih _
      · exact ih _
    · refine pairedOn_moveTo_behind he List.suffix_rfl ?_
      refine paired_parameterName?.bind fun name? => ?_
      cases name? with
      | none => exact paired_pure _
      | some name =>
        refine paired_get_known (fun _ _ _ => rfl) fun r => ?_
        dsimp only
        split
        · exact (paired_reportUndeclared _).bind fun _ => paired_pure _
        · exact (paired_report _).bind fun _ => paired_pure _
    · refine pairedOn_moveTo_behind he List.suffix_rfl ?_
      refine .ite (fun _ => paired_reportDamage.bind fun _ => ih _) fun _ => .ite (fun _ => ih _) fun _ => ?_
      exact (paired_report _).bind fun _ => paired_pure _

theorem paired_entityLiteral? {quote : Char} (hquote : isSpace quote = false) :
    Steady t m n (entityLiteral? quote) := by
  refine paired_rest fun s e he _ => ?_
  have hunfinished : ∀ u,
      Fails (do moveTo u; report (.unfinished "an entity"); return (none : Option (List Char))) :=
    fun u r hr => by
      rw [run_bind_ok (run_moveTo u r)]
      exact (fails_report rfl).bind _ _ (hr.moved u)
  rcases span_append (· != quote) s e with ⟨hnil, hdrop⟩ | ⟨hne, htake, hdrop⟩
  · have hnil' : e.dropWhile (· != quote) = [] := by
      rw [← List.append_nil e, List.dropWhile_append_of_pos]
      · rfl
      · exact fun c hc => bne_iff_ne.mpr (ne_of_isSpace (he c hc) hquote)
    rw [hdrop, hnil, hnil']
    exact (hunfinished []).paired (hunfinished []) _ _ he
  · rw [hdrop, htake]
    cases hbehind : s.dropWhile (· != quote) with
    | nil => exact absurd hbehind hne
    | cons c behind =>
      rw [List.cons_append]
      refine pairedOn_get_known (fun _ _ _ => rfl) fun r => .ite (fun _ => ?_) fun _ => ?_
      · exact .of_paired (((fails_report rfl).bind _).paired ((fails_report rfl).bind _)) he
      · refine pairedOn_aside some ?_ fun n => paired_entityText (.inl rfl) []
        exact (List.suffix_cons c behind).trans (hbehind ▸ List.dropWhile_suffix _)

theorem paired_entityBody? (isParameter : Bool) :
    Steady false m n (entityBody? isParameter) := by
  refine paired_quote? (fun c hc => (paired_entityLiteral? hc).bind fun _ => paired_pure _) ?_
  refine (paired_location _).bind fun place => .guard (fun _ => paired_report _)
    (.guard (fun _ => paired_report _) ?_)
  refine .ite (fun _ => paired_pure _) fun _ => paired_next?.bind fun _ =>
    .guard (fun _ => paired_expectSpaces _) ?_
  refine (paired_accept (by decide)).bind fun _ => .ite (fun _ => ?_) fun _ => paired_pure _
  exact (paired_expectSpaces _).bind fun _ => paired_name?.bind fun _ => paired_pure _

theorem paired_entityDeclaration : Steady false m n entityDeclaration := by
  refine (paired_expectSpaces _).bind fun _ => (paired_accept (by decide)).bind fun isParameter =>
    .guard (fun _ => paired_expectSpaces _) (paired_name?.bind fun name? => ?_)
  cases name? with
  | none => exact paired_report _
  | some name =>
    have hend : Steady false m n (do let _ ← skipSpaces; let _ ← endDeclaration "ENTITY") :=
      paired_skipSpaces.bind fun _ => (paired_endDeclaration _).bind fun _ => paired_pure _
    refine .guard (fun _ => paired_report _) ((paired_expectSpaces _).bind fun _ =>
      (paired_entityBody? _).bind fun body? => ?_)
    cases body? with
    | none => exact hend
    | some body =>
      exact .ite (fun _ => (paired_updateDeclarations _).bind fun _ => hend) fun _ =>
        (paired_declareEntity _).bind fun _ => hend

/-! ## Notations -/

theorem paired_declareNotation (name : String) : Steady t m n (declareNotation name) := by
  refine paired_get_known (fun _ _ _ => rfl) fun r => .ite (fun _ => ?_) fun _ => paired_updateDeclarations _
  exact paired_isSound.bind fun _ => .ite (fun _ => paired_report _) fun _ => paired_pure _

theorem paired_notationDeclaration : Steady false m n notationDeclaration := by
  refine (paired_expectSpaces _).bind fun _ => .ite (fun _ => paired_pure _) fun _ =>
    paired_name?.bind fun name? => ?_
  cases name? with
  | none => exact paired_report _
  | some name =>
    refine .guard (fun _ => paired_report _) ((paired_expectSpaces _).bind fun _ =>
      .ite (fun _ => paired_pure _) fun _ => (paired_location _).bind fun place =>
        paired_skipSpaces.bind fun _ =>
        (paired_endDeclaration _).bind fun _ => .ite (fun _ => ?_) fun _ => paired_pure _)
    exact .ite (fun _ => paired_declareNotation _) fun _ => paired_report _

/-! ## Elements -/

theorem paired_orM {x y : Reading Bool} (hx : Steady t m n x) (hy : Steady t m n y) :
    Steady t m n (x <||> y) := by
  refine hx.bind fun b => ?_
  cases b with
  | true => exact paired_pure _
  | false => exact hy

theorem paired_skipFrequency : Steady false m n skipFrequency :=
  paired_next?.bind fun _ => .ite (fun _ => paired_skip 1) fun _ => paired_pure _

theorem paired_declareElement (name : String) : Steady t m n (declareElement name) := by
  refine paired_get_known (fun _ _ _ => rfl) fun r => .ite (fun _ => ?_) fun _ => paired_updateDeclarations _
  exact paired_isSound.bind fun _ => .ite (fun _ => paired_report _) fun _ => paired_pure _

/-- What follows a member of a group, if the member is sound. -/
def groupBehind (more : Option Char → Reading Bool) (separator : Option Char) (sound : Bool) :
    Reading Bool := do
  if !sound then return false
  let _ ← skipSpaces
  if ← accept ")" then
    skipFrequency
    return true
  match ← next? with
  | some c =>
    if (c = ',' || c = '|') && separator.getD c = c then
      skip 1
      more (some c)
    else
      report (.badDeclaration "ELEMENT")
      return false
  | none =>
    report (.badDeclaration "ELEMENT")
    return false

theorem paired_groupBehind {more more' : Option Char → Reading Bool}
    (hmore : ∀ c, Paired false m n (more c) (more' c)) (separator : Option Char) (sound : Bool) :
    Paired false m n (groupBehind more separator sound) (groupBehind more' separator sound) := by
  refine .ite (fun _ => paired_pure _) fun _ => paired_skipSpaces.bind fun _ => ?_
  refine (paired_accept (by decide)).bind fun _ =>
    .ite (fun _ => paired_skipFrequency.bind fun _ => paired_pure _) fun _ => paired_next?.bind fun c? => ?_
  have hbad : Steady false m n (do report (.badDeclaration "ELEMENT"); return false) :=
    (paired_report _).bind fun _ => paired_pure _
  cases c? with
  | none => exact hbad
  | some c => exact .ite (fun _ => (paired_skip 1).bind fun _ => hmore _) fun _ => hbad

theorem paired_groupFrom {fuel fuel' : Nat} (hfuel : IsEnough n fuel fuel') (left : Nat)
    (separator : Option Char) :
    Paired false m n (groupFrom fuel left separator) (groupFrom fuel' left separator) := by
  refine paired_loop (f := fun fuel (b : Nat × Option Char) => groupFrom fuel b.1 b.2)
    (fun _ _ => paired_pure _) (fun n fuel fuel' _ ih (left, separator) => ?_) hfuel (left, separator)
  have hbehind := paired_groupBehind (fun c => ih (left, c)) separator
  refine paired_skipSpaces.bind fun _ => Paired.bind_shorter (paired_accept (by decide))
    (shortens_accept (by decide)) (fun opened hopened => ?_) fun opened hopened => ?_
  · rw [if_pos hopened, if_pos hopened]
    cases left with
    | zero => exact (fails_report rfl).bind _ |>.paired ((fails_report rfl).bind _)
    | succ left => exact (ih (left, none)).bind hbehind
  · rw [if_neg hopened, if_neg hopened]
    refine paired_name?.bind_shorter shortens_name? (fun name? hname => ?_) fun name? hname => ?_
    · obtain ⟨name, rfl⟩ := Option.isSome_iff_exists.mp hname
      exact paired_skipFrequency.bind fun _ => hbehind true
    · cases name? with
      | none => exact (paired_report _).bind fun _ => paired_pure _
      | some name => exact absurd rfl hname

theorem paired_mixedFrom {fuel fuel' : Nat} (hfuel : IsEnough n fuel fuel') (named : Bool) :
    Paired false m n (mixedFrom named fuel) (mixedFrom named fuel') := by
  refine paired_loop (f := fun fuel named => mixedFrom named fuel) (fun _ _ => paired_pure _)
    (fun n fuel fuel' _ ih named => ?_) hfuel named
  have hbad : Steady false m (n + 1) (do report (.badDeclaration "ELEMENT"); return false) :=
    (paired_report _).bind fun _ => paired_pure _
  refine paired_skipSpaces.bind fun _ => Paired.bind_shorter (paired_accept (by decide))
    (shortens_accept (by decide)) (fun barred hbarred => ?_) fun barred hbarred => ?_
  · rw [if_pos hbarred, if_pos hbarred]
    refine paired_skipSpaces.bind fun _ => paired_name?.bind fun name? => ?_
    cases name? with
    | none => exact (paired_report _).bind fun _ => paired_pure _
    | some name => exact ih true
  · rw [if_neg hbarred, if_neg hbarred]
    refine (paired_accept (by decide)).bind fun _ => .ite (fun _ => paired_pure _) fun _ =>
      .ite (fun _ => ?_) fun _ => hbad
    exact (paired_accept (by decide)).bind fun _ => .ite (fun _ => paired_pure _) fun _ => hbad

theorem paired_contentModel : Steady false m n contentModel := by
  refine (paired_orM (paired_accept (by decide)) (paired_accept (by decide))).bind fun _ =>
    .ite (fun _ => paired_pure _) fun _ => (paired_accept (by decide)).bind fun _ =>
      .ite (fun _ => ?_) fun _ =>
      (paired_report _).bind fun _ => paired_pure _
  refine paired_skipSpaces.bind fun _ => paired_rest fun s e he _ => .of_length ?_ he
  have hfuel : IsEnough (s.length + 1) (s.length + 1) ((s ++ e).length + 1) := .length (by simp)
  exact (paired_accept (by decide)).bind fun _ =>
    .ite (fun _ => paired_mixedFrom hfuel false) fun _ => paired_groupFrom hfuel _ none

theorem paired_elementDeclaration : Steady false m n elementDeclaration := by
  refine (paired_expectSpaces _).bind fun _ => .ite (fun _ => paired_pure _) fun _ =>
    paired_name?.bind fun name? => ?_
  cases name? with
  | none => exact paired_report _
  | some name =>
    refine (paired_expectSpaces _).bind fun _ => paired_contentModel.bind fun _ => .ite (fun _ => ?_) fun _ =>
      paired_pure _
    exact paired_skipSpaces.bind fun _ => (paired_endDeclaration _).bind fun _ =>
      .ite (fun _ => paired_declareElement _) fun _ => paired_pure _

/-! ## Attributes -/

theorem paired_acceptType? {words : List (String × AttributeType)}
    (hwords : ∀ w ∈ words, w.1.toList.any isSpace = false) :
    Steady t m n (acceptType? words) := by
  induction words with
  | nil => exact paired_pure _
  | cons w more ih =>
    obtain ⟨hw, hmore⟩ := List.forall_mem_cons.mp hwords
    exact (paired_accept hw).bind fun _ => .ite (fun _ => paired_pure _) fun _ => ih hmore

theorem paired_word? : Steady false m n word? :=
  paired_takeWhile isNameCharacter fun word => if word.isEmpty then none else some (String.ofList word)

theorem paired_choicesFrom {choice? : Reading (Option String)}
    (hchoice : ∀ n, Steady false m n choice?) {fuel fuel' : Nat} (hfuel : IsEnough n fuel fuel')
    (seen : List String) :
    Paired false m n (choicesFrom choice? fuel seen) (choicesFrom choice? fuel' seen) := by
  refine paired_loop (fun _ _ => paired_pure _) (fun n fuel fuel' _ ih seen => ?_) hfuel seen
  refine paired_skipSpaces.bind fun _ => (hchoice _).bind fun choice? => ?_
  cases choice? with
  | none => exact (paired_report _).bind fun _ => paired_pure _
  | some choice =>
    refine .guard (fun _ => paired_report _) (paired_skipSpaces.bind fun _ => Paired.bind_shorter
      (paired_accept (by decide)) (shortens_accept (by decide)) (fun barred hbarred => ?_)
        fun barred hbarred => ?_)
    · rw [if_pos hbarred, if_pos hbarred]
      exact ih _
    · rw [if_neg hbarred, if_neg hbarred]
      exact (paired_accept (by decide)).bind fun _ =>
        .ite (fun _ => paired_pure _) fun _ => (paired_report _).bind fun _ => paired_pure _

theorem paired_choices {choice? : Reading (Option String)} (hchoice : ∀ n, Steady false m n choice?) :
    Steady false m n (choices choice?) := by
  refine (paired_accept (by decide)).bind fun _ => .ite (fun _ => ?_) fun _ =>
    (paired_report _).bind fun _ => paired_pure _
  exact paired_rest fun s e he _ => .of_length (paired_choicesFrom hchoice (.length (by simp)) []) he

theorem paired_attributeType? : Steady false m n attributeType? := by
  refine (paired_acceptType? (by decide)).bind fun type? => ?_
  cases type? with
  | some type => exact paired_pure _
  | none =>
    refine (paired_accept (by decide)).bind fun _ => .ite (fun _ => ?_) fun _ => ?_
    · exact (paired_expectSpaces _).bind fun _ => .ite (fun _ => paired_pure _) fun _ =>
        (paired_choices fun _ => paired_name?).bind fun _ => paired_pure _
    · exact (paired_choices fun _ => paired_word?).bind fun _ => paired_pure _

theorem paired_defaultValue? (hm : m.metered = true) (type : AttributeType) :
    Steady false m n (defaultValue? type) := by
  refine (paired_orM (paired_accept (by decide)) (paired_accept (by decide))).bind fun _ =>
    .ite (fun _ => paired_pure _) fun _ => (paired_accept (by decide)).bind fun _ =>
      .guard (fun _ => paired_expectSpaces _) ((paired_value? hm _ _).bind fun parts? => ?_)
  cases parts? with
  | none => exact paired_pure _
  | some parts => exact paired_pure _

theorem paired_checkRule (rule : AttributeRule) : Steady t m n (checkRule rule) := by
  refine paired_get_known (fun _ _ _ => rfl) fun r => .guard (fun _ => paired_report _) ?_
  have hrepeated : Paired t m n
      (if (r.declarations.rule? rule.element rule.named).isSome then report (.repeatedRule rule.named)
        else if rule.type = .identifier &&
            r.declarations.rules.any fun old => old.element == rule.element && old.type == .identifier then
          report (.severalIdentifiers rule.element)
        else pure ()) _ :=
    .ite (fun _ => paired_report _) fun _ => .ite (fun _ => paired_report _) fun _ => paired_pure _
  cases hdefault : rule.default with
  | none => exact hrepeated
  | some value => exact .guard (fun _ => paired_report _) hrepeated

theorem paired_declareRule (rule : AttributeRule) : Steady t m n (declareRule rule) :=
  paired_isSound.bind fun _ => .guard (fun _ => paired_checkRule rule) (paired_updateDeclarations _)

theorem paired_rulesFrom (hm : m.metered = true) (element : String) {fuel fuel' : Nat}
    (hfuel : IsEnough n fuel fuel') :
    Paired false m n (rulesFrom element fuel) (rulesFrom element fuel') := by
  refine paired_loop (f := fun fuel (_ : Unit) => rulesFrom element fuel) (fun _ _ => paired_pure _)
    (fun n fuel fuel' _ ih _ => ?_) hfuel ()
  refine (paired_accept (by decide)).bind fun _ => .ite (fun _ => paired_pure _) fun _ =>
    paired_name?.bind_shorter shortens_name? (fun name? hname => ?_) fun name? hname => ?_
  · obtain ⟨name, rfl⟩ := Option.isSome_iff_exists.mp hname
    refine (paired_expectSpaces _).bind fun _ => .ite (fun _ => paired_pure _) fun _ =>
      paired_attributeType?.bind fun type? => ?_
    cases type? with
    | none => exact paired_pure _
    | some type =>
      refine (paired_expectSpaces _).bind fun _ => .ite (fun _ => paired_pure _) fun _ =>
        (paired_defaultValue? hm type).bind fun default => paired_next?.bind fun _ => ?_
      have hmore := (paired_declareRule (t := false) (m := m) (n := n) ⟨element, name, type, default⟩).bind
        fun _ => ih ()
      exact .ite (fun _ => (paired_expectSpaces _).bind fun _ => .ite (fun _ => paired_pure _) fun _ => hmore)
        fun _ => hmore
  · cases name? with
    | none => exact paired_report _
    | some name => exact absurd rfl hname

theorem paired_attributesDeclaration (hm : m.metered = true) :
    Steady false m n attributesDeclaration := by
  refine (paired_expectSpaces _).bind fun _ => paired_name?.bind fun name? => ?_
  cases name? with
  | none => exact paired_report _
  | some element =>
    exact paired_skipSpaces.bind fun _ => paired_rest fun s e he _ =>
      .of_length (paired_rulesFrom hm element (.length (by simp))) he

end Storyboard.Markup.Reading
