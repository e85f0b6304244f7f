import Storyboard.Markup.Document
/-!
# Readings of sources that are whole

A source without a byte that could not be decoded leaves nothing to be reported but what is wrong with its
markup. A fatal fault then ends the reading where it is found, and until then the log holds none. What each
of the basic readings does is told by one equation.

A document cannot begin just anyhow: behind white space at its start there has to be an angle bracket, and no
XML declaration.

* `run_report`: what a fault does.
* `document?_refused_other`, `document?_refused_declared`: what a document cannot begin with.
-/
namespace Storyboard.Markup

/-- White space of the markup only. -/
def IsMargin (s : List Char) : Prop := ∀ c ∈ s, isSpace c = true

instance (s : List Char) : Decidable (IsMargin s) := decidable_of_iff (s.all isSpace = true) List.all_eq_true

/-- The source is decoded to its end, and no fatal fault was found so far. -/
structure Reader.IsSettled (r : Reader) : Prop where
  damaged : r.damaged = false
  cutOff : r.cutOff = none
  sound : r.log.isSound = true
  depth : 1 ≤ r.depth

/-- The reader with another text in front of it. -/
def Reader.moved (r : Reader) (s : List Char) : Reader := { r with rest := s }

/-- The reader with a fault noted. -/
def Reader.noting (r : Reader) (fault : Fault) : Reader := { r with log := r.log.add fault }

@[simp] theorem Reader.rest_moved (r : Reader) (s : List Char) : (r.moved s).rest = s := rfl

@[simp] theorem Reader.moved_moved (r : Reader) (s t : List Char) : (r.moved s).moved t = r.moved t := rfl

theorem Reader.IsSettled.moved {r : Reader} (h : r.IsSettled) (s : List Char) : (r.moved s).IsSettled :=
  ⟨h.damaged, h.cutOff, h.sound, h.depth⟩

/-! ## Texts -/

theorem eq_of_isSpace {c : Char} (h : isSpace c = true) : c = ' ' ∨ c = '\t' ∨ c = '\n' ∨ c = '\r' := by
  simpa only [isSpace, Bool.or_eq_true, beq_iff_eq, or_assoc] using h

theorem isSpace_quote {c : Char} (h : (c = '"' || c = '\x27') = true) : isSpace c = false := by
  simp only [Bool.or_eq_true, decide_eq_true_eq] at h
  rcases h with rfl | rfl <;> rfl

theorem isNameCharacter_of_isSpace {c : Char} (h : isSpace c = true) : isNameCharacter c = false := by
  rcases eq_of_isSpace h with rfl | rfl | rfl | rfl <;> rfl

theorem nameFrom_append {name s : List Char} (hname : isName name = true)
    (hs : ∀ c, s.head? = some c → isNameCharacter c = false) : nameFrom (name ++ s) = (name, s) := by
  cases name with
  | nil => cases hname
  | cons c more =>
    simp only [isName, Bool.and_eq_true, List.all_eq_true] at hname
    have hall : ∀ d ∈ c :: more, isNameCharacter d = true :=
      List.forall_mem_cons.mpr ⟨by simp [isNameCharacter, hname.1], hname.2⟩
    change (if isNameStart c then _ else _) = _
    rw [if_pos hname.1, List.takeWhile_append_of_pos hall, List.dropWhile_append_of_pos hall]
    cases s with
    | nil => simp
    | cons d s => simp [hs d rfl]

theorem dropWhile_margin {lead s : List Char} (hlead : IsMargin lead)
    (hs : ∀ c, s.head? = some c → isSpace c = false) : (lead ++ s).dropWhile isSpace = s := by
  rw [List.dropWhile_append_of_pos hlead]
  cases s with
  | nil => rfl
  | cons c rest => exact List.dropWhile_cons_of_neg (by simp [hs c rfl])

theorem isPrefixOf_eq_false {w s : List Char} (hw : w ≠ []) (h : w.head? ≠ s.head?) :
    w.isPrefixOf s = false := by
  obtain ⟨c, w, rfl⟩ := List.exists_cons_of_ne_nil hw
  cases s with
  | nil => rfl
  | cons d s =>
    have hne : c ≠ d := by simpa using h
    simp [List.isPrefixOf, hne]

namespace Reading

variable {α β : Type} {r : Reader}

/-! ## Steps -/

theorem run_bind (x : Reading α) (f : α → Reading β) (r : Reader) :
    EStateM.run (x >>= f) r = match EStateM.run x r with
      | .ok a r' => EStateM.run (f a) r'
      | .error e r' => .error e r' := by
  simp only [EStateM.run, bind, EStateM.bind]
  cases x r <;> rfl

theorem run_bind_ok {x : Reading α} {f : α → Reading β} {a : α} {r' : Reader}
    (h : EStateM.run x r = .ok a r') : EStateM.run (x >>= f) r = EStateM.run (f a) r' := by
  rw [run_bind, h]

theorem run_bind_error {x : Reading α} {f : α → Reading β} {r' : Reader}
    (h : EStateM.run x r = .error () r') : EStateM.run (x >>= f) r = .error () r' := by
  rw [run_bind, h]

theorem run_pure (a : α) (r : Reader) : EStateM.run (pure a : Reading α) r = .ok a r := rfl

theorem run_lookAhead (hcut : r.cutOff = none) : EStateM.run lookAhead r = .ok () r := by
  rw [lookAhead, run_bind_ok (EStateM.run_get r), hcut]
  rfl

theorem run_report (h : r.IsSettled) (fault : Fault) : EStateM.run (report fault) r =
    if fault.gravity = .fatal then .error () (r.noting fault) else .ok () (r.noting fault) := by
  have hpending : (r.noting fault).isPending = false := by
    simp [Reader.isPending, Reader.noting, h.damaged, h.cutOff]
  rw [report, run_bind, run_lookAhead h.cutOff]
  change EStateM.run (if decide (fault.gravity = .fatal) && !(r.noting fault).isPending then throw ()
    else pure () : Reading Unit) (r.noting fault) = _
  rw [hpending]
  by_cases hfatal : fault.gravity = .fatal
  · simp only [hfatal, decide_true, Bool.not_false, Bool.and_self, if_true]
    rfl
  · simp only [hfatal, decide_false, Bool.false_and, if_false]
    rfl

theorem run_report_fatal (h : r.IsSettled) {fault : Fault} (hfatal : fault.gravity = .fatal) :
    EStateM.run (report fault) r = .error () (r.noting fault) := by
  rw [run_report h, if_pos hfatal]

theorem run_isSound (h : r.IsSettled) : EStateM.run isSound r = .ok true r := by
  rw [isSound, run_bind_ok (run_lookAhead h.cutOff)]
  change EStateM.Result.ok r.log.isSound r = _
  rw [h.sound]

theorem run_rest (r : Reader) : EStateM.run rest r = .ok r.rest r := rfl

theorem run_moveTo (s : List Char) (r : Reader) : EStateM.run (moveTo s) r = .ok () (r.moved s) := rfl

theorem run_skip (n : Nat) (r : Reader) : EStateM.run (skip n) r = .ok () (r.moved (r.rest.drop n)) := rfl

theorem run_accept (w : String) (r : Reader) : EStateM.run (accept w) r =
    if w.toList.isPrefixOf r.rest then .ok true (r.moved (r.rest.drop w.length)) else .ok false r := by
  change EStateM.run (if w.toList.isPrefixOf r.rest then _ else _ : Reading Bool) r = _
  split <;> rfl

theorem run_accept_false {w : String} (h : w.toList.isPrefixOf r.rest = false) :
    EStateM.run (accept w) r = .ok false r := by
  rw [run_accept, h]
  rfl

theorem run_accept_true {w : String} {s : List Char} (h : r.rest = w.toList ++ s) :
    EStateM.run (accept w) r = .ok true (r.moved s) := by
  have hbegins : w.toList.isPrefixOf r.rest = true := by
    rw [List.isPrefixOf_iff_prefix, h]
    exact List.prefix_append _ _
  rw [run_accept, if_pos hbegins, h, ← String.length_toList, List.drop_left]

theorem run_skipSpaces (r : Reader) : EStateM.run skipSpaces r =
    .ok ((r.rest.head?.map isSpace).getD false) (r.moved (r.rest.dropWhile isSpace)) := rfl

theorem run_name? (h : r.IsSettled) : EStateM.run name? r =
    if longestName < byteCount (nameFrom r.rest).1 then
      .error () ((r.moved (nameFrom r.rest).2).noting (.badName "a name that is too long"))
    else .ok (if (nameFrom r.rest).1.isEmpty then none else some (String.ofList (nameFrom r.rest).1))
      (r.moved (nameFrom r.rest).2) := by
  change EStateM.run (if longestName < byteCount (nameFrom r.rest).1 then _ else _ : Reading _) _ = _
  split
  · exact run_bind_error (run_report_fatal (h.moved (nameFrom r.rest).2) rfl)
  · rfl

/-! ## What a document cannot begin with -/

/-- A text does not go on with any of the words that may stand in front of the outermost element. -/
def IsBare (s : List Char) : Prop := ∀ w ∈ ["<?", "<!--", "<!DOCTYPE"], w.toList.isPrefixOf s = false

theorem isBare_of_head {s : List Char} (h : s.head? ≠ some '<') : IsBare s := by
  intro w hw
  have hhead : w.toList.head? = some '<' := by
    simp only [List.mem_cons, List.not_mem_nil, or_false] at hw
    rcases hw with rfl | rfl | rfl <;> rfl
  refine isPrefixOf_eq_false ?_ (hhead ▸ h.symm)
  rintro hnil
  rw [hnil] at hhead
  cases hhead

theorem run_asidesFrom_bare {fuel : Nat} {lead s : List Char} (hr : r.rest = lead ++ s)
    (hlead : IsMargin lead) (hspace : ∀ c, s.head? = some c → isSpace c = false) (hs : IsBare s) :
    EStateM.run (asidesFrom (fuel + 1)) r = .ok () (r.moved s) := by
  rw [asidesFrom, run_bind_ok (run_skipSpaces r), hr, dropWhile_margin hlead hspace,
    run_bind_ok (run_accept_false (hs "<?" (by simp))), if_neg (by decide),
    run_bind_ok (run_accept_false (hs "<!--" (by simp))), if_neg (by decide), run_pure]

theorem run_instruction?_declared {s : List Char} (h : r.IsSettled) (hr : r.rest = "xml".toList ++ s)
    (hs : ∀ c, s.head? = some c → isSpace c = true) : ∃ r', EStateM.run instruction? r = .error () r' := by
  have hname : nameFrom r.rest = ("xml".toList, s) := by
    rw [hr]
    exact nameFrom_append (by decide) fun c hc => isNameCharacter_of_isSpace (hs c hc)
  have hread : EStateM.run name? r = .ok (some "xml") (r.moved s) := by
    rw [run_name? h, hname]
    rfl
  have hfault : EStateM.run (reportAll (targetFaults "xml")) (r.moved s) =
      .error () ((r.moved s).noting (.badInstruction "xml")) := by
    change EStateM.run (report (.badInstruction "xml") >>= fun _ => pure ()) (r.moved s) = _
    exact run_bind_error (run_report_fatal (h.moved s) rfl)
  rw [instruction?, run_bind_ok hread]
  exact ⟨_, run_bind_error hfault⟩

theorem run_asides_declared {lead s : List Char} (h : r.IsSettled)
    (hr : r.rest = lead ++ ("<?xml".toList ++ s))
    (hlead : IsMargin lead) (hs : ∀ c, s.head? = some c → isSpace c = true) :
    ∃ r', EStateM.run asides r = .error () r' := by
  have hopened : (r.moved ("<?xml".toList ++ s)).rest = "<?".toList ++ ("xml".toList ++ s) := rfl
  obtain ⟨r', hr'⟩ := run_instruction?_declared (h.moved ("xml".toList ++ s)) rfl hs
  refine ⟨r', ?_⟩
  rw [asides, run_bind_ok (run_rest r), asidesFrom, run_bind_ok (run_skipSpaces r), hr,
    dropWhile_margin hlead (by rintro c ⟨⟩; rfl), run_bind_ok (run_accept_true hopened), if_pos rfl]
  exact run_bind_error hr'

/-- Does a text begin with an XML declaration? -/
def isDeclared : List Char → Bool
  | '<' :: '?' :: 'x' :: 'm' :: 'l' :: c :: _ => isSpace c
  | _ => false

theorem isDeclared_of_head {s : List Char} (h : s.head? ≠ some '<') : isDeclared s = false := by
  unfold isDeclared
  split
  · exact (h rfl).elim
  · rfl

/-- A text with a declaration, cut behind `<?xml`. -/
theorem exists_of_isDeclared {s : List Char} (h : isDeclared s = true) :
    ∃ c t, s = "<?xml".toList ++ c :: t ∧ isSpace c = true := by
  unfold isDeclared at h
  split at h
  · exact ⟨_, _, rfl, h⟩
  · cases h

/-- What may stand in front of the outermost element, behind the XML declaration. -/
def undeclaredProlog : Reading Unit := do
  asides
  if ← accept "<!DOCTYPE" then
    documentType
    asides

theorem prolog_eq (unknown : Option String) :
    prolog unknown = (do
      let s ← rest
      if isDeclared s then
        moveTo (s.drop 5)
        xmlDeclaration unknown
      undeclaredProlog) := by
  unfold prolog
  congr
  funext s
  split
  · rfl
  · rename_i hother
    have hplain : isDeclared s = false := by
      unfold isDeclared
      split
      · exact (hother _ _ rfl).elim
      · rfl
    rw [hplain]
    rfl

theorem run_prolog_undeclared {unknown : Option String} (h : isDeclared r.rest = false) :
    EStateM.run (prolog unknown) r = EStateM.run undeclaredProlog r := by
  rw [prolog_eq, run_bind_ok (run_rest r), if_neg (by simp [h])]

theorem isDeclared_margin {lead s : List Char} (hlead : IsMargin lead) (hne : lead ≠ []) :
    isDeclared (lead ++ s) = false := by
  obtain ⟨c, lead, rfl⟩ := List.exists_cons_of_ne_nil hne
  refine isDeclared_of_head ?_
  rintro ⟨⟩
  exact absurd (hlead '<' List.mem_cons_self) (by decide)

/-- The text that a document is must not be empty, and its first character not be the null character. -/
theorem run_document? {unknown : Option String} {truncated : Bool} (h : r.IsSettled) :
    EStateM.run (document? unknown truncated) r =
      if r.rest.isEmpty || r.rest.head? = some '\x00' then .error () (r.noting .empty)
      else EStateM.run (do
        prolog unknown
        if ← accept "<" then
          let root ← rootElement?
          asides
          documentEnd truncated
          return root
        else
          if ← isSound then report .empty
          return none) r := by
  rw [document?, run_bind_ok (run_rest r)]
  split
  · refine run_bind_error ?_
    rw [giveUp]
    exact run_bind_error (run_report_fatal h rfl)
  · rfl

theorem run_prolog_bare {unknown : Option String} {lead s : List Char} (hr : r.rest = lead ++ s)
    (hlead : IsMargin lead) (hspace : ∀ c, s.head? = some c → isSpace c = false) (hs : IsBare s)
    (hplain : isDeclared r.rest = false) : EStateM.run (prolog unknown) r = .ok () (r.moved s) := by
  rw [run_prolog_undeclared hplain, undeclaredProlog, asides, run_bind, run_bind_ok (run_rest r),
    run_asidesFrom_bare hr hlead hspace hs]
  dsimp only
  rw [run_bind_ok (run_accept_false (hs "<!DOCTYPE" (by simp)))]
  rfl

/-- A document begins with an angle bracket behind its margin. -/
theorem document?_refused_other {unknown : Option String} {truncated : Bool} {lead s : List Char}
    (h : r.IsSettled) (hr : r.rest = lead ++ s) (hlead : IsMargin lead)
    (hspace : ∀ c, s.head? = some c → isSpace c = false) (hs : s.head? ≠ some '<') :
    ∃ r', EStateM.run (document? unknown truncated) r = .error () r' := by
  have hplain : isDeclared r.rest = false := by
    rw [hr]
    cases lead with
    | nil => exact isDeclared_of_head hs
    | cons c lead => exact isDeclared_margin hlead (List.cons_ne_nil _ _)
  have hno : "<".toList.isPrefixOf s = false := isPrefixOf_eq_false (by decide) hs.symm
  rw [run_document? h]
  split
  · exact ⟨_, rfl⟩
  · rw [run_bind_ok (run_prolog_bare hr hlead hspace (isBare_of_head hs) hplain),
      run_bind_ok (run_accept_false hno), if_neg (by decide), run_bind_ok (run_isSound (h.moved s)),
      if_pos rfl]
    exact ⟨_, run_bind_error (run_report_fatal (h.moved s) rfl)⟩

/-- An XML declaration must not come behind a margin. -/
theorem document?_refused_declared {unknown : Option String} {truncated : Bool} {lead s : List Char}
    (h : r.IsSettled) (hr : r.rest = lead ++ s) (hlead : IsMargin lead) (hne : lead ≠ [])
    (hs : isDeclared s = true) : ∃ r', EStateM.run (document? unknown truncated) r = .error () r' := by
  obtain ⟨c, t, rfl, hc⟩ := exists_of_isDeclared hs
  obtain ⟨r', hr'⟩ := run_asides_declared h hr hlead (by rintro d ⟨⟩; exact hc)
  have hprolog : EStateM.run (prolog unknown) r = .error () r' := by
    rw [run_prolog_undeclared (by rw [hr]; exact isDeclared_margin hlead hne), undeclaredProlog]
    exact run_bind_error hr'
  rw [run_document? h]
  split
  · exact ⟨_, rfl⟩
  · exact ⟨_, run_bind_error hprolog⟩

end Reading

end Storyboard.Markup
