import Storyboard.Proofs.Markup.Margins.Settled
/-!
# Readings in front of a margin

The same document is read twice, the second time with white space behind it. Two readings are paired if they
come to the same as long as neither has reached the white space at the end: with the same result and at the
same place, or both fail. Where nothing but white space is left they need not agree, unless the pairing is
tight; but a reading only moves on, so then there will be nothing but white space for good.

A document may also be longer in front of what is read. That changes nothing but what it may expand to; there
the first reading may fail alone.

* `Paired`: the pairing, for texts below a length; `Steady`: a reading that is paired with itself.
* `Paired.bind`: steps one after the other.
* `paired_loop`: readings that repeat, each with enough fuel for its own text.
* `Sealed`: readings that cannot end well where only white space is left.
-/
namespace Storyboard.Markup

/-! ## Margins -/

theorem IsMargin.nil : IsMargin [] := fun _ h => absurd h List.not_mem_nil

theorem IsMargin.of_suffix {s t : List Char} (h : IsMargin t) (hs : s <:+ t) : IsMargin s :=
  fun c hc => h c (hs.subset hc)

theorem isMargin_append {s t : List Char} : IsMargin (s ++ t) ↔ IsMargin s ∧ IsMargin t :=
  List.forall_mem_append

/-- How a document is longer the second time. -/
structure Margin where
  /-- The white space behind it. -/
  spaces : List Char
  isMargin : IsMargin spaces
  /-- By how many bytes it is longer. -/
  bytes : Nat
  /-- How many of them are in front of it. -/
  slack : Nat
  /-- Is what it expands to measured? -/
  metered : Bool

/-- The document as it is. -/
def Margin.none : Margin := ⟨[], .nil, 0, 0, false⟩

/-- The margin is not behind a text inside the document. -/
def Margin.inside (m : Margin) : Margin := { m with spaces := [], isMargin := .nil }

/-- The margin is not behind a piece that is taken out of the document either. -/
def Margin.aside (m : Margin) : Margin := { m.inside with metered := false }

/-- The same place the second time. -/
def Reader.followed (r : Reader) (m : Margin) : Reader :=
  { r with rest := r.rest ++ m.spaces, size := r.size + m.bytes }

/-- The margin is behind the document itself, not behind the texts inside it. -/
structure Margin.Fits (m : Margin) (r : Reader) : Prop where
  settled : r.IsSettled
  inside : 1 < r.depth → m.spaces = []
  metered : m.metered = true → r.depth ≤ 1 → m.bytes = m.spaces.length + m.slack

theorem Reader.IsSettled.followed {r : Reader} (h : r.IsSettled) (m : Margin) : (r.followed m).IsSettled :=
  ⟨h.damaged, h.cutOff, h.sound, h.depth⟩

theorem Margin.Fits.of_depth {m : Margin} {r r' : Reader} (h : m.Fits r) (hr : r'.IsSettled)
    (hdepth : r'.depth = r.depth) : m.Fits r' :=
  ⟨hr, hdepth ▸ h.inside, hdepth ▸ h.metered⟩

namespace Reading

abbrev Result (α : Type) := EStateM.Result Unit Reader α

variable {α β : Type} {t : Bool} {m : Margin} {n k : Nat} {s e : List Char}

/-! ## Results -/

/-- Only white space is left, if the reading goes well at all. -/
def IsSpent (o : Result α) : Prop := ∀ a r, o = .ok a r → IsMargin r.rest

/-- The reading fails since the document expands to too much. -/
def Exceeds (o : Result α) : Prop := ∃ r, o = .error () r ∧ r.log.refusal? = some .excessiveExpansion

/-- What two readings may come to, the second one with the margin. -/
inductive Agrees (m : Margin) (tight : Bool) : Result α → Result α → Prop
  | same (a : α) (r : Reader) : Agrees m tight (.ok a r) (.ok a (r.followed m))
  | failed (r r' : Reader) : Agrees m tight (.error () r) (.error () r')
  | spent {o o' : Result α} : tight = false → m.spaces ≠ [] → IsSpent o → IsSpent o' → Agrees m tight o o'
  | exceeded {o o' : Result α} : 0 < m.slack → Exceeds o → Agrees m tight o o'

/-- The reading moves on in its text, and finds no fatal fault, unless it fails. -/
def Proceeds (r : Reader) (o : Result α) : Prop :=
  ∀ a r', o = .ok a r' → r'.IsSettled ∧ r'.rest <:+ r.rest ∧ r'.depth = r.depth

theorem Proceeds.pure {a : α} {r : Reader} (h : r.IsSettled) : Proceeds r (.ok a r) := by
  rintro _ _ ⟨⟩
  exact ⟨h, List.suffix_refl _, rfl⟩

theorem Proceeds.bind {x : Reading α} {f : α → Reading β} {r : Reader}
    (hx : Proceeds r (EStateM.run x r))
    (hf : ∀ a r', r'.IsSettled → EStateM.run x r = .ok a r' → Proceeds r' (EStateM.run (f a) r')) :
    Proceeds r (EStateM.run (x >>= f) r) := by
  rw [run_bind]
  cases hrun : EStateM.run x r with
  | error => rintro _ _ ⟨⟩
  | ok a r' =>
    obtain ⟨hsettled, hsuffix, hdepth⟩ := hx a r' hrun
    intro b r'' h
    obtain ⟨hsettled', hsuffix', hdepth'⟩ := hf a r' hsettled hrun b r'' h
    exact ⟨hsettled', hsuffix'.trans hsuffix, hdepth'.trans hdepth⟩

/-- What begins with only white space left ends so. -/
theorem IsSpent.of_proceeds {o : Result α} {r : Reader} (h : Proceeds r o) (hr : IsMargin r.rest) :
    IsSpent o :=
  fun a r' ho => hr.of_suffix (h a r' ho).2.1

theorem IsSpent.bind {x : Reading α} {f : α → Reading β} {r : Reader} (h : IsSpent (EStateM.run x r))
    (hx : Proceeds r (EStateM.run x r))
    (hf : ∀ a r', r'.IsSettled → Proceeds r' (EStateM.run (f a) r')) :
    IsSpent (EStateM.run (x >>= f) r) := by
  rw [run_bind]
  cases hrun : EStateM.run x r with
  | error => rintro _ _ ⟨⟩
  | ok a r' => exact .of_proceeds (hf a r' (hx a r' hrun).1) (h a r' hrun)

theorem Agrees.loosen {o o' : Result α} (h : Agrees m true o o') : Agrees m t o o' := by
  cases h with
  | same a r => exact .same a r
  | failed r r' => exact .failed r r'
  | spent ht => cases ht
  | exceeded hslack ho => exact .exceeded hslack ho

theorem Agrees.bind {x y : Reading α} {f g : α → Reading β} {r r₂ : Reader}
    (h : Agrees m t (EStateM.run x r) (EStateM.run y r₂)) (hx : Proceeds r (EStateM.run x r))
    (hy : Proceeds r₂ (EStateM.run y r₂)) (hf : ∀ a r', r'.IsSettled → Proceeds r' (EStateM.run (f a) r'))
    (hg : ∀ a r', r'.IsSettled → Proceeds r' (EStateM.run (g a) r'))
    (hsame : ∀ a r', EStateM.run x r = .ok a r' →
      Agrees m t (EStateM.run (f a) r') (EStateM.run (g a) (r'.followed m))) :
    Agrees m t (EStateM.run (x >>= f) r) (EStateM.run (y >>= g) r₂) := by
  generalize ho : EStateM.run x r = o at h
  generalize ho' : EStateM.run y r₂ = o' at h
  cases h with
  | same a r' =>
    rw [run_bind_ok ho, run_bind_ok ho']
    exact hsame a r' ho
  | failed r' r'' =>
    rw [run_bind_error ho, run_bind_error ho']
    exact .failed r' r''
  | spent ht hne hs hs' =>
    exact .spent ht hne (.bind (ho ▸ hs) hx hf) (.bind (ho' ▸ hs') hy hg)
  | exceeded hslack hexceeds =>
    obtain ⟨r', rfl, hrefusal⟩ := hexceeds
    exact .exceeded hslack ⟨r', run_bind_error ho, hrefusal⟩

/-- Where the margin is not behind the text that is read first, neither has reached white space before the
rest is read. -/
theorem Agrees.bind_inside {m' : Margin} {x y : Reading α} {f g : α → Reading β} {r r₂ : Reader}
    (h : Agrees m' t (EStateM.run x r) (EStateM.run y r₂)) (hspaces : m'.spaces = [])
    (hslack : m'.slack = m.slack) {tight : Bool}
    (hsame : ∀ a r', Agrees m tight (EStateM.run (f a) r') (EStateM.run (g a) (r'.followed m'))) :
    Agrees m tight (EStateM.run (x >>= f) r) (EStateM.run (y >>= g) r₂) := by
  generalize ho : EStateM.run x r = o at h
  generalize ho' : EStateM.run y r₂ = o' at h
  cases h with
  | same a r' =>
    rw [run_bind_ok ho, run_bind_ok ho']
    exact hsame a r'
  | failed r' r'' =>
    rw [run_bind_error ho, run_bind_error ho']
    exact .failed r' r''
  | spent _ hne => exact absurd hspaces hne
  | exceeded hpositive hexceeds =>
    obtain ⟨r', rfl, hrefusal⟩ := hexceeds
    exact .exceeded (hslack ▸ hpositive) ⟨r', run_bind_error ho, hrefusal⟩

/-! ## Pairs -/

/-- The two readings are paired where the text is `s` the first time and `s'` the second time. -/
structure PairedOn (t : Bool) (m : Margin) (n : Nat) (s s' : List Char) (x y : Reading α) : Prop where
  left : ∀ r : Reader, r.IsSettled → r.rest = s → Proceeds r (EStateM.run x r)
  right : ∀ r : Reader, r.IsSettled → r.rest = s' → Proceeds r (EStateM.run y r)
  agrees : ∀ r : Reader, m.Fits r → r.rest = s → s' = s ++ m.spaces → s.length < n →
    Agrees m t (EStateM.run x r) (EStateM.run y (r.followed m))

/-- The two readings come to the same as long as there is more than white space, the second one with the
margin `m` behind; `t` says that they do so even then, and `n` bounds the length of the text. -/
def Paired (t : Bool) (m : Margin) (n : Nat) (x y : Reading α) : Prop :=
  ∀ s e, IsMargin e → PairedOn t m n s (s ++ e) x y

/-- The reading comes to the same with a margin behind. -/
abbrev Steady (t : Bool) (m : Margin) (n : Nat) (x : Reading α) : Prop := Paired t m n x x

theorem Paired.left {x y : Reading α} (h : Paired t m n x y) {r : Reader} (hr : r.IsSettled) :
    Proceeds r (EStateM.run x r) := (h r.rest [] .nil).left r hr rfl

theorem Paired.right {x y : Reading α} (h : Paired t m n x y) {r : Reader} (hr : r.IsSettled) :
    Proceeds r (EStateM.run y r) := (h r.rest [] .nil).right r hr (List.append_nil _).symm

theorem Paired.agrees {x y : Reading α} (h : Paired t m n x y) {r : Reader} (hr : m.Fits r)
    (hn : r.rest.length < n) : Agrees m t (EStateM.run x r) (EStateM.run y (r.followed m)) :=
  (h r.rest m.spaces m.isMargin).agrees r hr rfl rfl hn

theorem PairedOn.of_paired {x y : Reading α} (h : Paired t m n x y) (he : IsMargin e) :
    PairedOn t m n s (s ++ e) x y := h s e he

/-- Where the text is given, its own length is a bound. -/
theorem PairedOn.of_length {x y : Reading α} (h : Paired t m (s.length + 1) x y) (he : IsMargin e) :
    PairedOn t m n s (s ++ e) x y :=
  ⟨(h s e he).left, (h s e he).right, fun r hr hs hs' _ => (h s e he).agrees r hr hs hs' (Nat.lt_succ_self _)⟩

theorem paired_of {x y : Reading α} (hx : ∀ r : Reader, r.IsSettled → Proceeds r (EStateM.run x r))
    (hy : ∀ r : Reader, r.IsSettled → Proceeds r (EStateM.run y r))
    (h : ∀ r : Reader, m.Fits r → r.rest.length < n →
      Agrees m t (EStateM.run x r) (EStateM.run y (r.followed m))) : Paired t m n x y :=
  fun _ _ _ => ⟨fun r hr _ => hx r hr, fun r hr _ => hy r hr, fun r hr hs _ hn => h r hr (hs ▸ hn)⟩

theorem paired_self {x : Reading α} (hx : ∀ r : Reader, r.IsSettled → Proceeds r (EStateM.run x r))
    (h : ∀ r : Reader, m.Fits r → r.rest.length < n →
      Agrees m t (EStateM.run x r) (EStateM.run x (r.followed m))) : Steady t m n x := paired_of hx hx h

theorem PairedOn.mono {s' : List Char} {x y : Reading α} (h : PairedOn t m n s s' x y) (hk : k ≤ n) :
    PairedOn t m k s s' x y :=
  ⟨h.left, h.right, fun r hr hs hs' hn => h.agrees r hr hs hs' (by omega)⟩

theorem Paired.mono {x y : Reading α} (h : Paired t m n x y) (hk : k ≤ n) : Paired t m k x y :=
  fun s e he => (h s e he).mono hk

theorem Paired.loosen {x y : Reading α} (h : Paired true m n x y) : Paired t m n x y :=
  fun s e he => ⟨(h s e he).left, (h s e he).right, fun r hr hs hs' hn =>
    ((h s e he).agrees r hr hs hs' hn).loosen⟩

/-- No text is shorter than the bound. -/
theorem paired_zero {x y : Reading α} (hx : ∀ r : Reader, r.IsSettled → Proceeds r (EStateM.run x r))
    (hy : ∀ r : Reader, r.IsSettled → Proceeds r (EStateM.run y r)) : Paired t m 0 x y :=
  paired_of hx hy fun _ _ hn => absurd hn (Nat.not_lt_zero _)

theorem PairedOn.bind {s' : List Char} {x y : Reading α} {f g : α → Reading β}
    (hx : PairedOn t m n s s' x y)
    (hk : ∀ r a r', m.Fits r → r.rest = s → EStateM.run x r = .ok a r' → s.length < n → r'.rest.length < k)
    (hf : ∀ a, Paired t m k (f a) (g a)) : PairedOn t m n s s' (x >>= f) (y >>= g) where
  left r hr hs := (hx.left r hr hs).bind fun a _ hr' _ => (hf a).left hr'
  right r hr hs := (hx.right r hr hs).bind fun a _ hr' _ => (hf a).right hr'
  agrees r hr hs hs' hn := by
    have hleft := hx.left r hr.settled hs
    have hright := hx.right (r.followed m) (hr.settled.followed m) (by rw [hs', ← hs]; rfl)
    refine (hx.agrees r hr hs hs' hn).bind hleft hright (fun a _ => (hf a).left) (fun a _ => (hf a).right) ?_
    intro a r' hrun
    obtain ⟨hsettled, -, hdepth⟩ := hleft a r' hrun
    exact (hf a).agrees (hr.of_depth hsettled hdepth) (hk r a r' hr hs hrun hn)

theorem PairedOn.andThen {s' : List Char} {x y : Reading α} {f g : α → Reading β}
    (hx : PairedOn t m n s s' x y) (hf : ∀ a, Paired t m n (f a) (g a)) :
    PairedOn t m n s s' (x >>= f) (y >>= g) := by
  refine hx.bind (fun r a r' hr hs hrun hn => ?_) hf
  have hshort := (hx.left r hr.settled hs a r' hrun).2.1.length_le
  rw [hs] at hshort
  omega

theorem Paired.bind {x y : Reading α} {f g : α → Reading β} (hx : Paired t m n x y)
    (hf : ∀ a, Paired t m n (f a) (g a)) : Paired t m n (x >>= f) (y >>= g) :=
  fun s e he => (hx s e he).andThen hf

/-- The reading takes at least one character where its result has the property. -/
def Shortens (P : α → Prop) (x : Reading α) : Prop :=
  ∀ r : Reader, r.IsSettled → ∀ a r', EStateM.run x r = .ok a r' → P a → r'.rest.length < r.rest.length

/-- What follows has to be paired for shorter texts only, where the first step takes a character. -/
theorem Paired.bind_shorter {P : α → Prop} {x y : Reading α} {f g : α → Reading β}
    (hx : Paired t m (n + 1) x y) (hshort : Shortens P x) (hf : ∀ a, P a → Paired t m n (f a) (g a))
    (hf' : ∀ a, ¬P a → Paired t m (n + 1) (f a) (g a)) : Paired t m (n + 1) (x >>= f) (y >>= g) := by
  have hboth : ∀ a, (∀ {r : Reader}, r.IsSettled → Proceeds r (EStateM.run (f a) r)) ∧
      (∀ {r : Reader}, r.IsSettled → Proceeds r (EStateM.run (g a) r)) := by
    intro a
    by_cases ha : P a
    · exact ⟨(hf a ha).left, (hf a ha).right⟩
    · exact ⟨(hf' a ha).left, (hf' a ha).right⟩
  refine paired_of (fun r hr => (hx.left hr).bind fun a _ hr' _ => (hboth a).1 hr')
    (fun r hr => (hx.right hr).bind fun a _ hr' _ => (hboth a).2 hr') fun r hr hn => ?_
  refine (hx.agrees hr hn).bind (hx.left hr.settled) (hx.right (hr.settled.followed m))
    (fun a _ => (hboth a).1) (fun a _ => (hboth a).2) fun a r' hrun => ?_
  obtain ⟨hsettled, hsuffix, hdepth⟩ := hx.left hr.settled a r' hrun
  have hfits := hr.of_depth hsettled hdepth
  by_cases ha : P a
  · exact (hf a ha).agrees hfits (by have := hshort r hr.settled a r' hrun ha; omega)
  · exact (hf' a ha).agrees hfits (by have := hsuffix.length_le; omega)

theorem paired_pure (a : α) : Steady t m n (pure a) :=
  paired_self (fun _ hr => .pure hr) fun r _ _ => .same a r

theorem Paired.ite {c : Prop} [Decidable c] {x x' y y' : Reading α} (hx : c → Paired t m n x y)
    (hx' : ¬c → Paired t m n x' y') : Paired t m n (if c then x else x') (if c then y else y') := by
  split
  · exact hx ‹_›
  · exact hx' ‹_›

/-- A step that is taken in one case, in front of what is done in both. -/
theorem Paired.guard {c : Prop} [Decidable c] {x y : Reading α} {x' y' : Reading β}
    (hx : c → Paired t m n x y) (hx' : Paired t m n x' y') :
    Paired t m n (if c then x >>= fun _ => x' else x') (if c then y >>= fun _ => y' else y') :=
  .ite (fun hc => (hx hc).bind fun _ => hx') fun _ => hx'

/-! ## The text and the reader -/

theorem pairedOn_congr {s' : List Char} {x x₀ y y₀ : Reading α} (h : PairedOn t m n s s' x y)
    (hx : ∀ r : Reader, r.IsSettled → r.rest = s → EStateM.run x₀ r = EStateM.run x r)
    (hy : ∀ r : Reader, r.IsSettled → r.rest = s' → EStateM.run y₀ r = EStateM.run y r) :
    PairedOn t m n s s' x₀ y₀ where
  left r hr hs := hx r hr hs ▸ h.left r hr hs
  right r hr hs := hy r hr hs ▸ h.right r hr hs
  agrees r hr hs hs' hn := by
    rw [hx r hr.settled hs, hy (r.followed m) (hr.settled.followed m) (by rw [hs', ← hs]; rfl)]
    exact h.agrees r hr hs hs' hn

theorem PairedOn.ite {s' : List Char} {c : Prop} [Decidable c] {x x' y y' : Reading α}
    (hx : c → PairedOn t m n s s' x y) (hx' : ¬c → PairedOn t m n s s' x' y') :
    PairedOn t m n s s' (if c then x else x') (if c then y else y') := by
  split
  · exact hx ‹_›
  · exact hx' ‹_›

/-- A step that depends on the text is paired text by text. Where only white space is left, nothing more has
to be compared unless the pairing is tight. -/
theorem paired_rest {f g : List Char → Reading α}
    (h : ∀ s e, IsMargin e → (t = false → IsMargin s → e = []) →
      PairedOn t m n s (s ++ e) (f s) (g (s ++ e))) :
    Paired t m n (rest >>= f) (rest >>= g) := by
  have hleft : ∀ r : Reader, r.IsSettled → Proceeds r (EStateM.run (f r.rest) r) := fun r hr =>
    (h r.rest [] .nil fun _ _ => rfl).left r hr rfl
  have hright : ∀ r : Reader, r.IsSettled → Proceeds r (EStateM.run (g r.rest) r) := fun r hr => by
    have := (h r.rest [] .nil fun _ _ => rfl).right r hr (List.append_nil _).symm
    rwa [List.append_nil] at this
  refine paired_of hleft hright fun r hr hn => ?_
  by_cases hspent : t = false ∧ IsMargin r.rest ∧ m.spaces ≠ []
  · obtain ⟨ht, hrest, hne⟩ := hspent
    have hrest' : IsMargin (r.followed m).rest := isMargin_append.mpr ⟨hrest, m.isMargin⟩
    exact .spent ht hne (.of_proceeds (hleft r hr.settled) hrest)
      (.of_proceeds (hright _ (hr.settled.followed m)) hrest')
  · refine (h r.rest m.spaces m.isMargin fun ht hrest => ?_).agrees r hr rfl rfl hn
    exact Classical.byContradiction fun hne => hspent ⟨ht, hrest, hne⟩

/-- Moving on to what follows. -/
theorem pairedOn_moveTo {u : List Char} {x y : Reading α} (he : IsMargin e) (hu : u <:+ s)
    (hk : s.length < n → u.length < k) (h : Paired t m k x y) :
    PairedOn t m n s (s ++ e) (moveTo u >>= fun _ => x) (moveTo (u ++ e) >>= fun _ => y) where
  left r hr hs := by
    have hmoved := h.left (hr.moved u)
    intro a r' hrun
    obtain ⟨hsettled, hsuffix, hdepth⟩ := hmoved a r' hrun
    exact ⟨hsettled, hsuffix.trans (hs ▸ hu), hdepth⟩
  right r hr hs := by
    have hmoved := h.right (hr.moved (u ++ e))
    intro a r' hrun
    obtain ⟨hsettled, hsuffix, hdepth⟩ := hmoved a r' hrun
    obtain ⟨p, rfl⟩ := hu
    exact ⟨hsettled, hsuffix.trans (hs ▸ by rw [List.append_assoc]; exact List.suffix_append _ _), hdepth⟩
  agrees r hr hs hs' hn := by
    obtain rfl := List.append_cancel_left hs'
    exact h.agrees (hr.of_depth (hr.settled.moved u) rfl) (hk hn)

/-- Moving on to what follows a character leaves a shorter text. -/
theorem pairedOn_moveTo_behind {c : Char} {u : List Char} {x y : Reading α} (he : IsMargin e) (hu : u <:+ s)
    (h : Paired t m n x y) :
    PairedOn t m (n + 1) (c :: s) (c :: (s ++ e)) (moveTo u >>= fun _ => x) (moveTo (u ++ e) >>= fun _ => y) :=
  pairedOn_moveTo he (hu.trans (List.suffix_cons c s))
    (fun hn => Nat.lt_of_le_of_lt hu.length_le (Nat.lt_of_succ_lt_succ hn)) h

/-- Skipping characters that are there. -/
theorem pairedOn_skip {j : Nat} {x y : Reading α} (he : IsMargin e) (hj : j ≤ s.length)
    (hk : s.length < n → (s.drop j).length < k) (h : Paired t m k x y) :
    PairedOn t m n s (s ++ e) (skip j >>= fun _ => x) (skip j >>= fun _ => y) := by
  refine pairedOn_congr (pairedOn_moveTo he (List.drop_suffix j s) hk h) (fun r _ hr => ?_) fun r _ hr => ?_
  · rw [run_bind_ok (run_skip j r), run_bind_ok (run_moveTo _ r), hr]
  · rw [run_bind_ok (run_skip j r), run_bind_ok (run_moveTo _ r), hr, List.drop_append_of_le_length hj]

/-- A step that depends on what the reader knows is paired for everything that it may know. -/
theorem paired_get {f g : Reader → Reading α}
    (h : ∀ (r : Reader) s size, Paired t m n (f r) (g { r with rest := s, size })) :
    Paired t m n (get >>= f) (get >>= g) :=
  paired_of (fun r hr => (h r r.rest r.size).left hr) (fun r hr => (h r r.rest r.size).right hr)
    fun r hr hn => (h r (r.rest ++ m.spaces) (r.size + m.bytes)).agrees hr hn

/-- What the reader knows does not depend on the margin. -/
theorem paired_get_known {f : Reader → Reading α}
    (hf : ∀ (r : Reader) s size, f { r with rest := s, size } = f r) (h : ∀ r, Steady t m n (f r)) :
    Steady t m n (get >>= f) :=
  paired_get fun r s size => by
    rw [hf r s size]
    exact h r

theorem pairedOn_get_known {s' : List Char} {f g : Reader → Reading α}
    (hg : ∀ (r : Reader) s size, g { r with rest := s, size } = g r)
    (h : ∀ r, PairedOn t m n s s' (f r) (g r)) :
    PairedOn t m n s s' (get >>= f) (get >>= g) where
  left r hr hs := (h r).left r hr hs
  right r hr hs := (h r).right r hr hs
  agrees r hr hs hs' hn := by
    have hsame : g (r.followed m) = g r := hg r _ _
    change Agrees m t (EStateM.run (f r) r) (EStateM.run (g (r.followed m)) (r.followed m))
    rw [hsame]
    exact (h r).agrees r hr hs hs' hn

theorem paired_modify {f : Reader → Reader} (hsettled : ∀ r : Reader, r.IsSettled → (f r).IsSettled)
    (hrest : ∀ r : Reader, (f r).rest = r.rest) (hdepth : ∀ r : Reader, (f r).depth = r.depth)
    (hf : ∀ r : Reader, f (r.followed m) = (f r).followed m) : Steady t m n (modify f) := by
  refine paired_self (fun r hr => ?_) fun r _ _ => ?_
  · rintro _ _ ⟨⟩
    exact ⟨hsettled r hr, hrest r ▸ List.suffix_refl _, hdepth r⟩
  · change Agrees m t (.ok () (f r)) (.ok () (f (r.followed m)))
    rw [hf]
    exact .same () (f r)

theorem paired_updateDeclarations (f : Declarations → Declarations) :
    Steady t m n (updateDeclarations f) :=
  paired_modify (fun _ h => ⟨h.damaged, h.cutOff, h.sound, h.depth⟩) (fun _ => rfl) (fun _ => rfl)
    fun _ => rfl

/-- A piece of the text is read for itself before the text goes on behind it. -/
theorem pairedOn_aside {u v : List Char} {x y : Reading α} (f : α → β) (hv : v <:+ s)
    (h : ∀ n, Paired false m.aside n x y) :
    PairedOn t m n s (s ++ e) (do moveTo u; let a ← x; moveTo v; return f a)
      (do moveTo u; let a ← y; moveTo (v ++ e); return f a) := by
  have hproceeds : ∀ {z : Reading α} {s v : List Char}, v <:+ s →
      (∀ {r : Reader}, r.IsSettled → Proceeds r (EStateM.run z r)) → ∀ r : Reader, r.IsSettled → r.rest = s →
      Proceeds r (EStateM.run (do moveTo u; let a ← z; moveTo v; return f a) r) := by
    intro z s v hv hz r hr hs
    rw [run_bind_ok (run_moveTo u r), run_bind]
    cases hrun : EStateM.run z (r.moved u) with
    | error => rintro _ _ ⟨⟩
    | ok a r' =>
      obtain ⟨hsettled, -, hdepth⟩ := hz (hr.moved u) a r' hrun
      rintro _ _ ⟨⟩
      exact ⟨hsettled.moved v, hs ▸ hv, hdepth⟩
  refine ⟨hproceeds hv (h 0).left, hproceeds ?_ (h 0).right, fun r hr _ hs' _ => ?_⟩
  · obtain ⟨p, rfl⟩ := hv
    exact ⟨p, (List.append_assoc _ _ _).symm⟩
  · obtain rfl := List.append_cancel_left hs'
    have hfits : m.aside.Fits (r.moved u) := ⟨hr.settled.moved u, fun _ => rfl, fun h => nomatch h⟩
    have hagrees := (h (u.length + 1)).agrees hfits (Nat.lt_succ_self _)
    have hmoved : (r.followed m).moved u = (r.moved u).followed m.aside := by
      simp [Reader.followed, Reader.moved, Margin.aside, Margin.inside]
    rw [run_bind_ok (run_moveTo u r), run_bind_ok (run_moveTo u (r.followed m)), hmoved]
    exact hagrees.bind_inside (m := m) rfl rfl fun a r' => .same (f a) (r'.moved v)

/-! ## Readings that repeat -/

/-- The fuel of two readings is the same, or enough for all texts below a length. -/
def IsEnough (n fuel fuel' : Nat) : Prop := fuel = fuel' ∨ n ≤ fuel ∧ n ≤ fuel'

theorem IsEnough.length {s s' : List Char} (h : s.length ≤ s'.length) :
    IsEnough (s.length + 1) (s.length + 1) (s'.length + 1) := .inr ⟨Nat.le_refl _, Nat.succ_le_succ h⟩

theorem paired_loop {f : Nat → β → Reading α} (hzero : ∀ n b, Steady t m n (f 0 b))
    (hstep : ∀ n fuel fuel', IsEnough n fuel fuel' → (∀ b, Paired t m n (f fuel b) (f fuel' b)) →
      ∀ b, Paired t m (n + 1) (f (fuel + 1) b) (f (fuel' + 1) b))
    {n fuel fuel' : Nat} (h : IsEnough n fuel fuel') (b : β) : Paired t m n (f fuel b) (f fuel' b) := by
  have hself : ∀ n fuel b, Steady t m n (f fuel b) := by
    intro n fuel
    induction fuel generalizing n with
    | zero => exact hzero n
    | succ fuel ih => exact fun b => (hstep n fuel fuel (.inl rfl) (ih n) b).mono (Nat.le_succ n)
  rcases h with rfl | ⟨hfuel, hfuel'⟩
  · exact hself n fuel b
  induction n generalizing fuel fuel' b with
  | zero => exact paired_zero (fun r hr => (hself 0 fuel b).left hr) fun r hr => (hself 0 fuel' b).left hr
  | succ n ih =>
    obtain ⟨fuel, rfl⟩ := Nat.exists_eq_add_of_le' (Nat.le_of_add_left_le hfuel : 1 ≤ fuel)
    obtain ⟨fuel', rfl⟩ := Nat.exists_eq_add_of_le' (Nat.le_of_add_left_le hfuel' : 1 ≤ fuel')
    exact hstep n fuel fuel' (.inr ⟨by omega, by omega⟩) (fun b => ih b (by omega) (by omega)) b

theorem paired_forM {f : β → Reading PUnit} (hf : ∀ b, Steady t m n (f b)) (bs : List β) :
    Steady t m n (bs.forM f) := by
  induction bs with
  | nil => exact paired_pure _
  | cons b more ih => exact (hf b).bind fun _ => ih

theorem paired_foldlM {γ : Type} {f : β → γ → Reading β} (hf : ∀ b c, Steady t m n (f b c))
    (cs : List γ) (b : β) : Steady t m n (cs.foldlM f b) := by
  induction cs generalizing b with
  | nil => exact paired_pure _
  | cons c more ih =>
    rw [List.foldlM_cons]
    exact (hf b c).bind ih

theorem paired_mapM {γ : Type} {f : β → Reading γ} (hf : ∀ b, Steady t m n (f b)) (bs : List β) :
    Steady t m n (bs.mapM f) := by
  induction bs with
  | nil => exact paired_pure _
  | cons b more ih =>
    rw [List.mapM_cons]
    exact (hf b).bind fun _ => ih.bind fun _ => paired_pure _

/-! ## Readings that need more than white space -/

/-- The reading fails where only white space is left. -/
def IsBlocked (x : Reading α) : Prop :=
  ∀ r : Reader, r.IsSettled → IsMargin r.rest → ∃ r', EStateM.run x r = .error () r'

/-- The readings come to the same wherever they end, since they fail where only white space is left. -/
structure Sealed (m : Margin) (n : Nat) (x y : Reading α) : Prop where
  paired : Paired true m n x y
  left : IsBlocked x
  right : IsBlocked y

theorem IsBlocked.bind_left {x : Reading α} {f : α → Reading β}
    (hx : ∀ r : Reader, r.IsSettled → Proceeds r (EStateM.run x r)) (hf : ∀ a, IsBlocked (f a)) :
    IsBlocked (x >>= f) := by
  intro r hr hrest
  cases hrun : EStateM.run x r with
  | error _ r' => exact ⟨r', run_bind_error hrun⟩
  | ok a r' =>
    obtain ⟨hsettled, hsuffix, -⟩ := hx r hr a r' hrun
    rw [run_bind_ok hrun]
    exact hf a r' hsettled (hrest.of_suffix hsuffix)

theorem IsBlocked.bind {x : Reading α} {f : α → Reading β} (hx : IsBlocked x) : IsBlocked (x >>= f) := by
  intro r hr hrest
  obtain ⟨r', hrun⟩ := hx r hr hrest
  exact ⟨r', run_bind_error hrun⟩

/-- Where only white space is left, what follows fails. -/
theorem IsSpent.fails {x : Reading α} {f : α → Reading β} {r : Reader} {o : Result α} (h : IsSpent o)
    (hrun : EStateM.run x r = o) (hx : Proceeds r (EStateM.run x r)) (hf : ∀ a, IsBlocked (f a)) :
    ∃ r', EStateM.run (x >>= f) r = .error () r' := by
  cases o with
  | error _ r' => exact ⟨r', run_bind_error hrun⟩
  | ok a r' =>
    rw [run_bind_ok hrun]
    exact hf a r' (hx a r' hrun).1 (h a r' rfl)

/-- What comes before may end with white space only, since what follows then fails. -/
theorem Paired.bind_sealed {x y : Reading α} {f g : α → Reading β} (hx : Paired false m n x y)
    (hf : ∀ a, Sealed m n (f a) (g a)) : Sealed m n (x >>= f) (y >>= g) where
  left := .bind_left (fun _ => hx.left) fun a => (hf a).left
  right := .bind_left (fun _ => hx.right) fun a => (hf a).right
  paired := by
    refine paired_of (fun r hr => (hx.left hr).bind fun a _ hr' _ => (hf a).paired.left hr')
      (fun r hr => (hx.right hr).bind fun a _ hr' _ => (hf a).paired.right hr') fun r hr hn => ?_
    have hagrees := hx.agrees hr hn
    have hleft := hx.left hr.settled
    have hright := hx.right (hr.settled.followed m)
    generalize ho : EStateM.run x r = o at hagrees
    generalize ho' : EStateM.run y (r.followed m) = o' at hagrees
    cases hagrees with
    | same a r' =>
      obtain ⟨hsettled, hsuffix, hdepth⟩ := hleft a r' ho
      rw [run_bind_ok ho, run_bind_ok ho']
      exact (hf a).paired.agrees (hr.of_depth hsettled hdepth) (by have := hsuffix.length_le; omega)
    | failed r' r'' =>
      rw [run_bind_error ho, run_bind_error ho']
      exact .failed r' r''
    | spent _ _ hspent hspent' =>
      obtain ⟨r', hr'⟩ := hspent.fails ho hleft fun a => (hf a).left
      obtain ⟨r'', hr''⟩ := hspent'.fails ho' hright fun a => (hf a).right
      rw [hr', hr'']
      exact .failed r' r''
    | exceeded hslack hexceeds =>
      obtain ⟨r', rfl, hrefusal⟩ := hexceeds
      exact .exceeded hslack ⟨r', run_bind_error ho, hrefusal⟩

theorem Sealed.bind {x y : Reading α} {f g : α → Reading β} (hx : Sealed m n x y)
    (hf : ∀ a, Paired true m n (f a) (g a)) : Sealed m n (x >>= f) (y >>= g) :=
  ⟨hx.paired.bind hf, hx.left.bind, hx.right.bind⟩

theorem Sealed.mono {x y : Reading α} (h : Sealed m n x y) (hk : k ≤ n) : Sealed m k x y :=
  ⟨h.paired.mono hk, h.left, h.right⟩

end Reading

end Storyboard.Markup
