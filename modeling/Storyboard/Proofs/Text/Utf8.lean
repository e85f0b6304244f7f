import Storyboard.Markup.Encoding
import Storyboard.Text.Utf8
/-!
# Texts in UTF-8

A text in UTF-8 is decoded character by character to itself; the two characters that stand for other things
are taken for characters that may not occur. What the bytes of a text begin with tells its first character.

* `utf8Head_encode`: the first character and the bytes behind it.
* `ofUtf8Marked_encode`: the whole text.
-/
namespace Storyboard.Markup

open Storyboard.Text

/-- The bytes of characters. -/
def encode (s : List Char) : List UInt8 := s.flatMap String.utf8EncodeChar

theorem utf8_eq_encode (s : String) : utf8 s = encode s.toList := rfl

@[simp] theorem encode_nil : encode [] = [] := rfl

@[simp] theorem encode_cons (c : Char) (s : List Char) :
    encode (c :: s) = String.utf8EncodeChar c ++ encode s := List.flatMap_cons

theorem encode_append (s t : List Char) : encode (s ++ t) = encode s ++ encode t := List.flatMap_append

/-- A character as it is decoded. -/
def decodedAs (c : Char) : Char := if c.toNat = 0xFFFE ∨ c.toNat = 0xFFFF then illegalMark else c

/-! ## One character -/

theorem toNat_ofNat_lt {n : Nat} (h : n < 256) : (UInt8.ofNat n).toNat = n := by
  rw [UInt8.toNat_ofNat']
  omega

/-- A byte that goes on with a character adds six bits. -/
theorem goesOn_ofNat (n : Nat) : goesOn (UInt8.ofNat (n % 64 + 0x80)) = true ∧
    (UInt8.ofNat (n % 64 + 0x80)).toNat % 64 = n % 64 := by
  have htail : (UInt8.ofNat (n % 64 + 0x80)).toNat = n % 64 + 0x80 := toNat_ofNat_lt (by omega)
  refine ⟨?_, by omega⟩
  simp only [goesOn, Bool.and_eq_true, decide_eq_true_eq, UInt8.le_iff_toNat_le, UInt8.lt_iff_toNat_lt, htail]
  exact ⟨by change 128 ≤ _; omega, by change _ < 192; omega⟩

/-- A first byte with as many bytes behind it as it asks for. -/
theorem utf8Head_wide {lead : Nat} {c : Char} (tails rest : List UInt8) (hlow : 0xC2 ≤ lead)
    (hhigh : lead ≤ 0xF4)
    (hcount : tails.length = if lead < 0xE0 then 1 else if lead < 0xF0 then 2 else 3)
    (htails : ∀ t ∈ tails, goesOn t = true)
    (hn : tails.foldl (fun n b => n * 64 + b.toNat % 64) (lead % Nat.pow 2 (6 - tails.length)) = c.toNat)
    (hleast : (if tails.length = 1 then 0x80 else if tails.length = 2 then 0x800 else 0x10000) ≤ c.toNat) :
    utf8Head (UInt8.ofNat lead) (tails ++ rest) = (decodedAs c, rest) := by
  have hvalid : c.toNat.isValidChar := c.valid
  have hlead : (UInt8.ofNat lead).toNat = lead := toNat_ofNat_lt (by omega)
  have hshort : ¬UInt8.ofNat lead < 0x80 := by
    rw [UInt8.lt_iff_toNat_lt, hlead]
    change ¬lead < 128
    omega
  have hfirst : ¬(UInt8.ofNat lead < 0xC2 ∨ 0xF4 < UInt8.ofNat lead) := by
    rw [UInt8.lt_iff_toNat_lt, UInt8.lt_iff_toNat_lt, hlead]
    change ¬(lead < 194 ∨ 244 < lead)
    omega
  have hlength : (if UInt8.ofNat lead < 0xE0 then 1 else if UInt8.ofNat lead < 0xF0 then 2 else 3) =
      tails.length := by
    rw [hcount]
    simp only [UInt8.lt_iff_toNat_lt, hlead]
    rfl
  have htake : ((tails ++ rest).take tails.length).takeWhile goesOn = tails := by
    have hall : (tails ++ []).takeWhile goesOn = tails ++ [].takeWhile goesOn :=
      List.takeWhile_append_of_pos htails
    rw [List.take_left, ← List.append_nil tails, hall]
    rfl
  simp only [utf8Head, Bool.or_eq_true, decide_eq_true_eq, hlength, htake, hlead, hn]
  rw [if_neg hshort, if_neg hfirst, if_neg (Nat.lt_irrefl _), List.drop_left, decodedAs, Char.ofNat_toNat,
    if_neg (by simp [hvalid, Nat.not_lt.mpr hleast])]
  split <;> rfl

/-- A character of ASCII is one byte. -/
theorem utf8Head_ascii {c : Char} (hc : c.toNat < 0x80) (rest : List UInt8) :
    utf8Head (UInt8.ofNat c.toNat) rest = (decodedAs c, rest) := by
  have hb : (UInt8.ofNat c.toNat).toNat = c.toNat := toNat_ofNat_lt (by omega)
  have hshort : UInt8.ofNat c.toNat < 0x80 := by
    rw [UInt8.lt_iff_toNat_lt, hb]
    exact hc
  rw [utf8Head, if_pos hshort, hb, Char.ofNat_toNat, decodedAs, if_neg (by omega)]

/-- The bytes of a character by its size. -/
theorem utf8EncodeChar_eq (c : Char) : String.utf8EncodeChar c =
    if c.toNat ≤ 0x7f then [UInt8.ofNat c.toNat]
    else if c.toNat ≤ 0x7ff then
      [UInt8.ofNat (c.toNat / 64 % 0x20 + 0xc0), UInt8.ofNat (c.toNat % 64 + 0x80)]
    else if c.toNat ≤ 0xffff then
      [UInt8.ofNat (c.toNat / 4096 % 0x10 + 0xe0), UInt8.ofNat (c.toNat / 64 % 64 + 0x80),
        UInt8.ofNat (c.toNat % 64 + 0x80)]
    else
      [UInt8.ofNat (c.toNat / 262144 % 0x08 + 0xf0), UInt8.ofNat (c.toNat / 4096 % 64 + 0x80),
        UInt8.ofNat (c.toNat / 64 % 64 + 0x80), UInt8.ofNat (c.toNat % 64 + 0x80)] := rfl

theorem toNat_lt_max (c : Char) : c.toNat < 0x110000 := by
  rcases c.valid with h | h
  · exact Nat.lt_trans h (by decide)
  · exact h.2

theorem utf8Head_encode (c : Char) (rest : List UInt8) :
    ∃ b more, String.utf8EncodeChar c ++ rest = b :: more ∧ utf8Head b more = (decodedAs c, rest) := by
  have hmax := toNat_lt_max c
  obtain ⟨hgoes, hlast⟩ := goesOn_ofNat c.toNat
  obtain ⟨hgoes₁, hmiddle⟩ := goesOn_ofNat (c.toNat / 64)
  obtain ⟨hgoes₂, hupper⟩ := goesOn_ofNat (c.toNat / 4096)
  rw [utf8EncodeChar_eq]
  split
  · exact ⟨_, rest, rfl, utf8Head_ascii (by omega) rest⟩
  split
  · refine ⟨_, _, rfl, utf8Head_wide [_] rest (by omega) (by omega) ?_ ?_ ?_ ?_⟩
    · rw [if_pos (by omega)]
      rfl
    · exact List.forall_mem_singleton.mpr hgoes
    · change (_ % 32) * 64 + _ = _
      rw [hlast]
      omega
    · change 128 ≤ c.toNat
      omega
  split
  · refine ⟨_, _, rfl, utf8Head_wide [_, _] rest (by omega) (by omega) ?_ ?_ ?_ ?_⟩
    · rw [if_neg (by omega), if_pos (by omega)]
      rfl
    · exact List.forall_mem_cons.mpr ⟨hgoes₁, List.forall_mem_singleton.mpr hgoes⟩
    · change ((_ % 16) * 64 + _) * 64 + _ = _
      rw [hmiddle, hlast]
      omega
    · change 2048 ≤ c.toNat
      omega
  · refine ⟨_, _, rfl, utf8Head_wide [_, _, _] rest (by omega) (by omega) ?_ ?_ ?_ ?_⟩
    · rw [if_neg (by omega), if_neg (by omega)]
      rfl
    · exact List.forall_mem_cons.mpr ⟨hgoes₂, List.forall_mem_cons.mpr
        ⟨hgoes₁, List.forall_mem_singleton.mpr hgoes⟩⟩
    · change (((_ % 8) * 64 + _) * 64 + _) * 64 + _ = _
      rw [hupper, hmiddle, hlast]
      omega
    · change 65536 ≤ c.toNat
      omega

theorem encode_ascii {c : Char} (hc : c.toNat < 0x80) (s : List Char) :
    encode (c :: s) = UInt8.ofNat c.toNat :: encode s := by
  rw [encode_cons, utf8EncodeChar_eq, if_pos (by omega)]
  rfl

/-- The first of several bytes is none of ASCII, nor one that goes on with a character. -/
theorem encode_wide {c : Char} (hc : 0x80 ≤ c.toNat) (s : List Char) : ∃ b more, encode (c :: s) = b :: more ∧
    0xC2 ≤ b.toNat ∧ b.toNat ≤ 0xF4 := by
  have hmax := toNat_lt_max c
  rw [encode_cons, utf8EncodeChar_eq, if_neg (by omega)]
  split
  · refine ⟨_, _, rfl, ?_⟩
    rw [toNat_ofNat_lt (by omega)]
    omega
  split
  · refine ⟨_, _, rfl, ?_⟩
    rw [toNat_ofNat_lt (by omega)]
    omega
  · refine ⟨_, _, rfl, ?_⟩
    rw [toNat_ofNat_lt (by omega)]
    omega

/-- The first byte of a text is the first of several, or the whole of its first character. -/
theorem encode_eq_cons {s : List Char} {b : UInt8} {more : List UInt8} (h : encode s = b :: more) :
    0xC2 ≤ b.toNat ∧ b.toNat ≤ 0xF4 ∨
      ∃ c t, s = c :: t ∧ c.toNat < 0x80 ∧ b.toNat = c.toNat ∧ more = encode t := by
  cases s with
  | nil => cases h
  | cons c s =>
    by_cases hc : c.toNat < 0x80
    · rw [encode_ascii hc] at h
      obtain ⟨rfl, rfl⟩ := List.cons_eq_cons.mp h
      exact .inr ⟨c, s, rfl, hc, toNat_ofNat_lt (by omega), rfl⟩
    · obtain ⟨b', more', hbytes, hrange⟩ := encode_wide (by omega : 0x80 ≤ c.toNat) s
      rw [hbytes] at h
      obtain ⟨rfl, -⟩ := List.cons_eq_cons.mp h
      exact .inl hrange

/-- A byte of ASCII is the whole of its character. -/
theorem encode_eq_cons_ascii {s : List Char} {a : Char} {b : UInt8} {more : List UInt8} (ha : a.toNat < 0x80)
    (hb : b.toNat = a.toNat) (h : encode s = b :: more) : ∃ t, s = a :: t ∧ more = encode t := by
  obtain ⟨hwide, -⟩ | ⟨c, t, rfl, -, hc, rfl⟩ := encode_eq_cons h
  · omega
  · have hsame : c = a := Char.toNat_inj.mp (hc.symm.trans hb)
    exact ⟨t, hsame ▸ rfl, rfl⟩

/-! ## Texts -/

theorem utf8Characters_encode (s acc : List Char) {fuel : Nat} (hfuel : (encode s).length ≤ fuel) :
    utf8Characters fuel acc (encode s) = acc.reverse ++ s.map decodedAs := by
  induction s generalizing acc fuel with
  | nil => cases fuel <;> simp [utf8Characters]
  | cons c rest ih =>
    obtain ⟨b, more, hencode, hhead⟩ := utf8Head_encode c (encode rest)
    have hshorter : (encode rest).length < (encode (c :: rest)).length := by
      have := Char.utf8Size_pos c
      simp only [encode_cons, List.length_append, String.length_utf8EncodeChar]
      omega
    cases fuel with
    | zero => omega
    | succ fuel =>
      rw [encode_cons, hencode]
      simp only [utf8Characters, hhead]
      rw [ih (decodedAs c :: acc) (by omega)]
      simp

theorem ofUtf8Marked_encode (s : List Char) : ofUtf8Marked (encode s) = s.map decodedAs := by
  rw [ofUtf8Marked, utf8Characters_encode s [] (Nat.le_refl _), List.reverse_nil, List.nil_append]

end Storyboard.Markup
