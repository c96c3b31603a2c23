import Mathlib.Tactic.Common
import Mathlib.Tactic.IntervalCases
import Mathlib.Data.List.Basic

/-!
# Hexadecimal text

Bytes as text, two digits a byte with the high digit first. `encode` writes uppercase digits.
`decode` reads digits of either case, in pairs, and drops a last character that has no partner.

* `decode_encode_append`: decoding inverts encoding, whatever text follows.
* `encode_of_decode`: the decoded bytes encode to the uppercase form of the text they came from.
* `decode_isSome_iff`: text decodes iff every paired character is a digit.
-/

namespace Hex

/-! ## Digits -/

/-- The uppercase digit for `d < 16`. -/
def digit (d : ℕ) : Char := (Nat.digitChar d).toUpper

/-- The value of a digit of either case. -/
def value? (c : Char) : Option ℕ :=
  if '0' ≤ c ∧ c ≤ '9' then some (c.toNat - '0'.toNat)
  else if 'A' ≤ c ∧ c ≤ 'F' then some (c.toNat - 'A'.toNat + 10)
  else if 'a' ≤ c ∧ c ≤ 'f' then some (c.toNat - 'a'.toNat + 10)
  else none

/-- The value of a digit that was written. -/
theorem value?_digit {d : ℕ} (h : d < 16) : value? (digit d) = some d := by
  revert d
  decide

/-- A character is between two others iff its code point is. -/
private theorem le_and_le_iff (a b c : Char) :
    (a ≤ c ∧ c ≤ b) ↔ (a.toNat ≤ c.toNat ∧ c.toNat ≤ b.toNat) := Iff.rfl

/-- A character is the one of its code point. -/
private theorem eq_ofNat_of_toNat {c : Char} {n : ℕ} (h : c.toNat = n) : c = Char.ofNat n := by
  rw [← h, Char.ofNat_toNat]

/-- The digits of either case. -/
def digitsOfEitherCase : List Char := "0123456789ABCDEFabcdef".toList

/-- A character with a value is one of the 22 digits. -/
theorem mem_digits_of_value? {c : Char} {d : ℕ} (h : value? c = some d) :
    c ∈ digitsOfEitherCase := by
  -- the three ranges of code points are gone through one by one
  simp only [value?, le_and_le_iff] at h
  generalize hn : c.toNat = n at h
  obtain rfl := eq_ofNat_of_toNat hn
  clear hn
  split_ifs at h with h₁ h₂ h₃
  · obtain ⟨hlo : 48 ≤ n, hhi : n ≤ 57⟩ := h₁
    interval_cases n <;> decide
  · obtain ⟨hlo : 65 ≤ n, hhi : n ≤ 70⟩ := h₂
    interval_cases n <;> decide
  · obtain ⟨hlo : 97 ≤ n, hhi : n ≤ 102⟩ := h₃
    interval_cases n <;> decide

/-- A character with a value is, in uppercase, the digit of that value. -/
theorem digit_of_value? {c : Char} {d : ℕ} (h : value? c = some d) :
    d < 16 ∧ digit d = c.toUpper := by
  -- `List.all` runs through the 22 digits, the instance for `∀ c` through every character
  have hall : digitsOfEitherCase.all fun c => (value? c).all fun d =>
      d < 16 ∧ digit d = c.toUpper := by decide
  have hc := List.all_eq_true.mp hall c (mem_digits_of_value? h)
  rw [h] at hc
  exact of_decide_eq_true hc

/-- The characters with a value are the 22 digits. -/
theorem value?_isSome_iff {c : Char} : (value? c).isSome ↔ c ∈ digitsOfEitherCase := by
  constructor
  · intro h
    obtain ⟨d, hd⟩ := Option.isSome_iff_exists.mp h
    exact mem_digits_of_value? hd
  · intro h
    have hall : digitsOfEitherCase.all fun c => (value? c).isSome := by decide
    exact List.all_eq_true.mp hall c h

/-- A character whose uppercase form is a digit has its value. -/
theorem value?_of_toUpper_eq {c : Char} {d : ℕ} (hd : d < 16) (h : c.toUpper = digit d) :
    value? c = some d := by
  by_cases hlower : 'a' ≤ c ∧ c ≤ 'z'
  · -- one of 26 letters, of which six are digits
    rw [le_and_le_iff] at hlower
    generalize hn : c.toNat = n at hlower
    obtain rfl := eq_ofNat_of_toNat hn
    clear hn
    obtain ⟨hlo : 97 ≤ n, hhi : n ≤ 122⟩ := hlower
    have hletter : ∀ n < 123, 97 ≤ n → ∀ d < 16, (Char.ofNat n).toUpper = digit d →
        value? (Char.ofNat n) = some d := by decide +kernel
    exact hletter n (by omega) hlo d hd h
  · -- any other character is its own uppercase form
    have hsame : c.toUpper = c := dif_neg hlower
    rw [← hsame, h, value?_digit hd]

/-- The digits that `encode` writes. -/
def uppercaseDigits : List Char := "0123456789ABCDEF".toList

/-- The digits that are written are the uppercase ones. -/
theorem digit_mem_uppercaseDigits {d : ℕ} (h : d < 16) : digit d ∈ uppercaseDigits := by
  revert d
  decide

/-- Every uppercase digit has a value and is its own uppercase form. -/
theorem exists_value?_of_mem_uppercaseDigits {c : Char} (h : c ∈ uppercaseDigits) :
    (value? c).isSome ∧ c.toUpper = c := by
  have hall : uppercaseDigits.all fun c => (value? c).isSome ∧ c.toUpper = c := by decide
  exact of_decide_eq_true (List.all_eq_true.mp hall c h)

/-! ## Bytes -/

/-- The two digits of a byte. -/
def encodeByte (b : UInt8) : List Char := [digit (b.toNat / 16), digit (b.toNat % 16)]

/-- The digits of a byte sequence. -/
def encode (v : List UInt8) : List Char := v.flatMap encodeByte

/-- The bytes that text stands for, if every pair of characters is a pair of digits. A last
character without a partner is dropped. -/
def decode : List Char → Option (List UInt8)
  | a :: b :: rest => do
    let high ← value? a
    let low ← value? b
    let v ← decode rest
    return UInt8.ofNat (16 * high + low) :: v
  | _ => some []

/-- Nothing is written for no bytes. -/
@[simp]
theorem encode_nil : encode [] = [] := rfl

/-- A byte is written as two digits, the higher one first. -/
@[simp]
theorem encode_cons (b : UInt8) (v : List UInt8) :
    encode (b :: v) = digit (b.toNat / 16) :: digit (b.toNat % 16) :: encode v := rfl

/-- Texts of bytes are put together as the bytes are. -/
@[simp]
theorem encode_append (v w : List UInt8) : encode (v ++ w) = encode v ++ encode w :=
  List.flatMap_append

/-- Two digits a byte. -/
@[simp]
theorem length_encode (v : List UInt8) : (encode v).length = 2 * v.length := by
  induction v with
  | nil => rfl
  | cons b v ih =>
    rw [encode_cons, List.length_cons, List.length_cons, ih, List.length_cons]
    omega

/-- Only no bytes have an empty text. -/
@[simp]
theorem encode_eq_nil_iff {v : List UInt8} : encode v = [] ↔ v = [] := by
  rw [← List.length_eq_zero_iff, length_encode, ← List.length_eq_zero_iff]
  omega

/-- The empty text decodes to no bytes. -/
@[simp]
theorem decode_nil : decode [] = some [] := rfl

/-- A single character is dropped, whatever it is. -/
@[simp]
theorem decode_singleton (c : Char) : decode [c] = some [] := rfl

/-- Two characters that are digits give the first byte. -/
theorem decode_cons_cons (a b : Char) (rest : List Char) :
    decode (a :: b :: rest) = (value? a).bind fun high => (value? b).bind fun low =>
      (decode rest).map (UInt8.ofNat (16 * high + low) :: ·) := by
  rw [decode]
  cases value? a <;> cases value? b <;> cases decode rest <;> rfl

/-- Decoding inverts encoding: encoded bytes in front of any text decode to themselves. -/
theorem decode_encode_append (v : List UInt8) (t : List Char) :
    decode (encode v ++ t) = (decode t).map (v ++ ·) := by
  -- induction on the bytes: each one puts a pair of digits in front
  induction v with
  | nil => cases h : decode t <;> simp [h]
  | cons b v ih =>
    have hb := b.toNat_lt
    have hhigh : value? (digit (b.toNat / 16)) = some (b.toNat / 16) := value?_digit (by omega)
    have hlow : value? (digit (b.toNat % 16)) = some (b.toNat % 16) := value?_digit (by omega)
    have hbyte : UInt8.ofNat (16 * (b.toNat / 16) + b.toNat % 16) = b := by
      rw [Nat.div_add_mod, UInt8.ofNat_toNat]
    rw [encode_cons, List.cons_append, List.cons_append, decode_cons_cons, hhigh, hlow, ih]
    simp only [Option.bind_some, hbyte, Option.map_map, Function.comp_def, List.cons_append]

/-- Encoded bytes decode to themselves, also with one more character behind them. -/
theorem decode_encode_of_length_le_one {t : List Char} (v : List UInt8) (ht : t.length ≤ 1) :
    decode (encode v ++ t) = some v := by
  rw [decode_encode_append]
  match t, ht with
  | [], _ => simp
  -- the one character has no partner and is dropped
  | [_], _ => simp

/-- What is written decodes to what it was written for. -/
@[simp]
theorem decode_encode (v : List UInt8) : decode (encode v) = some v := by
  simpa using decode_encode_of_length_le_one (t := []) v (by simp)

/-- The text determines the bytes. -/
theorem encode_injective : Function.Injective encode := fun v w h => by
  have hd := congrArg decode h
  rwa [decode_encode, decode_encode, Option.some.injEq] at hd

/-- Text of an even number of characters is decoded apart from the text behind it. -/
theorem decode_append : ∀ {s : List Char} (t : List Char), 2 ∣ s.length →
    decode (s ++ t) = (decode s).bind fun v => (decode t).map (v ++ ·)
  | [], t, _ => by cases h : decode t <;> simp [h]
  | [_], _, h => by simp at h
  | a :: b :: rest, t, h => by
    have hrest : 2 ∣ rest.length := by
      rw [List.length_cons, List.length_cons] at h
      omega
    rw [List.cons_append, List.cons_append, decode_cons_cons, decode_cons_cons,
      decode_append t hrest]
    cases value? a <;> cases value? b <;> cases decode rest <;> cases decode t <;> rfl

/-- There is one byte for every two characters. -/
theorem length_of_decode : ∀ {s : List Char} {v : List UInt8}, decode s = some v →
    v.length = s.length / 2
  | [], v, h => by
    obtain rfl := Option.some.inj h
    rfl
  | [_], v, h => by
    obtain rfl := Option.some.inj h
    simp
  | a :: b :: rest, v, h => by
    rw [decode_cons_cons] at h
    simp only [Option.bind_eq_some_iff, Option.map_eq_some_iff] at h
    obtain ⟨_, _, _, _, w, hw, rfl⟩ := h
    rw [List.length_cons, length_of_decode hw, List.length_cons, List.length_cons]
    omega

/-- The decoded bytes encode to the uppercase form of the characters that have a partner. -/
theorem encode_of_decode : ∀ {s : List Char} {v : List UInt8}, decode s = some v →
    encode v = (s.take (2 * (s.length / 2))).map Char.toUpper
  | [], v, h => by
    obtain rfl := Option.some.inj h
    rfl
  | [_], v, h => by
    obtain rfl := Option.some.inj h
    simp
  | a :: b :: rest, v, h => by
    rw [decode_cons_cons] at h
    simp only [Option.bind_eq_some_iff, Option.map_eq_some_iff] at h
    obtain ⟨high, hhigh, low, hlow, w, hw, rfl⟩ := h
    obtain ⟨hhigh16, hdigitHigh⟩ := digit_of_value? hhigh
    obtain ⟨hlow16, hdigitLow⟩ := digit_of_value? hlow
    -- two values below 16 fit a byte and come back from it
    have hbyte : (UInt8.ofNat (16 * high + low)).toNat = 16 * high + low := by
      rw [UInt8.toNat_ofNat']
      omega
    have hlength : 2 * ((a :: b :: rest).length / 2) = 2 * (rest.length / 2) + 1 + 1 := by
      rw [List.length_cons, List.length_cons]
      omega
    rw [encode_cons, hbyte, show (16 * high + low) / 16 = high by omega,
      show (16 * high + low) % 16 = low by omega, hdigitHigh, hdigitLow, encode_of_decode hw,
      hlength, List.take_succ_cons, List.take_succ_cons, List.map_cons, List.map_cons]

/-- Text decodes iff every character that has a partner is a digit. -/
theorem decode_isSome_iff : ∀ (s : List Char), (decode s).isSome ↔
    ∀ c ∈ s.take (2 * (s.length / 2)), (value? c).isSome
  | [] => by simp
  | [_] => by simp
  | a :: b :: rest => by
    have hlength : 2 * ((a :: b :: rest).length / 2) = 2 * (rest.length / 2) + 1 + 1 := by
      rw [List.length_cons, List.length_cons]
      omega
    rw [hlength, List.take_succ_cons, List.take_succ_cons, List.forall_mem_cons,
      List.forall_mem_cons, ← decode_isSome_iff rest, decode_cons_cons]
    cases value? a <;> cases value? b <;> cases decode rest <;> simp

/-- Text does not decode iff a character that has a partner is no digit. -/
theorem decode_eq_none_iff {s : List Char} :
    decode s = none ↔ ∃ c ∈ s.take (2 * (s.length / 2)), c ∉ digitsOfEitherCase := by
  rw [← Option.not_isSome_iff_eq_none, decode_isSome_iff]
  simp only [value?_isSome_iff, not_forall, exists_prop]

/-- A character that others follow has a partner, so text in which it is no digit does not decode.
-/
theorem decode_append_cons_eq_none {s t : List Char} {c : Char} (hc : c ∉ digitsOfEitherCase)
    (ht : t ≠ []) : decode (s ++ c :: t) = none := by
  refine decode_eq_none_iff.mpr ⟨c, ?_, hc⟩
  have hlength : (s ++ c :: t).length = s.length + (t.length + 1) := by
    rw [List.length_append, List.length_cons]
  have hpos : 0 < t.length := List.length_pos_iff.mpr ht
  obtain ⟨k, hk⟩ : ∃ k, 2 * ((s ++ c :: t).length / 2) - s.length = k + 1 :=
    ⟨2 * ((s ++ c :: t).length / 2) - s.length - 1, by omega⟩
  rw [List.take_append, List.mem_append, hk, List.take_succ_cons]
  exact .inr List.mem_cons_self

/-- Behind text of an even number of characters, one more character has no partner. -/
theorem decode_append_of_length_le_one {s t : List Char} (hs : 2 ∣ s.length)
    (ht : t.length ≤ 1) : decode (s ++ t) = decode s := by
  rw [decode_append t hs]
  match t, ht with
  | [], _ | [_], _ => rcases decode s with _ | v <;> simp

/-- Texts decode to the same bytes iff the characters that have partners agree up to case. -/
theorem eq_iff_of_decode {s s' : List Char} {v v' : List UInt8} (h : decode s = some v)
    (h' : decode s' = some v') :
    v = v' ↔ (s.take (2 * (s.length / 2))).map Char.toUpper =
      (s'.take (2 * (s'.length / 2))).map Char.toUpper := by
  rw [← encode_of_decode h, ← encode_of_decode h', encode_injective.eq_iff]

/-! ## Cut text -/

/-- Cut text decodes to as many bytes as it has pairs left. A digit without its partner is
dropped. -/
theorem decode_take : ∀ {s : List Char} {v : List UInt8} (k : ℕ), decode s = some v →
    decode (s.take k) = some (v.take (k / 2))
  | [], v, k, h => by
    obtain rfl := Option.some.inj h
    simp
  | [c], v, k, h => by
    obtain rfl := Option.some.inj h
    rcases k with _ | k <;> simp
  | a :: b :: rest, v, 0, h => by simp
  | a :: b :: rest, v, 1, h => by simp
  | a :: b :: rest, v, k + 2, h => by
    rw [decode_cons_cons] at h
    simp only [Option.bind_eq_some_iff, Option.map_eq_some_iff] at h
    obtain ⟨high, hhigh, low, hlow, w, hw, rfl⟩ := h
    -- the cut falls behind the first pair
    have hhalf : (k + 2) / 2 = k / 2 + 1 := by omega
    rw [List.take_succ_cons, List.take_succ_cons, decode_cons_cons, hhigh, hlow,
      decode_take k hw, hhalf]
    rfl

/-! ## Uppercase text -/

/-- Only uppercase digits are written. -/
theorem mem_uppercaseDigits_of_mem_encode {v : List UInt8} {c : Char} (h : c ∈ encode v) :
    c ∈ uppercaseDigits := by
  obtain ⟨b, _, hc⟩ := List.mem_flatMap.mp h
  have hb := b.toNat_lt
  rcases List.mem_cons.mp hc with rfl | hc
  · exact digit_mem_uppercaseDigits (by omega)
  · rw [List.mem_singleton.mp hc]
    exact digit_mem_uppercaseDigits (by omega)

/-- Uppercase digits are their own uppercase form. -/
theorem map_toUpper_of_uppercaseDigits {s : List Char} (h : ∀ c ∈ s, c ∈ uppercaseDigits) :
    s.map Char.toUpper = s :=
  calc s.map Char.toUpper
      = s.map id := List.map_congr_left fun c hc =>
        (exists_value?_of_mem_uppercaseDigits (h c hc)).2
    _ = s := List.map_id s

/-- In upper case the text is the same. -/
theorem map_toUpper_encode (v : List UInt8) : (encode v).map Char.toUpper = encode v :=
  map_toUpper_of_uppercaseDigits fun _ => mem_uppercaseDigits_of_mem_encode

/-- Text of an even number of uppercase digits is the encoding of some bytes. -/
theorem exists_encode_eq {s : List Char} (heven : 2 ∣ s.length)
    (hdigits : ∀ c ∈ s, c ∈ uppercaseDigits) : ∃ v, encode v = s := by
  -- every character has a partner, so decoding loses none of them
  have htake : s.take (2 * (s.length / 2)) = s := by
    rw [Nat.mul_div_cancel' heven, List.take_length]
  have hsome : (decode s).isSome := by
    rw [decode_isSome_iff, htake]
    exact fun c hc => (exists_value?_of_mem_uppercaseDigits (hdigits c hc)).1
  obtain ⟨v, hv⟩ := Option.isSome_iff_exists.mp hsome
  refine ⟨v, ?_⟩
  rw [encode_of_decode hv, htake, map_toUpper_of_uppercaseDigits hdigits]

/-- Text whose uppercase form is an encoding decodes to the encoded bytes. -/
theorem decode_of_map_toUpper : ∀ {s : List Char} {v : List UInt8},
    s.map Char.toUpper = encode v → decode s = some v
  | s, [], h => by
    obtain rfl := List.map_eq_nil_iff.mp h
    rfl
  | s, b :: v, h => by
    rw [encode_cons] at h
    obtain ⟨x, s', rfl, hx, h⟩ := List.map_eq_cons_iff.mp h
    obtain ⟨y, rest, rfl, hy, hrest⟩ := List.map_eq_cons_iff.mp h
    have hb := b.toNat_lt
    have hbyte : UInt8.ofNat (16 * (b.toNat / 16) + b.toNat % 16) = b := by
      rw [Nat.div_add_mod, UInt8.ofNat_toNat]
    rw [decode_cons_cons, value?_of_toUpper_eq (by omega) hx, value?_of_toUpper_eq (by omega) hy,
      decode_of_map_toUpper hrest]
    simp only [Option.bind_some, Option.map_some, hbyte]

end Hex
