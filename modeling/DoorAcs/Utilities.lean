import DoorAcs.Basic
import DoorAcs.Cpp.StringStream

/-!
# Utilities

The hex decoder and the hex encoder of `Utilities.cpp`, and their description by the codec of
`Codec.Hex`: the index loop over character pairs is `Hex.decode` (`hexStringToBytes_eq`), the
stream loop over bytes is `Hex.encode` (`vectorToStringCompact_eq`). The readable form has the same
digits (`filter_vectorToString`).
-/

namespace DoorAcs

open Cpp

/-- What `ASCIICharToHex` throws on a character that is no digit. -/
def invalidAsciiChar : Exception := .invalidArgument "[ASCIIChartToHex] invalid ASCII char"

/-- `Utilities::ASCIICharToHex` -/
def asciiCharToHex (asciiChar : Char) : Except (Failure Exception) ℕ :=
  match asciiChar with
  | '0' => .ok 0
  | '1' => .ok 1
  | '2' => .ok 2
  | '3' => .ok 3
  | '4' => .ok 4
  | '5' => .ok 5
  | '6' => .ok 6
  | '7' => .ok 7
  | '8' => .ok 8
  | '9' => .ok 9
  | 'A' => .ok 0xA
  | 'B' => .ok 0xB
  | 'C' => .ok 0xC
  | 'D' => .ok 0xD
  | 'E' => .ok 0xE
  | 'F' => .ok 0xF
  | 'a' => .ok 0xa
  | 'b' => .ok 0xb
  | 'c' => .ok 0xc
  | 'd' => .ok 0xd
  | 'e' => .ok 0xe
  | 'f' => .ok 0xf
  | _ => .error (.exception invalidAsciiChar)

/-- The byte of two digits: `(ASCIICharToHex(high) << 4) | ASCIICharToHex(low)`. -/
def byteOfDigits (high low : Char) : Except (Failure Exception) BYTE := do
  return UInt8.ofNat ((← asciiCharToHex high) <<< 4 ||| (← asciiCharToHex low))

/-- `Utilities::HexStringToBytes` -/
def hexStringToBytes (byteString : Str) : Except (Failure Exception) (List BYTE) :=
  (List.range (byteString.length / 2)).mapM fun i => do
    byteOfDigits (← elementAt byteString (2 * i)) (← elementAt byteString (2 * i + 1))

/-- `Utilities::VectorToString` -/
def vectorToString (vector : List BYTE) : Str :=
  let stream : StringStream :=
    StringStream.uppercase (StringStream.hex (.setfill '0' (StringStream.putChar '[' {})))
  let stream := vector.zipIdx.foldl
    (fun stream (b, i) =>
      let stream := (stream.setw 2).putNat b.toNat
      if i < vector.length - 1 then (stream.setw 1).putChar ' ' else stream) stream
  (stream.putChar ']').str

/-- `Utilities::VectorToStringCompact` -/
def vectorToStringCompact (vector : List BYTE) : Str :=
  let stream : StringStream := StringStream.uppercase (StringStream.hex (.setfill '0' {}))
  (vector.foldl (fun stream b => (stream.setw 2).putNat b.toNat) stream).str

/-! ## The decoder -/

/-- The 22 cases of the table are the digits of either case. -/
theorem asciiCharToHex_eq (c : Char) :
    asciiCharToHex c = match Hex.value? c with
      | some d => .ok d
      | none => .error (.exception invalidAsciiChar) := by
  have htable : Hex.digitsOfEitherCase.all fun c => (Hex.value? c).all fun d =>
      asciiCharToHex c = .ok d := by decide
  cases h : Hex.value? c with
  | some d =>
    have hc := List.all_eq_true.mp htable c (Hex.mem_digits_of_value? h)
    rw [h] at hc
    exact of_decide_eq_true hc
  | none =>
    -- a character of the table has a value, so this is the default case of the switch
    unfold asciiCharToHex
    split <;> first | rfl | cases h

/-- Two digit values make the byte with these two halves. -/
theorem shiftLeft_or_of_lt {high low : ℕ} (hlow : low < 16) :
    high <<< 4 ||| low = 16 * high + low := by
  rw [← Nat.shiftLeft_add_eq_or_of_lt hlow, Nat.shiftLeft_eq]
  omega

theorem byteOfDigits_eq (a b : Char) :
    byteOfDigits a b = match Hex.value? a, Hex.value? b with
      | some high, some low => .ok (UInt8.ofNat (16 * high + low))
      | _, _ => .error (.exception invalidAsciiChar) := by
  rw [byteOfDigits, asciiCharToHex_eq, asciiCharToHex_eq]
  cases Hex.value? a with
  | none => rfl
  | some high =>
    cases hb : Hex.value? b with
    | none => rfl
    | some low =>
      show Except.ok (UInt8.ofNat (high <<< 4 ||| low)) = Except.ok (UInt8.ofNat (16 * high + low))
      rw [shiftLeft_or_of_lt (Hex.digit_of_value? hb).1]

/-- The first round of the loop reads the first two characters, the others the rest. -/
theorem hexStringToBytes_cons_cons (a b : Char) (rest : Str) :
    hexStringToBytes (a :: b :: rest) =
      (byteOfDigits a b).bind fun byte => (hexStringToBytes rest).map (byte :: ·) := by
  have hlength : (a :: b :: rest).length / 2 = rest.length / 2 + 1 := by
    rw [List.length_cons, List.length_cons]
    omega
  -- the indices behind the first are those of the rest, shifted by one
  rw [hexStringToBytes, hlength, List.range_succ_eq_map, List.mapM_cons, List.mapM_map]
  rfl

/-- The index loop decodes: it returns the bytes if every pair of characters is a pair of digits
and throws on the first character that is none. -/
theorem hexStringToBytes_eq : ∀ s : Str,
    hexStringToBytes s = match Hex.decode s with
      | some v => .ok v
      | none => .error (.exception invalidAsciiChar)
  | [] => rfl
  | [_] => by simp [hexStringToBytes, pure, Except.pure]
  | a :: b :: rest => by
    rw [hexStringToBytes_cons_cons, byteOfDigits_eq, hexStringToBytes_eq rest,
      Hex.decode_cons_cons]
    cases Hex.value? a <;> cases Hex.value? b <;> cases Hex.decode rest <;> rfl

theorem hexStringToBytes_eq_ok_iff {s : Str} {v : List BYTE} :
    hexStringToBytes s = .ok v ↔ Hex.decode s = some v := by
  rw [hexStringToBytes_eq]
  rcases Hex.decode s with _ | w <;> simp

theorem hexStringToBytes_of_decode {s : Str} {v : List BYTE} (h : Hex.decode s = some v) :
    hexStringToBytes s = .ok v :=
  hexStringToBytes_eq_ok_iff.mpr h

/-! ## The encoder -/

/-- The stream loop encodes. -/
@[simp]
theorem vectorToStringCompact_eq (v : List BYTE) : vectorToStringCompact v = Hex.encode v := by
  have hloop (buffer : Str) : v.foldl (fun stream b => (stream.setw 2).putNat b.toNat)
      (StringStream.inHex buffer) = StringStream.inHex (buffer ++ Hex.encode v) := by
    -- the loop appends to whatever the stream holds already
    induction v generalizing buffer with
    | nil => simp
    | cons b v ih =>
      rw [List.foldl_cons, StringStream.setw_putNat_toNat_inHex, ih, List.append_assoc]
      rfl
  exact congrArg StringStream.str (hloop [])

/-- The other stream loop writes the same digits, with a space between two bytes. -/
theorem vectorToString_eq (v : List BYTE) :
    vectorToString v = '[' :: [' '].intercalate (v.map Hex.encodeByte) ++ [']'] := by
  have hloop (w : List BYTE) (k : ℕ) (buffer : Str) (hk : k + w.length = v.length) :
      (w.zipIdx k).foldl
        (fun stream (b, i) =>
          let stream := (StringStream.setw 2 stream).putNat b.toNat
          if i < v.length - 1 then (stream.setw 1).putChar ' ' else stream)
        (StringStream.inHex buffer) =
          StringStream.inHex (buffer ++ [' '].intercalate (w.map Hex.encodeByte)) := by
    induction w generalizing k buffer with
    | nil => simp
    | cons b w ih =>
      rw [List.length_cons] at hk
      rw [List.zipIdx_cons, List.foldl_cons]
      dsimp only
      rw [StringStream.setw_putNat_toNat_inHex]
      cases w with
      | nil =>
        -- no space behind the last byte
        rw [if_neg (by simp only [List.length_nil] at hk; omega)]
        simp
      | cons b' w =>
        rw [if_pos (by rw [List.length_cons] at hk; omega), StringStream.setw_one_putChar_inHex,
          ih _ _ (by omega)]
        simp [List.intercalate]
  have hstream : StringStream.uppercase
      (StringStream.hex (.setfill '0' (StringStream.putChar '[' {}))) = StringStream.inHex ['['] :=
    rfl
  rw [vectorToString, hstream]
  dsimp only
  rw [hloop v 0 ['['] (Nat.zero_add _), StringStream.putChar_inHex]
  rfl

/-- The digits of the readable form are the compact form. -/
theorem filter_vectorToString (v : List BYTE) :
    (vectorToString v).filter (· ∈ Hex.uppercaseDigits) = vectorToStringCompact v := by
  have hbyte (b : BYTE) :
      (Hex.encodeByte b).filter (· ∈ Hex.uppercaseDigits) = Hex.encodeByte b := by
    refine List.filter_eq_self.mpr fun c hc => decide_eq_true ?_
    refine Hex.mem_uppercaseDigits_of_mem_encode (v := [b]) ?_
    rwa [Hex.encode, List.flatMap_singleton]
  have hbody : ([' '].intercalate (v.map Hex.encodeByte)).filter (· ∈ Hex.uppercaseDigits) =
      Hex.encode v := by
    induction v with
    | nil => rfl
    | cons b v ih =>
      have hspace : [' '].filter (· ∈ Hex.uppercaseDigits) = [] := by decide
      cases v with
      | nil => simp [List.intercalate, Hex.encode, hbyte]
      | cons b' v =>
        have hcons : [' '].intercalate ((b :: b' :: v).map Hex.encodeByte) =
            Hex.encodeByte b ++ ([' '] ++ [' '].intercalate ((b' :: v).map Hex.encodeByte)) := by
          simp [List.intercalate]
        rw [hcons, List.filter_append, List.filter_append, hbyte, hspace, ih]
        rfl
  have hopen : ['['].filter (· ∈ Hex.uppercaseDigits) = [] := by decide
  have hclose : [']'].filter (· ∈ Hex.uppercaseDigits) = [] := by decide
  rw [vectorToString_eq, ← List.singleton_append, List.filter_append, List.filter_append, hopen,
    hbody, hclose, vectorToStringCompact_eq, List.nil_append, List.append_nil]

/-! ## The two together -/

/-- Encoder and decoder are inverse to each other. Encoded bytes are two uppercase digits each and
decode to themselves, also with one more character behind them; an even number of digits of either
case encodes, once decoded, to its uppercase form. So texts decode to the same bytes iff they have
the same number of pairs and the pairs agree up to case. -/
theorem hexStringToBytes_vectorToStringCompact :
    (∀ v : List BYTE, (vectorToStringCompact v).length = 2 * v.length ∧
      (∀ c ∈ vectorToStringCompact v, c ∈ Hex.uppercaseDigits) ∧
      ∀ t : Str, t.length ≤ 1 → hexStringToBytes (vectorToStringCompact v ++ t) = .ok v) ∧
    (∀ s : Str, Even s.length → (∀ c ∈ s, c ∈ Hex.digitsOfEitherCase) →
      ∃ v, hexStringToBytes s = .ok v ∧ vectorToStringCompact v = s.map Char.toUpper) ∧
    ∀ (s s' : Str) (v v' : List BYTE), hexStringToBytes s = .ok v → hexStringToBytes s' = .ok v' →
      (v = v' ↔ s.length / 2 = s'.length / 2 ∧
        (s.take (2 * (s.length / 2))).map Char.toUpper =
          (s'.take (2 * (s'.length / 2))).map Char.toUpper) := by
  refine ⟨fun v => ⟨?_, ?_, fun t ht => ?_⟩, fun s heven hdigits => ?_, fun s s' v v' h h' => ?_⟩
  · rw [vectorToStringCompact_eq, Hex.length_encode]
  · intro c hc
    rw [vectorToStringCompact_eq] at hc
    exact Hex.mem_uppercaseDigits_of_mem_encode hc
  · rw [vectorToStringCompact_eq]
    exact hexStringToBytes_of_decode (Hex.decode_encode_of_length_le_one v ht)
  · have htake : s.take (2 * (s.length / 2)) = s := by
      rw [Nat.two_mul_div_two_of_even heven, List.take_length]
    have hsome : (Hex.decode s).isSome := by
      rw [Hex.decode_isSome_iff, htake]
      exact fun c hc => Hex.value?_isSome_iff.mpr (hdigits c hc)
    obtain ⟨v, hv⟩ := Option.isSome_iff_exists.mp hsome
    refine ⟨v, hexStringToBytes_of_decode hv, ?_⟩
    rw [vectorToStringCompact_eq, Hex.encode_of_decode hv, htake]
  · rw [hexStringToBytes_eq_ok_iff] at h h'
    rw [Hex.eq_iff_of_decode h h']
    -- texts whose pairs agree have the same number of them
    refine ⟨fun hpairs => ⟨?_, hpairs⟩, And.right⟩
    have hlength := congrArg List.length hpairs
    rw [List.length_map, List.length_map, List.length_take, List.length_take] at hlength
    omega

/-- The decoder reads no character outside the text and throws `invalid_argument` iff one of the
paired characters is no digit. So text is rejected that has a character that is no digit anywhere
but at its end, and with it the end of a reply in front of any part of another one. -/
theorem hexStringToBytes_rejects (s : Str) :
    hexStringToBytes s ≠ .error .fault ∧
    ((∃ what, hexStringToBytes s = .error (.exception (.invalidArgument what))) ↔
      ∃ c ∈ s.take (2 * (s.length / 2)), c ∉ Hex.digitsOfEitherCase) ∧
    (∀ (before : Str) (c : Char) (after : Str), s = before ++ c :: after →
      c ∉ Hex.digitsOfEitherCase → after ≠ [] →
      ∃ what, hexStringToBytes s = .error (.exception (.invalidArgument what))) ∧
    ∀ reply part : Str, part ≠ [] → s = reply ++ [packetCarriegeReturn] ++ part →
      ∀ v, hexStringToBytes s ≠ .ok v := by
  have hrejects : (∃ what, hexStringToBytes s = .error (.exception (.invalidArgument what))) ↔
      ∃ c ∈ s.take (2 * (s.length / 2)), c ∉ Hex.digitsOfEitherCase := by
    rw [← Hex.decode_eq_none_iff, hexStringToBytes_eq]
    rcases Hex.decode s with _ | v <;> simp [invalidAsciiChar]
  have hinside (before : Str) (c : Char) (after : Str) (hs : s = before ++ c :: after)
      (hc : c ∉ Hex.digitsOfEitherCase) (hafter : after ≠ []) :
      ∃ what, hexStringToBytes s = .error (.exception (.invalidArgument what)) := by
    -- only the last character can be without a partner, and `c` is not the last
    rw [hrejects, ← Hex.decode_eq_none_iff, hs]
    exact Hex.decode_append_cons_eq_none hc hafter
  refine ⟨?_, hrejects, hinside, fun reply part hpart hs v hv => ?_⟩
  · rw [hexStringToBytes_eq]
    rcases Hex.decode s with _ | v <;> simp
  · rw [List.append_assoc] at hs
    obtain ⟨what, herror⟩ := hinside reply packetCarriegeReturn part hs (by decide) hpart
    rw [herror] at hv
    cases hv

end DoorAcs
