import DoorAcs.Codec.Framing
import DoorAcs.Packet

/-!
# Request frames

The frames the three packet classes send, and the stream that a sequence of them makes. Each
frame is the hex text of its bytes followed by a carriage return (`Request.getData_eq`). A stream
of frames has one reading: cutting it behind each carriage return gives the frames back, and the
bytes of a frame give back its packet class and parameters (`Request.stream_determines`).

`SelectFileAPDUCommand.lengthsAgree_iff` is about the three byte-wide lengths of an APDU on its
way into a frame.
-/

namespace DoorAcs

open Cpp

/-! ## Frames as bytes -/

/-- The bytes of a tag type, the low one first. -/
def TagType.littleEndian (t : TagType) : List BYTE :=
  [t.value.toUInt8, (t.value >>> 8).toUInt8, (t.value >>> 16).toUInt8, (t.value >>> 24).toUInt8]

/-- Masking a byte of a word and shifting it down extracts that byte. -/
theorem toNat_and_shiftRight (v mask : UInt32) {k : UInt32} (hk : k.toNat < 32)
    (hmask : mask.toNat >>> k.toNat = 0xFF) :
    ((v &&& mask) >>> k).toNat = (v >>> k).toUInt8.toNat := by
  rw [UInt32.toNat_shiftRight, UInt32.toNat_and, Nat.mod_eq_of_lt hk, Nat.shiftRight_and_distrib,
    hmask, UInt32.toNat_toUInt8, UInt32.toNat_shiftRight, Nat.mod_eq_of_lt hk]
  exact Nat.and_two_pow_sub_one_eq_mod _ 8

/-- The four bytes of a set of tag types determine it. -/
theorem TagType.littleEndian_injective : Function.Injective TagType.littleEndian := by
  rintro ⟨v⟩ ⟨w⟩ h
  simp only [TagType.littleEndian, List.cons.injEq, and_true, ← UInt8.toNat_inj,
    UInt32.toNat_toUInt8, UInt32.toNat_shiftRight, Nat.shiftRight_eq_div_pow] at h
  -- the four bytes are the digits of the word to the base 256
  obtain ⟨h0, h1, h2, h3⟩ := h
  have hv := v.toNat_lt
  have hw := w.toNat_lt
  have heq : v.toNat = w.toNat := by
    simp at h0 h1 h2 h3
    omega
  rw [UInt32.toNat_inj.mp heq]

namespace SearchTagPacket

/-- The frame of a search: the command and the limit for the id. -/
theorem getData_new (maxIdBytes : BYTE) :
    (new maxIdBytes).getData = Hex.encode [0x05, 0x00, maxIdBytes] ++ [packetCarriegeReturn] := by
  simp only [getData, new, StringStream.uppercase_setfill_hex_putString,
    StringStream.toNat_and_mask, StringStream.setw_putNat_toNat_inHex,
    StringStream.putChar_inHex, StringStream.str_inHex]
  rfl

end SearchTagPacket

namespace SetTagTypesPacket

/-- The frame that selects tag types: the command and the two sets, least byte first. -/
theorem getData_new (lf hf : TagType) :
    (new lf hf).getData = Hex.encode ([0x05, 0x02] ++ lf.littleEndian ++ hf.littleEndian) ++
      [packetCarriegeReturn] := by
  have hlow (v : UInt32) : (v &&& 0xFF).toNat = v.toUInt8.toNat := by
    simpa using toNat_and_shiftRight v 0xFF (k := 0) (by decide) (by decide)
  simp only [getData, new, StringStream.uppercase_setfill_hex_putString, hlow,
    toNat_and_shiftRight _ 0xFF00 (k := 8) (by decide) (by decide),
    toNat_and_shiftRight _ 0xFF0000 (k := 16) (by decide) (by decide),
    toNat_and_shiftRight _ 0xFF000000 (k := 24) (by decide) (by decide),
    StringStream.setw_putNat_toNat_inHex, StringStream.putChar_inHex, StringStream.str_inHex]
  rfl

end SetTagTypesPacket

namespace ISO14443_4_TDX_Packet

/-- The frame of an exchange with the card: the payload stands in it as it is, not encoded again. -/
theorem getData_new (payloadSize : BYTE) (payload : Str) (maximumResponseSize : BYTE) :
    (new payloadSize payload maximumResponseSize).getData =
      Hex.encode [0x12, 0x03, payloadSize] ++ payload ++ Hex.encode [maximumResponseSize] ++
        [packetCarriegeReturn] := by
  simp only [getData, new, StringStream.uppercase_setfill_hex_putString,
    StringStream.toNat_and_mask, StringStream.setw_putNat_toNat_inHex,
    StringStream.putString_inHex, StringStream.putChar_inHex, StringStream.str_inHex]
  rfl

end ISO14443_4_TDX_Packet

/-! ## Requests -/

/-- A payload of `n` bytes: exactly `2 * n` uppercase hex digits. -/
structure HexPayload (n : BYTE) where
  text : Str
  length_eq : text.length = 2 * n.toNat
  digits : ∀ c ∈ text, c ∈ Hex.uppercaseDigits

namespace HexPayload

variable {n : BYTE}

/-- The bytes of a payload. -/
def bytes (payload : HexPayload n) : List BYTE := (Hex.decode payload.text).getD []

/-- A payload is the text of its bytes. -/
theorem encode_bytes (payload : HexPayload n) : Hex.encode payload.bytes = payload.text := by
  obtain ⟨v, hv⟩ := Hex.exists_encode_eq (Dvd.intro _ payload.length_eq.symm) payload.digits
  rw [bytes, ← hv, Hex.decode_encode, Option.getD_some]

/-- A payload has as many bytes as its size says. -/
theorem length_bytes (payload : HexPayload n) : payload.bytes.length = n.toNat := by
  have hlength := payload.length_eq
  rw [← payload.encode_bytes, Hex.length_encode] at hlength
  omega

/-- Payloads with the same bytes are the same. -/
theorem ext_bytes {payload payload' : HexPayload n} (h : payload.bytes = payload'.bytes) :
    payload = payload' := by
  have htext : payload.text = payload'.text := by
    rw [← payload.encode_bytes, h, payload'.encode_bytes]
  cases payload
  cases payload'
  cases htext
  rfl

end HexPayload

/-- A request packet with its parameters. -/
inductive Request where
  | searchTag (maxIdBytes : BYTE)
  | setTagTypes (lf hf : TagType)
  | tdx (payloadSize : BYTE) (payload : HexPayload payloadSize) (maximumResponseSize : BYTE)

namespace Request

/-- The frame of a request: `GetData` of its packet. -/
def getData : Request → Str
  | .searchTag maxIdBytes => (SearchTagPacket.new maxIdBytes).getData
  | .setTagTypes lf hf => (SetTagTypesPacket.new lf hf).getData
  | .tdx payloadSize payload maximumResponseSize =>
    (ISO14443_4_TDX_Packet.new payloadSize payload.text maximumResponseSize).getData

/-- The bytes of a request: command number and parameters. -/
def bytes : Request → List BYTE
  | .searchTag maxIdBytes => [0x05, 0x00, maxIdBytes]
  | .setTagTypes lf hf => [0x05, 0x02] ++ lf.littleEndian ++ hf.littleEndian
  | .tdx payloadSize payload maximumResponseSize =>
    [0x12, 0x03, payloadSize] ++ payload.bytes ++ [maximumResponseSize]

/-- A frame is the hex text of its bytes and a carriage return. -/
theorem getData_eq (request : Request) :
    request.getData = Hex.encode request.bytes ++ [packetCarriegeReturn] := by
  cases request with
  | searchTag maxIdBytes => exact SearchTagPacket.getData_new maxIdBytes
  | setTagTypes lf hf => exact SetTagTypesPacket.getData_new lf hf
  | tdx n payload m =>
    rw [getData, ISO14443_4_TDX_Packet.getData_new, bytes, Hex.encode_append, Hex.encode_append,
      payload.encode_bytes]

/-- Every request ends with a carriage return and has no other. -/
theorem isFrame_getData (request : Request) :
    Framing.IsFrame packetCarriegeReturn request.getData := by
  refine ⟨Hex.encode request.bytes, fun h => ?_, request.getData_eq⟩
  -- a carriage return is no hex digit
  have hdigit := Hex.mem_uppercaseDigits_of_mem_encode h
  revert hdigit
  decide

/-- The bytes of a request give back its packet class and parameters. -/
theorem bytes_injective : Function.Injective bytes := by
  intro a b h
  -- the command number tells the classes apart, the byte behind it the two with `05`
  cases a <;> cases b <;> simp only [bytes, List.cons_append, List.nil_append, List.cons.injEq,
    and_true, true_and] at h
  case searchTag.searchTag => rw [h]
  case searchTag.setTagTypes => exact absurd h.1 (by decide)
  case setTagTypes.searchTag => exact absurd h.1 (by decide)
  case setTagTypes.setTagTypes lf hf lf' hf' =>
    -- each mask takes four bytes
    obtain ⟨hlf, hhf⟩ := List.append_inj h rfl
    rw [TagType.littleEndian_injective hlf, TagType.littleEndian_injective hhf]
  case tdx.tdx n payload m n' payload' m' =>
    -- the size byte says where the payload ends
    obtain ⟨rfl, h⟩ := h
    obtain ⟨hpayload, hm⟩ :=
      List.append_inj h (payload.length_bytes.trans payload'.length_bytes.symm)
    rw [HexPayload.ext_bytes hpayload, List.singleton_inj.mp hm]
  all_goals exact absurd h.1 (by decide)

/-- The frame determines the request. -/
theorem getData_injective : Function.Injective getData := by
  intro a b h
  rw [getData_eq, getData_eq, List.append_cancel_right_eq] at h
  exact bytes_injective (Hex.encode_injective h)

/-- Cutting the stream of a sequence of requests behind each carriage return gives its frames. A
frame has odd length, is made of uppercase hex digits up to its one final carriage return, and
decodes to the bytes of its request. Different sequences make different streams. -/
theorem stream_determines (requests : List Request) :
    Framing.cutAfter packetCarriegeReturn (requests.flatMap getData) = requests.map getData ∧
    (∀ request ∈ requests, Odd request.getData.length ∧
      (∃ body, request.getData = body ++ [packetCarriegeReturn] ∧
        ∀ c ∈ body, c ∈ Hex.uppercaseDigits) ∧
      hexStringToBytes request.getData = .ok request.bytes) ∧
    ∀ requests' : List Request,
      requests.flatMap getData = requests'.flatMap getData → requests = requests' := by
  have hframes (requests : List Request) :
      ∀ frame ∈ requests.map getData, Framing.IsFrame packetCarriegeReturn frame := by
    intro frame hframe
    obtain ⟨request, _, rfl⟩ := List.mem_map.mp hframe
    exact request.isFrame_getData
  refine ⟨?_, fun request _ => ⟨?_, ?_, ?_⟩, fun requests' h => ?_⟩
  · rw [List.flatMap_def, Framing.cutAfter_flatten (hframes requests)]
  · rw [getData_eq, List.length_append, Hex.length_encode]
    exact odd_two_mul_add_one _
  · exact ⟨_, request.getData_eq, fun c => Hex.mem_uppercaseDigits_of_mem_encode⟩
  · rw [getData_eq]
    exact hexStringToBytes_of_decode (Hex.decode_encode_of_length_le_one _ (by simp))
  · rw [List.flatMap_def, List.flatMap_def] at h
    exact List.map_injective_iff.mpr getData_injective
      (Framing.eq_of_flatten_eq (hframes requests) (hframes requests') h)

end Request

/-! ## The lengths of a SELECT FILE command -/

namespace SelectFileAPDUCommand

/-- The size of the data is narrowed to a byte before it is halved. -/
theorem toNat_dataLength_new (aid : Str) :
    (new aid).dataLength.toNat = aid.length % 256 / 2 := by
  change (UInt8.ofNat ((UInt8.ofNat aid.length).toNat / 2)).toNat = _
  rw [UInt8.toNat_ofNat', UInt8.toNat_ofNat']
  omega

/-- The payload of SELECT FILE: the header, the length byte, the aid as it is, and the expected
length. -/
theorem getPayload_new (aid : Str) :
    (new aid).getPayload =
      Hex.encode [0x00, 0xA4, 0x04, 0x00, (new aid).dataLength] ++ aid ++ Hex.encode [0xFF] := by
  rw [getPayload_eq, APDUCommand.getHeader_eq]
  rfl

/-- What is asked of the lengths of `SelectFileAPDUCommand(aid)` for an AID of `n` bytes and of
the frame it is sent in: they all agree with the data. -/
def LengthsAgree (aid : Str) (n : ℕ) (maximumResponseSize : BYTE) : Prop :=
  (new aid).dataLength.toNat = n ∧
  (∃ aidBytes, hexStringToBytes aid = .ok aidBytes ∧ aidBytes.length = n ∧
    hexStringToBytes (new aid).getPayload =
      .ok ([0x00, 0xA4, 0x04, 0x00, UInt8.ofNat n] ++ aidBytes ++ [0xFF])) ∧
  (new aid).getPayloadSize.toNat = n + 6 ∧
  (new aid).getPayload.length = 2 * (n + 6) ∧
  ∃ declared : BYTE, (ISO14443_4_TDX_Packet.ofAPDUCommand (new aid) maximumResponseSize).getData =
      Hex.encode [0x12, 0x03, declared] ++ (new aid).getPayload ++
        Hex.encode [maximumResponseSize] ++ [packetCarriegeReturn] ∧
    (new aid).getPayload.length = 2 * declared.toNat

/-- The lengths agree with the data exactly for AIDs of less than 128 bytes, whose text has less
characters than a byte can count. -/
theorem lengthsAgree_iff {aid : Str} {n : ℕ} (maximumResponseSize : BYTE)
    (hlength : aid.length = 2 * n) (hdigits : ∀ c ∈ aid, (Hex.value? c).isSome)
    (hfits : n + 6 ≤ 255) : LengthsAgree aid n maximumResponseSize ↔ n < 128 := by
  have hdata := toNat_dataLength_new aid
  rw [hlength] at hdata
  constructor
  · -- from 256 characters on the data length is too small
    rintro ⟨hn, -⟩
    omega
  intro hn
  have hdataLength : (new aid).dataLength = UInt8.ofNat n := by
    rw [← UInt8.toNat_inj, hdata, UInt8.toNat_ofNat']
    omega
  have hsize : (new aid).getPayloadSize.toNat = n + 6 := by
    change (UInt8.ofNat (5 + (new aid).dataLength.toNat + 1)).toNat = n + 6
    rw [UInt8.toNat_ofNat']
    omega
  have hpayload : (new aid).getPayload.length = 2 * (n + 6) := by
    rw [getPayload_new, List.length_append, List.length_append, Hex.length_encode,
      Hex.length_encode, hlength]
    simp only [List.length_cons, List.length_nil]
    omega
  refine ⟨by omega, ?_, hsize, hpayload, (new aid).getPayloadSize, ?_, by rw [hsize, hpayload]⟩
  · -- the payload is the AID between header and response length, and decodes piece by piece
    have hdecodes : (Hex.decode aid).isSome := (Hex.decode_isSome_iff aid).mpr fun c hc =>
      hdigits c (List.mem_of_mem_take hc)
    obtain ⟨aidBytes, haid⟩ := Option.isSome_iff_exists.mp hdecodes
    refine ⟨aidBytes, hexStringToBytes_of_decode haid, ?_, hexStringToBytes_of_decode ?_⟩
    · rw [Hex.length_of_decode haid]
      omega
    · rw [getPayload_new, hdataLength, List.append_assoc, Hex.decode_encode_append,
        Hex.decode_append _ (Dvd.intro _ hlength.symm), haid, Hex.decode_encode]
      simp
  · exact ISO14443_4_TDX_Packet.getData_new _ _ _

/-- The aid of the HCE service has 8 bytes. -/
theorem lengthsAgree_hceServiceAid : LengthsAgree hceServiceAid 8 0xFF :=
  (lengthsAgree_iff 0xFF (by decide) (List.all_eq_true.mp (by decide)) (by decide)).mpr
    (by decide)

/-- An AID of 128 bytes is declared to have none. -/
theorem not_lengthsAgree_long :
    ¬ ∀ (aid : Str) (n : ℕ) (maximumResponseSize : BYTE), aid.length = 2 * n →
      (∀ c ∈ aid, (Hex.value? c).isSome) → n + 6 ≤ 255 →
      LengthsAgree aid n maximumResponseSize := by
  intro hall
  have hdigits : ∀ c ∈ List.replicate 256 '0', (Hex.value? c).isSome := by
    intro c hc
    rw [List.eq_of_mem_replicate hc]
    decide
  obtain ⟨hdataLength, -⟩ := hall (List.replicate 256 '0') 128 0xFF List.length_replicate hdigits
    (by decide)
  rw [toNat_dataLength_new, List.length_replicate] at hdataLength
  exact absurd hdataLength (by decide)

end SelectFileAPDUCommand

end DoorAcs
