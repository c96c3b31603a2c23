import DoorAcs.Packet.TdxReply

/-!
# Replies as text

A reply comes over the serial port as hex text with a carriage return behind it. This module follows
whole replies through the decoder, the packets and the APDU responses.

* `SearchTagPacket.parseText_cut`: a search reply that a read cut anywhere is rejected, or parsed as
  the whole reply is, whose packet shows what the reply says.
* `APDUResponse.new_of_cardReply`: the answer of a card comes back from the text of the reply.
-/

namespace DoorAcs

open Cpp

/-- `text` is the hex text of `bytes`, in any mix of letter case. -/
def IsHexTextOf (text : Str) (bytes : List BYTE) : Prop :=
  text.map Char.toUpper = vectorToStringCompact bytes

instance (text : Str) (bytes : List BYTE) : Decidable (IsHexTextOf text bytes) :=
  inferInstanceAs (Decidable (_ = _))

namespace IsHexTextOf

variable {text : Str} {bytes : List BYTE}

/-- The text that the encoder writes is one of them. -/
theorem of_encoder (bytes : List BYTE) :
    IsHexTextOf (vectorToStringCompact bytes) bytes := by
  rw [IsHexTextOf, vectorToStringCompact_eq]
  exact Hex.map_toUpper_encode bytes

/-- Two characters a byte. -/
theorem length_eq (h : IsHexTextOf text bytes) : text.length = 2 * bytes.length := by
  have hlength := congrArg List.length h
  rwa [List.length_map, vectorToStringCompact_eq, Hex.length_encode] at hlength

/-- The letter case makes no difference to the decoder. -/
theorem decode_eq (h : IsHexTextOf text bytes) : Hex.decode text = some bytes := by
  apply Hex.decode_of_map_toUpper
  rwa [IsHexTextOf, vectorToStringCompact_eq] at h

/-- The carriage return has no partner. -/
theorem decode_append_packetCarriegeReturn (h : IsHexTextOf text bytes) :
    Hex.decode (text ++ [packetCarriegeReturn]) = some bytes := by
  rw [Hex.decode_append_of_length_le_one (Dvd.intro _ h.length_eq.symm) (by simp), h.decode_eq]

end IsHexTextOf

/-! ## Search replies that a read cuts -/

namespace SearchReply

/-- A whole search reply: `[00, 00]`, or `[00, r, t, bits, n]` with `r ≠ 0` followed by exactly `n`
id bytes. -/
def IsWhole (bytes : List BYTE) : Prop :=
  bytes = [0, 0] ∨
    ∃ r t bits n id, bytes = 0 :: r :: t :: bits :: n :: id ∧ r ≠ 0 ∧ id.length = n.toNat

variable {bytes : List BYTE}

/-- A well-formed reply is accepted. -/
theorem IsWhole.exists_reply (h : IsWhole bytes) : ∃ reply, ofBytes? bytes = some reply := by
  rcases h with rfl | ⟨r, t, bits, n, id, rfl, hr, hid⟩
  · exact ⟨.noTag, rfl⟩
  · exact ⟨.tag t bits n id hid.ge, ofBytes?_eq_tag_iff.mpr ⟨r, hr, rfl⟩⟩

/-- No whole reply begins with another one. -/
theorem IsWhole.ofBytes?_take_of_lt (h : IsWhole bytes) {k : ℕ} (hk : k < bytes.length) :
    ofBytes? (bytes.take k) = none := by
  rcases h with rfl | ⟨r, t, bits, n, id, rfl, hr, hid⟩
  · match k, hk with
    | 0, _ | 1, _ => rfl
  · match k, hk with
    | 0, _ | 1, _ | 3, _ | 4, _ => rfl
    | 2, _ =>
      -- not taken for `[00, 00]`, since the reply reports a tag
      exact if_neg fun hzero => hr hzero.2
    | k + 5, hk =>
      -- fewer id bytes than the count byte says
      have hcut : (id.take k).length < n.toNat := by
        simp only [List.length_cons] at hk
        rw [List.length_take, ← hid]
        omega
      exact dif_neg fun hfound => absurd hfound.2.2 (Nat.not_le.mpr hcut)

end SearchReply

namespace SearchTagPacket

/-- Decode a text and parse it. -/
def parseText (text : Str) : Prog Exception SearchTagPacket Unit := do
  let responseBytes ← .lift (hexStringToBytes text)
  parseResponse responseBytes

/-- A text that decodes is parsed as its bytes. -/
theorem run_parseText_of_decode (p : SearchTagPacket) {text : Str} {bytes : List BYTE}
    (h : Hex.decode text = some bytes) : (parseText text).run p = (parseResponse bytes).run p := by
  rw [parseText, hexStringToBytes_of_decode h, EStateM.run_bind, Prog.run_lift_ok]

/-- The packet shows what the whole reply `bytes` says, and what a fresh packet does where the reply
says nothing. -/
def Shows (p : SearchTagPacket) (bytes : List BYTE) : Prop :=
  (bytes = [0, 0] ∧ p.result = false ∧ p.tagType = .noTag ∧ p.idBitCount = 0 ∧
    p.idByteCount = 0 ∧ p.id = []) ∨
  ∃ r t bits n id, bytes = 0 :: r :: t :: bits :: n :: id ∧ p.result = true ∧
    p.tagType = .ofByte t ∧ p.idBitCount = bits ∧ p.idByteCount = n ∧ p.id = Hex.encode id

/-- A packet that stores a reply shows what its bytes say. -/
theorem shows_parsed (maxIdBytes : BYTE) {bytes : List BYTE} {reply : SearchReply}
    (h : SearchReply.ofBytes? bytes = some reply) :
    ((new maxIdBytes).parsed reply).Shows bytes := by
  cases reply with
  | noTag => exact .inl ⟨SearchReply.ofBytes?_eq_noTag_iff.mp h, rfl, rfl, rfl, rfl, rfl⟩
  | tag t bits n id enough =>
    obtain ⟨r, -, rfl⟩ := SearchReply.ofBytes?_eq_tag_iff.mp h
    exact .inr ⟨r, t, bits, n, id, rfl, rfl, rfl, rfl, rfl, rfl⟩

/-- A whole search reply is accepted, and a fresh packet then shows what it says. If a read cuts its
text anywhere, what is left makes a fresh packet throw, or parses to the same packet. -/
theorem parseText_cut (maxIdBytes : BYTE) {bytes : List BYTE} {text cut : Str}
    (hwhole : SearchReply.IsWhole bytes) (htext : IsHexTextOf text bytes)
    (hcut : cut <+: text ++ [packetCarriegeReturn]) :
    ∃ p, (parseText (text ++ [packetCarriegeReturn])).run (new maxIdBytes) = .ok () p ∧
      p.Shows bytes ∧
      ((∃ e p', (parseText cut).run (new maxIdBytes) = .error (.exception e) p') ∨
        (parseText cut).run (new maxIdBytes) = .ok () p) := by
  obtain ⟨reply, hreply⟩ := hwhole.exists_reply
  have hdecode := htext.decode_append_packetCarriegeReturn
  have hcutDecode : Hex.decode cut = some (bytes.take (cut.length / 2)) := by
    rw [List.prefix_iff_eq_take.mp hcut]
    rw [Hex.decode_take _ hdecode, ← List.prefix_iff_eq_take.mp hcut]
  refine ⟨(new maxIdBytes).parsed reply, ?_, shows_parsed maxIdBytes hreply, ?_⟩
  · rw [run_parseText_of_decode _ hdecode, run_parseResponse_of_some _ hreply]
  · rw [run_parseText_of_decode _ hcutDecode]
    rcases Nat.lt_or_ge (cut.length / 2) bytes.length with hlt | hge
    · -- bytes are missing
      left
      obtain ⟨p', herror⟩ :=
        run_parseResponse_of_none (new maxIdBytes) (hwhole.ofBytes?_take_of_lt hlt)
      exact ⟨_, p', herror⟩
    · -- at most the carriage return is missing
      right
      rw [List.take_of_length_le hge, run_parseResponse_of_some _ hreply]

/-- A found-tag reply in mixed case, cut in the middle of its last byte. -/
theorem parseText_cut_lastNibble :
    ∃ p, (parseText ("0001802002aBcD".toList ++ [packetCarriegeReturn])).run (new 16) = .ok () p ∧
      p.Shows [0x00, 0x01, 0x80, 0x20, 0x02, 0xAB, 0xCD] ∧
      ((∃ e p', (parseText "0001802002aBc".toList).run (new 16) = .error (.exception e) p') ∨
        (parseText "0001802002aBc".toList).run (new 16) = .ok () p) :=
  have hwhole : SearchReply.IsWhole [0x00, 0x01, 0x80, 0x20, 0x02, 0xAB, 0xCD] :=
    .inr ⟨0x01, 0x80, 0x20, 0x02, [0xAB, 0xCD], rfl, by decide, rfl⟩
  parseText_cut 16 hwhole (by decide) ⟨"D\r".toList, by decide⟩

end SearchTagPacket

/-! ## The answer of a card, through all layers -/

namespace APDUResponse

/-- The reply that carries the data `d` and the status word `sw1 sw2` of a card. -/
def cardReply (r : BYTE) (d : List BYTE) (sw1 sw2 : BYTE) : List BYTE :=
  [0x00, r, UInt8.ofNat (d.length + 2)] ++ d ++ [sw1, sw2]

/-- The reply that carries up to 253 bytes of data and a status word, as text in any mix of letter
case with a carriage return behind it, goes through decoder, packet and constructor, and comes out
as the result, the data and the status word it was made of. A payload without room for a status word
makes the constructor throw. -/
theorem new_of_cardReply :
    (∀ (r : BYTE) (d : List BYTE) (sw1 sw2 : BYTE) (text : Str) (p : ISO14443_4_TDX_Packet)
      (apduCommandType : APDUCommandType), d.length ≤ 253 →
      IsHexTextOf text (cardReply r d sw1 sw2) →
      ∃ responseBytes p' apduResponse,
        hexStringToBytes (text ++ [packetCarriegeReturn]) = .ok responseBytes ∧
        (ISO14443_4_TDX_Packet.parseResponse responseBytes).run p = .ok () p' ∧
        new apduCommandType p'.response = .ok apduResponse ∧
        p'.result = decide (r ≠ 0) ∧
        apduResponse.data = Hex.encode d ∧ apduResponse.status = Hex.encode [sw1, sw2]) ∧
    ∀ (p p' : ISO14443_4_TDX_Packet) (response : List BYTE) (apduCommandType : APDUCommandType),
      (ISO14443_4_TDX_Packet.parseResponse response).run p = .ok () p' →
      p'.actualResponseSize.toNat < 2 →
      ∃ what, new apduCommandType p'.response = .error (.exception (.runtimeError what)) := by
  refine ⟨fun r d sw1 sw2 text p apduCommandType hd htext => ?_,
    fun p p' response apduCommandType h hsize => ?_⟩
  · -- the size byte holds the length of the payload, which is at most 255
    have hsize : (UInt8.ofNat (d.length + 2)).toNat = (d ++ [sw1, sw2]).length := by
      rw [UInt8.toNat_ofNat', List.length_append, List.length_cons, List.length_singleton]
      omega
    have hreply := TdxReply.ofBytes?_of_le r hsize.le
    refine ⟨cardReply r d sw1 sw2, _,
      { apduCommandType, data := Hex.encode d, status := Hex.encode [sw1, sw2] },
      hexStringToBytes_of_decode htext.decode_append_packetCarriegeReturn,
      ISO14443_4_TDX_Packet.run_parseResponse_of_some p hreply, ?_, rfl, rfl, rfl⟩
    change new apduCommandType (Hex.encode ((d ++ [sw1, sw2]).take _)) = _
    rw [hsize, List.take_length, new_encode]
  · obtain ⟨reply, -, rfl⟩ := ISO14443_4_TDX_Packet.run_parseResponse_eq_ok_iff.mp h
    have hlength : reply.payload.length < 2 := by
      change (UInt8.ofNat reply.payload.length).toNat < 2 at hsize
      rwa [UInt8.toNat_ofNat_of_lt' reply.fits] at hsize
    exact ⟨_, new_encode_of_none (ApduReply.ofPayload?_eq_none_iff.mpr hlength)⟩

end APDUResponse

end DoorAcs
