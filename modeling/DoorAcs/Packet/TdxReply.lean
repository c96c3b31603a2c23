import DoorAcs.APDUResponse
import DoorAcs.Packet.SearchReply

/-!
# Replies to an exchange with a card

`TdxReply` is what the reader says about an exchange: whether it succeeded, and the payload the
card sent. `TdxReply.ofBytes?` is the language of its replies.
`ISO14443_4_TDX_Packet.parseResponse` accepts that language (`run_parseResponse_of_some`), but its
copy loop trusts the size byte: a reply that declares more bytes than it has makes the parser read
outside it (`run_parseResponse_of_overruns`). On the rest it throws (`run_parseResponse_of_none`).

`ApduReply` cuts a payload into data and status word, as `APDUResponse` does with its text.
-/

namespace DoorAcs

open Cpp

/-! ## The language of exchange replies -/

/-- What the reader says about an exchange. The size of the payload fits a byte. -/
structure TdxReply where
  success : Bool
  payload : List BYTE
  fits : payload.length < 256

/-- The exchange reply that bytes stand for, if any: `[00, r, n]` with at least `n` bytes behind
it. -/
def TdxReply.ofBytes? : List BYTE → Option TdxReply
  | error :: result :: size :: rest =>
    if error = 0 ∧ size.toNat ≤ rest.length then
      some {
        success := result ≠ 0
        payload := rest.take size.toNat
        fits := Nat.lt_of_le_of_lt (List.length_take_le _ _) size.toNat_lt }
    else none
  | _ => none

/-- The bytes `[00, r, n]` with fewer than `n` bytes behind them. -/
def TdxReply.Overruns (response : List BYTE) : Prop :=
  ∃ r n rest, response = 0 :: r :: n :: rest ∧ rest.length < n.toNat

namespace TdxReply

instance (response : List BYTE) : Decidable (Overruns response) :=
  match response with
  | [] | [_] | [_, _] => isFalse fun ⟨_, _, _, heq, _⟩ => nomatch heq
  | error :: result :: size :: rest =>
    decidable_of_iff (error = 0 ∧ rest.length < size.toNat)
      ⟨fun h => ⟨result, size, rest, by rw [h.1], h.2⟩, fun ⟨_, _, _, heq, hlt⟩ => by
        cases heq
        exact ⟨rfl, hlt⟩⟩

/-- A response that declares more bytes than it has is no reply. -/
theorem ofBytes?_of_overruns {response : List BYTE} (h : Overruns response) :
    ofBytes? response = none := by
  obtain ⟨r, n, rest, rfl, hn⟩ := h
  rw [ofBytes?, if_neg fun h => Nat.not_lt.mpr h.2 hn]

/-- A response that has the bytes it declares is a reply with these. -/
theorem ofBytes?_of_le (r : BYTE) {n : BYTE} {rest : List BYTE} (h : n.toNat ≤ rest.length) :
    ofBytes? (0 :: r :: n :: rest) = some {
      success := r ≠ 0
      payload := rest.take n.toNat
      fits := Nat.lt_of_le_of_lt (List.length_take_le _ _) n.toNat_lt } := by
  rw [ofBytes?, if_pos ⟨rfl, h⟩]

/-- What the replies are: no error, the result, the size, and at least so many bytes. -/
theorem ofBytes?_eq_some_iff {response : List BYTE} {reply : TdxReply} :
    ofBytes? response = some reply ↔
      ∃ r n rest, response = 0 :: r :: n :: rest ∧ n.toNat ≤ rest.length ∧
        reply.success = decide (r ≠ 0) ∧ reply.payload = rest.take n.toNat := by
  constructor
  · intro h
    unfold ofBytes? at h
    split at h
    · next e r n rest =>
      split at h
      · next hn =>
        cases h
        exact ⟨r, n, rest, by rw [hn.1], hn.2, rfl, rfl⟩
      · cases h
    · cases h
  · rintro ⟨r, n, rest, rfl, hn, hsuccess, hpayload⟩
    rw [ofBytes?_of_le r hn]
    cases reply
    cases hsuccess
    cases hpayload
    rfl

end TdxReply

/-! ## The parser -/

namespace ISO14443_4_TDX_Packet

/-- The packet that has parsed `reply`. -/
def parsed (p : ISO14443_4_TDX_Packet) (reply : TdxReply) : ISO14443_4_TDX_Packet :=
  { p with
    packetResponseErrorType := .errNone
    result := reply.success
    actualResponseSize := UInt8.ofNat reply.payload.length
    response := Hex.encode reply.payload }

/-- The copy loop, from element `3` of `0 :: r :: n :: rest` on, copies the first `k` bytes of
`rest`. -/
theorem copy_of_le (a b c : BYTE) (rest : List BYTE) {k : ℕ} (h : k ≤ rest.length) :
    ((List.range k).mapM fun i => elementAt (a :: b :: c :: rest) (i + 3)) =
      (.ok (rest.take k) : Except (Failure Exception) (List BYTE)) := by
  -- induction on the rounds of the loop, the last of which reads element `k + 3`
  induction k with
  | zero => rfl
  | succ k ih =>
    have hk : k < rest.length := h
    have hread : (elementAt (a :: b :: c :: rest) (k + 3) : Except (Failure Exception) BYTE) =
        .ok rest[k] := by
      simp [elementAt, hk]
    rw [List.range_succ, List.mapM_append, ih (by omega), List.mapM_cons, hread,
      List.take_succ_eq_append_getElem hk]
    rfl

/-- The copy loop reads outside the reply if it runs past its end. -/
theorem copy_of_lt (a b c : BYTE) (rest : List BYTE) {k : ℕ} (h : rest.length < k) :
    ((List.range k).mapM fun i => elementAt (a :: b :: c :: rest) (i + 3)) =
      (.error .fault : Except (Failure Exception) (List BYTE)) := by
  -- the first `rest.length` rounds copy, the next one reads past the end
  obtain ⟨m, rfl⟩ : ∃ m, k = rest.length + (m + 1) := ⟨k - rest.length - 1, by omega⟩
  have hread : (elementAt (a :: b :: c :: rest) (rest.length + 3) :
      Except (Failure Exception) BYTE) = .error .fault := elementAt_of_le (by simp)
  rw [List.range_add, List.mapM_append, copy_of_le a b c rest (Nat.le_refl _),
    List.range_succ_eq_map, List.map_cons, List.mapM_cons, Nat.add_zero, hread]
  rfl

/-- An error leaves everything else in the packet. -/
theorem run_parseResponse_error (p : ISO14443_4_TDX_Packet) {e : BYTE} (he : e ≠ 0)
    (rest : List BYTE) :
    (parseResponse (e :: rest)).run p =
      .error (.exception (.runtimeError "Packet error response type"))
        { p with packetResponseErrorType := ⟨e⟩ } := by
  rw [parseResponse, EStateM.run_bind, Prog.run_onField, Packet.run_parseResponse_error he]

/-- The parser accepts every reply of the language and stores it. -/
theorem run_parseResponse_of_some (p : ISO14443_4_TDX_Packet) {response : List BYTE}
    {reply : TdxReply} (h : TdxReply.ofBytes? response = some reply) :
    (parseResponse response).run p = .ok () (p.parsed reply) := by
  obtain ⟨r, n, rest, rfl, hn, hsuccess, hpayload⟩ := TdxReply.ofBytes?_eq_some_iff.mp h
  have hsize : UInt8.ofNat reply.payload.length = n := by
    rw [hpayload, List.length_take, Nat.min_eq_left hn, UInt8.ofNat_toNat]
  have hlength : ¬ rest.length + 1 + 1 + 1 < 3 := by omega
  rw [parsed, hsize, hsuccess, hpayload]
  simp [parseResponse, Prog.run_onField, Packet.run_parseResponse_zero, EStateM.run_bind, hlength,
    elementAt_of_lt, copy_of_le 0 r n rest hn]

/-- A reply that declares more bytes than it has makes the parser read outside it. -/
theorem run_parseResponse_of_overruns (p : ISO14443_4_TDX_Packet) {response : List BYTE}
    (h : TdxReply.Overruns response) :
    ∃ p', (parseResponse response).run p = .error .fault p' := by
  obtain ⟨r, n, rest, rfl, hn⟩ := h
  refine ⟨{ p with
    packetResponseErrorType := .errNone, result := r ≠ 0, actualResponseSize := n }, ?_⟩
  have hlength : ¬ rest.length + 1 + 1 + 1 < 3 := by omega
  simp [parseResponse, Prog.run_onField, Packet.run_parseResponse_zero, EStateM.run_bind, hlength,
    elementAt_of_lt, copy_of_lt 0 r n rest hn]

/-- A reply without room for a result byte and a size byte. -/
theorem run_parseResponse_of_length_lt (p : ISO14443_4_TDX_Packet) {rest : List BYTE}
    (h : rest.length < 2) :
    (parseResponse (0 :: rest)).run p =
      .error (.exception (.runtimeError "ISO14443_4_TDX_Packet invalid response"))
        { p with packetResponseErrorType := .errNone } := by
  have hlength : rest.length + 1 < 3 := by omega
  simp [parseResponse, Prog.run_onField, Packet.run_parseResponse_zero, EStateM.run_bind, hlength]

/-- What is thrown about a reply outside the language. -/
def refusal (response : List BYTE) : String :=
  (Packet.refusal? response).getD "ISO14443_4_TDX_Packet invalid response"

/-- On the other byte vectors outside the language the parser throws, and has stored nothing but the
error byte. -/
theorem run_parseResponse_of_none (p : ISO14443_4_TDX_Packet) {response : List BYTE}
    (h : TdxReply.ofBytes? response = none) (hoverrun : ¬ TdxReply.Overruns response) :
    ∃ error, (parseResponse response).run p =
      .error (.exception (.runtimeError (refusal response)))
        { p with packetResponseErrorType := error } := by
  -- the checks in the order of the source: error byte, its value, the length
  match response, h, hoverrun with
  | [], _, _ => exact ⟨p.packetResponseErrorType, rfl⟩
  | e :: rest, h, hoverrun =>
    by_cases he : e = 0
    · subst he
      match rest, h, hoverrun with
      | [], _, _ | [_], _, _ => exact ⟨_, run_parseResponse_of_length_lt p (by simp)⟩
      | r :: n :: rest, h, hoverrun =>
        -- long enough for what it declares: the reply is in the language
        have hn : n.toNat ≤ rest.length := by
          by_contra hlt
          exact hoverrun ⟨r, n, rest, rfl, by omega⟩
        rw [TdxReply.ofBytes?_of_le r hn] at h
        cases h
    · rw [refusal, Packet.refusal?_cons_of_ne he]
      exact ⟨_, run_parseResponse_error p he rest⟩

/-- Outside the language the parser fails in one way or the other. -/
theorem exists_run_parseResponse_of_none (p : ISO14443_4_TDX_Packet) {response : List BYTE}
    (h : TdxReply.ofBytes? response = none) :
    ∃ failure p', (parseResponse response).run p = .error failure p' := by
  by_cases hoverrun : TdxReply.Overruns response
  · obtain ⟨p', hfault⟩ := run_parseResponse_of_overruns p hoverrun
    exact ⟨_, p', hfault⟩
  · obtain ⟨error, herror⟩ := run_parseResponse_of_none p h hoverrun
    exact ⟨_, _, herror⟩

/-- The parser accepts exactly the replies, and stores what they say. -/
theorem run_parseResponse_eq_ok_iff {p p' : ISO14443_4_TDX_Packet} {response : List BYTE} :
    (parseResponse response).run p = .ok () p' ↔
      ∃ reply, TdxReply.ofBytes? response = some reply ∧ p.parsed reply = p' := by
  cases h : TdxReply.ofBytes? response with
  | some reply => simp [run_parseResponse_of_some p h]
  | none =>
    obtain ⟨failure, p'', herror⟩ := exists_run_parseResponse_of_none p h
    simp [herror]

/-- What is asked of the parser on `response`: it reads no element outside the response, accepts
`[00, r, n]` followed by at least `n` bytes and throws `runtime_error` on everything else, and an
accepted response sets the result, the size and the hex text of exactly the `n` bytes. -/
def ParseContract (p : ISO14443_4_TDX_Packet) (response : List BYTE) : Prop :=
  (∀ p', (parseResponse response).run p ≠ .error .fault p') ∧
  ((∃ p', (parseResponse response).run p = .ok () p') ↔
    ∃ r n rest, response = 0 :: r :: n :: rest ∧ n.toNat ≤ rest.length) ∧
  ((¬ ∃ p', (parseResponse response).run p = .ok () p') →
    ∃ what p', (parseResponse response).run p = .error (.exception (.runtimeError what)) p') ∧
  (∀ p', (parseResponse response).run p = .ok () p' →
    ∃ r n rest, response = 0 :: r :: n :: rest ∧ p'.result = decide (r ≠ 0) ∧
      p'.actualResponseSize = n ∧ p'.response = Hex.encode (rest.take n.toNat))

/-- The parser keeps its contract exactly on the responses that have as many bytes as they
declare. -/
theorem parseContract_iff (p : ISO14443_4_TDX_Packet) (response : List BYTE) :
    ParseContract p response ↔ ¬ TdxReply.Overruns response := by
  constructor
  · rintro ⟨hfault, -⟩ hoverrun
    obtain ⟨p', h⟩ := run_parseResponse_of_overruns p hoverrun
    exact hfault p' h
  -- without an overrun the parser accepts or throws as the language says
  intro hoverrun
  cases h : TdxReply.ofBytes? response with
  | some reply =>
    have hok := run_parseResponse_of_some p h
    obtain ⟨r, n, rest, hresponse, hn, hsuccess, hpayload⟩ := TdxReply.ofBytes?_eq_some_iff.mp h
    refine ⟨by simp [hok], iff_of_true ⟨_, hok⟩ ⟨r, n, rest, hresponse, hn⟩,
      fun hnot => absurd ⟨_, hok⟩ hnot, fun p' hp' => ?_⟩
    obtain rfl : p.parsed reply = p' := by simpa [hok] using hp'
    refine ⟨r, n, rest, hresponse, hsuccess, ?_, congrArg Hex.encode hpayload⟩
    change UInt8.ofNat reply.payload.length = n
    rw [hpayload, List.length_take, Nat.min_eq_left hn, UInt8.ofNat_toNat]
  | none =>
    obtain ⟨error, herror⟩ := run_parseResponse_of_none p h hoverrun
    refine ⟨by simp [herror], iff_of_false (by simp [herror]) ?_, fun _ => ⟨_, _, herror⟩,
      by simp [herror]⟩
    rintro ⟨r, n, rest, rfl, hn⟩
    rw [TdxReply.ofBytes?_of_le r hn] at h
    cases h

/-- A reply cut after the first of four declared bytes. -/
theorem not_parseContract_cut :
    ¬ ∀ (p : ISO14443_4_TDX_Packet) (response : List BYTE), ParseContract p response := by
  intro hall
  obtain ⟨hfault, -⟩ := hall (new 0 [] 0xFF) [0x00, 0x01, 0x04, 0xA0]
  exact hfault _ rfl

end ISO14443_4_TDX_Packet

/-! ## Data and status word -/

/-- The answer of a card to an APDU command: data and the two bytes of the status word. -/
structure ApduReply where
  data : List BYTE
  sw1 : BYTE
  sw2 : BYTE
  deriving DecidableEq, Repr

namespace ApduReply

/-- The answer that a payload stands for, if it has room for a status word. -/
def ofPayload? (payload : List BYTE) : Option ApduReply :=
  match payload.drop (payload.length - 2) with
  | [sw1, sw2] => some { data := payload.take (payload.length - 2), sw1, sw2 }
  | _ => none

/-- The status word says that the command succeeded. -/
def IsOk (reply : ApduReply) : Prop := reply.sw1 = 0x90 ∧ reply.sw2 = 0x00

instance (reply : ApduReply) : Decidable reply.IsOk :=
  inferInstanceAs (Decidable (_ ∧ _))

/-- An answer is its data and the two bytes of the status word. -/
theorem ofPayload?_eq_some_iff {payload : List BYTE} {reply : ApduReply} :
    ofPayload? payload = some reply ↔ payload = reply.data ++ [reply.sw1, reply.sw2] := by
  constructor
  · intro h
    unfold ofPayload? at h
    split at h
    · next sw1 sw2 hdrop =>
      cases h
      rw [← hdrop, List.take_append_drop]
    · cases h
  · intro h
    have hlength : payload.length - 2 = reply.data.length := by simp [h]
    rw [ofPayload?, hlength, h, List.drop_left, List.take_left]

/-- Only less than a status word is no answer. -/
theorem ofPayload?_eq_none_iff {payload : List BYTE} :
    ofPayload? payload = none ↔ payload.length < 2 := by
  constructor
  · intro h
    by_contra hlength
    obtain ⟨sw1, sw2, hdrop⟩ := List.length_eq_two.mp
      (show (payload.drop (payload.length - 2)).length = 2 by rw [List.length_drop]; omega)
    rw [ofPayload?, hdrop] at h
    cases h
  · intro h
    cases hreply : ofPayload? payload with
    | none => rfl
    | some reply =>
      rw [ofPayload?_eq_some_iff.mp hreply] at h
      simp at h

/-- What bytes say about the answer of the card, if they stand for an exchange reply: `none` if the
reader device says that the exchange failed. -/
def ofBytes? (response : List BYTE) : Option (Option ApduReply) :=
  (TdxReply.ofBytes? response).bind fun reply =>
    if reply.success = true then (ofPayload? reply.payload).map some else some none

/-- What is thrown about bytes that tell nothing about the answer of the card, unless they are read
outside of. -/
def refusal (response : List BYTE) : String :=
  if (TdxReply.ofBytes? response).isSome then "APDUResponse invalid response"
  else ISO14443_4_TDX_Packet.refusal response

/-- What a text says about the answer of the card. -/
def ofText? (text : Str) : Option (Option ApduReply) := (Hex.decode text).bind ofBytes?

/-- The bytes that tell of a card that answered. -/
theorem ofBytes?_eq_answer_iff {response : List BYTE} {answer : ApduReply} :
    ofBytes? response = some (some answer) ↔
      ∃ r n rest, response = 0 :: r :: n :: rest ∧ r ≠ 0 ∧ n.toNat ≤ rest.length ∧
        rest.take n.toNat = answer.data ++ [answer.sw1, answer.sw2] := by
  constructor
  · intro h
    obtain ⟨reply, hreply, hanswer⟩ := Option.bind_eq_some_iff.mp h
    obtain ⟨r, n, rest, rfl, hn, hsuccess, hpayload⟩ := TdxReply.ofBytes?_eq_some_iff.mp hreply
    split at hanswer
    · next hs =>
      obtain ⟨answer', hcut, heq⟩ := Option.map_eq_some_iff.mp hanswer
      cases heq
      rw [hsuccess, decide_eq_true_iff] at hs
      exact ⟨r, n, rest, rfl, hs, hn, by rw [← hpayload, ofPayload?_eq_some_iff.mp hcut]⟩
    · cases hanswer
  · rintro ⟨r, n, rest, rfl, hr, hn, hpayload⟩
    rw [ofBytes?, TdxReply.ofBytes?_of_le r hn, Option.bind_some, if_pos (decide_eq_true hr),
      ofPayload?_eq_some_iff.mpr hpayload]
    rfl

/-- A text tells of a card that answered with the status word 9000 iff its bytes `n - 1` and `n`
behind the header say so. -/
theorem exists_ofText?_isOk_iff {text : Str} :
    (∃ answer, ofText? text = some (some answer) ∧ answer.IsOk) ↔
      ∃ r n rest, Hex.decode text = some (0 :: r :: n :: rest) ∧ r ≠ 0 ∧ 2 ≤ n.toNat ∧
        n.toNat ≤ rest.length ∧ rest[n.toNat - 2]? = some 0x90 ∧ rest[n.toNat - 1]? = some 0 := by
  constructor
  · rintro ⟨⟨data, sw1, sw2⟩, hanswer, rfl, rfl⟩
    obtain ⟨bytes, hdecode, hbytes⟩ := Option.bind_eq_some_iff.mp hanswer
    obtain ⟨r, n, rest, rfl, hr, hn, htake⟩ := ofBytes?_eq_answer_iff.mp hbytes
    -- the payload ends with the status word, so the size byte says where it stands
    have hlength := congrArg List.length htake
    rw [List.length_take, Nat.min_eq_left hn, List.length_append] at hlength
    have hn2 : n.toNat = data.length + 2 := hlength
    refine ⟨r, n, rest, hdecode, hr, by omega, hn, ?_, ?_⟩
    · rw [← List.getElem?_take_of_lt (j := n.toNat) (by omega), htake, hn2]
      simp
    · rw [← List.getElem?_take_of_lt (j := n.toNat) (by omega), htake, hn2]
      simp
  · rintro ⟨r, n, rest, hdecode, hr, htwo, hn, hsw1, hsw2⟩
    refine ⟨⟨rest.take (n.toNat - 2), 0x90, 0⟩, Option.bind_eq_some_iff.mpr
      ⟨_, hdecode, ofBytes?_eq_answer_iff.mpr ⟨r, n, rest, rfl, hr, hn, ?_⟩⟩, rfl, rfl⟩
    obtain ⟨k, hk⟩ : ∃ k, n.toNat = k + 2 := ⟨n.toNat - 2, by omega⟩
    rw [hk] at hsw1 hsw2 ⊢
    -- the first `k + 2` bytes are the first `k` and the two of the status word
    obtain ⟨hlt1, hget1⟩ := List.getElem?_eq_some_iff.mp hsw1
    obtain ⟨hlt2, hget2⟩ := List.getElem?_eq_some_iff.mp hsw2
    rw [List.take_succ_eq_append_getElem (show k + 1 < rest.length by omega),
      List.take_succ_eq_append_getElem (show k < rest.length by omega), List.append_assoc]
    exact congrArg₂ (fun x y => rest.take k ++ [x, y]) hget1 hget2

end ApduReply

namespace APDUResponse

variable {apduCommandType : APDUCommandType} {payload : List BYTE}

/-- The response object holds the answer. -/
theorem new_encode_of_some {reply : ApduReply} (h : ApduReply.ofPayload? payload = some reply) :
    new apduCommandType (Hex.encode payload) = .ok {
      apduCommandType
      data := Hex.encode reply.data
      status := Hex.encode [reply.sw1, reply.sw2] } := by
  rw [ApduReply.ofPayload?_eq_some_iff.mp h, new_encode]

/-- The constructor throws where there is no answer. -/
theorem new_encode_of_none (h : ApduReply.ofPayload? payload = none) :
    new apduCommandType (Hex.encode payload) = runtimeError "APDUResponse invalid response" := by
  rw [ApduReply.ofPayload?_eq_none_iff] at h
  apply new_of_length_lt
  rw [Hex.length_encode]
  omega

/-- The constructor cuts a payload or says that it is too short. -/
theorem eq_of_new_encode_eq_error {f : Failure Exception}
    (h : new apduCommandType (Hex.encode payload) = .error f) :
    ApduReply.ofPayload? payload = none ∧
      f = .exception (.runtimeError "APDUResponse invalid response") := by
  cases hcut : ApduReply.ofPayload? payload with
  | none =>
    rw [new_encode_of_none hcut] at h
    cases h
    exact ⟨rfl, rfl⟩
  | some reply =>
    rw [new_encode_of_some hcut] at h
    cases h

/-- The status text is `9000` exactly for the status word that says so. -/
theorem encode_status_eq_ok_iff (reply : ApduReply) :
    Hex.encode [reply.sw1, reply.sw2] = apduStatusOk ↔ reply.IsOk := by
  have hok : apduStatusOk = Hex.encode [0x90, 0x00] := by decide
  rw [hok, Hex.encode_injective.eq_iff, ApduReply.IsOk]
  simp

end APDUResponse

end DoorAcs
