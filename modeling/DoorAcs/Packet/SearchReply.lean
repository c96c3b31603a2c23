import DoorAcs.Packet

/-!
# Replies to a search

`SearchReply` is what a reader can say about a search: no tag, or a tag with its type, bit count,
byte count and id bytes. `SearchReply.ofBytes?` is the language of its replies, and
`SearchTagPacket.parseResponse` accepts exactly that language: `run_parseResponse_of_some` and
`run_parseResponse_of_none` say what the parser does inside and outside of it.

The byte count of a reply is a lower bound for its id bytes; the id of the packet is made of all
of them (`parseResponse_id`).
-/

namespace DoorAcs

open Cpp

/-! ## The error byte -/

namespace Packet

/-- A response without an error. -/
theorem run_parseResponse_zero (rest : List BYTE) (p : Packet) :
    (parseResponse (0 :: rest)).run p = .ok () { p with packetResponseErrorType := .errNone } :=
  rfl

/-- An error is stored before it is thrown. -/
theorem run_parseResponse_error {e : BYTE} (he : e ≠ 0) (rest : List BYTE) (p : Packet) :
    (parseResponse (e :: rest)).run p =
      .error (.exception (.runtimeError "Packet error response type"))
        { p with packetResponseErrorType := ⟨e⟩ } := by
  -- the error byte is stored, and the second check throws
  have hne : (⟨e⟩ : PacketResponseErrorType) ≠ .errNone := fun h => he (congrArg (·.value) h)
  simp [parseResponse, elementAt, hne, EStateM.run_bind]

/-- What `Packet::ParseResponse` throws about a reply, if it does. -/
def refusal? : List BYTE → Option String
  | [] => some "Packet invalid response"
  | error :: _ => if error ≠ 0 then some "Packet error response type" else none

/-- A response without an error is not refused. -/
@[simp]
theorem refusal?_zero_cons (rest : List BYTE) : refusal? (0 :: rest) = none := rfl

/-- A response with an error is refused. -/
theorem refusal?_cons_of_ne {e : BYTE} (he : e ≠ 0) (rest : List BYTE) :
    refusal? (e :: rest) = some "Packet error response type" := if_pos he

end Packet

/-! ## The language of search replies -/

/-- What the reader says about a search. A found tag comes with at least as many id bytes as its
byte count says. -/
inductive SearchReply where
  | noTag
  | tag (tagType idBitCount idByteCount : BYTE) (id : List BYTE)
      (enough : idByteCount.toNat ≤ id.length)

/-- The search reply that bytes stand for, if any: `[00, 00]`, or `[00, r, t, bits, n]` with
`r ≠ 0` and at least `n` bytes behind it. -/
def SearchReply.ofBytes? : List BYTE → Option SearchReply
  | [error, found] => if error = 0 ∧ found = 0 then some .noTag else none
  | error :: found :: tagType :: idBitCount :: idByteCount :: id =>
    if h : error = 0 ∧ found ≠ 0 ∧ idByteCount.toNat ≤ id.length then
      some (.tag tagType idBitCount idByteCount id h.2.2)
    else none
  | _ => none

/-- The search reply that a text stands for, if any. -/
def SearchReply.ofText? (text : Str) : Option SearchReply := (Hex.decode text).bind ofBytes?

namespace SearchReply

/-- Every reply to a search has at least two bytes. -/
theorem two_le_length_of_ofBytes? {response : List BYTE} {reply : SearchReply}
    (h : ofBytes? response = some reply) : 2 ≤ response.length := by
  match response, h with
  | _ :: _ :: rest, _ => exact Nat.le_add_left 2 rest.length

/-- No tag is reported by two zero bytes, and by nothing else. -/
theorem ofBytes?_eq_noTag_iff {response : List BYTE} :
    ofBytes? response = some .noTag ↔ response = [0, 0] := by
  constructor
  · intro h
    unfold ofBytes? at h
    split at h
    · split at h
      · next hzero => rw [hzero.1, hzero.2]
      · cases h
    · -- a reply of five bytes or more reports a tag
      split at h <;> cases h
    · cases h
  · rintro rfl
    rfl

/-- A tag is reported by a nonzero result, its type, both counts and at least as many id bytes as
counted. -/
theorem ofBytes?_eq_tag_iff {response : List BYTE} {t bits n : BYTE} {id : List BYTE}
    {hn : n.toNat ≤ id.length} :
    ofBytes? response = some (.tag t bits n id hn) ↔
      ∃ r, r ≠ 0 ∧ response = 0 :: r :: t :: bits :: n :: id := by
  constructor
  · intro h
    unfold ofBytes? at h
    split at h
    · split at h <;> cases h
    · next error found _ _ _ _ =>
      split at h
      · next hfound =>
        cases h
        exact ⟨found, hfound.2.1, by rw [hfound.1]⟩
      · cases h
    · cases h
  · rintro ⟨r, hr, rfl⟩
    rw [ofBytes?, dif_pos ⟨rfl, hr, hn⟩]

end SearchReply

/-! ## The parser -/

namespace SearchTagPacket

/-- The packet that has parsed `reply`. -/
def parsed (p : SearchTagPacket) : SearchReply → SearchTagPacket
  | .noTag => { p with packetResponseErrorType := .errNone, result := false }
  | .tag tagType idBitCount idByteCount id _ =>
    { p with
      packetResponseErrorType := .errNone
      result := true
      tagType := .ofByte tagType
      idBitCount := idBitCount
      idByteCount := idByteCount
      id := Hex.encode id }

/-- The size test of the parser: an error, or a result of zero with bytes behind it. -/
theorem isInvalid_cons_cons (e r : BYTE) (rest : List BYTE) :
    isInvalid (e :: r :: rest) = .ok (decide (e ≠ 0 ∨ (r = 0 ∧ rest ≠ []))) := by
  have hlength : ¬ (e :: r :: rest).length < 2 := by simp
  -- the first operand is false, so the two bytes decide
  simp only [isInvalid, if_neg hlength, elementAt, List.getElem?_cons_zero,
    List.getElem?_cons_succ, bind, Except.bind, pure, Except.pure]
  by_cases he : e = 0 <;> by_cases hr : r = 0 <;> simp [he, hr]

/-- An error leaves everything else in the packet. -/
theorem run_parseResponse_error (p : SearchTagPacket) {e : BYTE} (he : e ≠ 0)
    (rest : List BYTE) :
    (parseResponse (e :: rest)).run p =
      .error (.exception (.runtimeError "Packet error response type"))
        { p with packetResponseErrorType := ⟨e⟩ } := by
  rw [parseResponse, EStateM.run_bind, Prog.run_onField, Packet.run_parseResponse_error he]

/-- A reply that reports no tag has no further bytes. -/
theorem run_parseResponse_noTag_cons (p : SearchTagPacket) (a : BYTE) (rest : List BYTE) :
    (parseResponse (0 :: 0 :: a :: rest)).run p =
      .error (.exception (.runtimeError "SearchTagPacket invalid response"))
        { p with packetResponseErrorType := .errNone } := by
  simp [parseResponse, Prog.run_onField, Packet.run_parseResponse_zero, EStateM.run_bind,
    isInvalid_cons_cons]

/-- A reply that reports a tag has a type, a bit count and a byte count. -/
theorem run_parseResponse_found_of_length_lt (p : SearchTagPacket) {r : BYTE} (hr : r ≠ 0)
    {rest : List BYTE} (hlength : rest.length < 3) :
    (parseResponse (0 :: r :: rest)).run p =
      .error (.exception (.runtimeError "SearchTagPacket invalid response - tag found"))
        { p with packetResponseErrorType := .errNone, result := true } := by
  -- the first check passes, the second does not
  have hshort : rest.length + 1 + 1 < 5 := by omega
  simp [parseResponse, Prog.run_onField, Packet.run_parseResponse_zero, EStateM.run_bind,
    isInvalid_cons_cons, hr, elementAt, hshort]

/-- A reply that reports a tag has as many id bytes as its byte count says. -/
theorem run_parseResponse_found (p : SearchTagPacket) {r : BYTE} (hr : r ≠ 0)
    (t bits n : BYTE) (id : List BYTE) :
    (parseResponse (0 :: r :: t :: bits :: n :: id)).run p =
      if id.length < n.toNat then
        .error (.exception (.runtimeError "SearchTagPacket invalid response - tag length"))
          { p with
            packetResponseErrorType := .errNone, result := true, tagType := .ofByte t
            idBitCount := bits, idByteCount := n }
      else .ok ()
        { p with
          packetResponseErrorType := .errNone, result := true, tagType := .ofByte t
          idBitCount := bits, idByteCount := n, id := Hex.encode id } := by
  -- only the check of the byte count is left
  have hlength : ¬ id.length + 1 + 1 + 1 + 1 + 1 < 5 := by omega
  simp [parseResponse, Prog.run_onField, Packet.run_parseResponse_zero, EStateM.run_bind,
    isInvalid_cons_cons, hr, elementAt, hlength]

/-- The parser accepts every reply of the language and stores it. -/
theorem run_parseResponse_of_some (p : SearchTagPacket) {response : List BYTE}
    {reply : SearchReply} (h : SearchReply.ofBytes? response = some reply) :
    (parseResponse response).run p = .ok () (p.parsed reply) := by
  cases reply with
  | noTag =>
    rw [SearchReply.ofBytes?_eq_noTag_iff] at h
    subst h
    rfl
  | tag t bits n id hn =>
    obtain ⟨r, hr, rfl⟩ := SearchReply.ofBytes?_eq_tag_iff.mp h
    rw [run_parseResponse_found p hr, if_neg (by omega)]
    rfl

/-- What is thrown about a reply outside the language. -/
def refusal (response : List BYTE) : String :=
  (Packet.refusal? response).getD <|
    if response.length < 2 ∨ response[1]? = some 0 then "SearchTagPacket invalid response"
    else if response.length < 5 then "SearchTagPacket invalid response - tag found"
    else "SearchTagPacket invalid response - tag length"

/-- The parser throws on every other byte vector, and never reads outside it. -/
theorem run_parseResponse_of_none (p : SearchTagPacket) {response : List BYTE}
    (h : SearchReply.ofBytes? response = none) :
    ∃ p', (parseResponse response).run p =
      .error (.exception (.runtimeError (refusal response))) p' := by
  -- one case for each check that can fail
  match response, h with
  | [], _ => exact ⟨p, rfl⟩
  | e :: rest, h =>
    by_cases he : e = 0
    · subst he
      match rest, h with
      | [], _ => exact ⟨{ p with packetResponseErrorType := .errNone }, rfl⟩
      | r :: rest, h =>
        by_cases hr : r = 0
        · subst hr
          match rest, h with
          -- `[0, 0]` itself is in the language
          | a :: rest, _ => exact ⟨_, run_parseResponse_noTag_cons p a rest⟩
        · have hrefusal : refusal (0 :: r :: rest) =
              if rest.length < 3 then "SearchTagPacket invalid response - tag found"
              else "SearchTagPacket invalid response - tag length" := by
            have htwo : ¬ rest.length + 1 + 1 < 2 := by omega
            have hfive : rest.length + 1 + 1 < 5 ↔ rest.length < 3 := by omega
            simp [refusal, hr, htwo, hfive]
          rw [hrefusal]
          match rest, h with
          | [], _ | [_], _ | [_, _], _ =>
            exact ⟨_, run_parseResponse_found_of_length_lt p hr (by simp)⟩
          | t :: bits :: n :: id, h =>
            have hn : id.length < n.toNat := by
              by_contra hn
              simp [SearchReply.ofBytes?, hr, Nat.not_lt.mp hn] at h
            exact ⟨_, by rw [run_parseResponse_found p hr, if_pos hn]; rfl⟩
    · rw [refusal, Packet.refusal?_cons_of_ne he]
      exact ⟨_, run_parseResponse_error p he rest⟩

/-- The parser accepts exactly the replies, and stores what they say. -/
theorem run_parseResponse_eq_ok_iff {p p' : SearchTagPacket} {response : List BYTE} :
    (parseResponse response).run p = .ok () p' ↔
      ∃ reply, SearchReply.ofBytes? response = some reply ∧ p.parsed reply = p' := by
  cases h : SearchReply.ofBytes? response with
  | some reply => simp [run_parseResponse_of_some p h]
  | none =>
    obtain ⟨p'', herror⟩ := run_parseResponse_of_none p h
    simp [herror]

/-- The accepted replies are `[00, 00]` and `[00, r, t, bits, n]` with `r ≠ 0` followed by at least
`n` bytes; on every other byte vector the parser throws `runtime_error`. It reads no element
outside the vector. A fresh packet then shows what the reply says. -/
theorem parseResponse_accepts_exactly (maxIdBytes : BYTE) (p : SearchTagPacket)
    (response : List BYTE) :
    (∀ p', (parseResponse response).run p ≠ .error .fault p') ∧
    ((∃ p', (parseResponse response).run p = .ok () p') ↔
      response = [0, 0] ∨ ∃ r t bits n id, response = 0 :: r :: t :: bits :: n :: id ∧
        r ≠ 0 ∧ n.toNat ≤ id.length) ∧
    ((¬ ∃ p', (parseResponse response).run p = .ok () p') →
      ∃ what p', (parseResponse response).run p = .error (.exception (.runtimeError what)) p') ∧
    (∀ p', (parseResponse response).run (new maxIdBytes) = .ok () p' →
      (response = [0, 0] ∧ p'.result = false) ∨
      ∃ r t bits n id, response = 0 :: r :: t :: bits :: n :: id ∧ p'.result = true ∧
        p'.tagType = .ofByte t ∧ p'.idBitCount = bits ∧ p'.idByteCount = n) := by
  -- inside the language the parser accepts, outside of it it throws
  cases h : SearchReply.ofBytes? response with
  | none =>
    obtain ⟨p', herror⟩ := run_parseResponse_of_none p h
    obtain ⟨_, hfresh⟩ := run_parseResponse_of_none (new maxIdBytes) h
    have hlanguage : ¬ (response = [0, 0] ∨ ∃ r t bits n id,
        response = 0 :: r :: t :: bits :: n :: id ∧ r ≠ 0 ∧ n.toNat ≤ id.length) := by
      rintro (rfl | ⟨r, t, bits, n, id, rfl, hr, hn⟩)
      · cases h
      · rw [SearchReply.ofBytes?_eq_tag_iff.mpr ⟨r, hr, rfl⟩] at h
        · cases h
        · exact hn
    refine ⟨by simp [herror], by simpa [herror] using hlanguage, fun _ => ⟨_, p', herror⟩, ?_⟩
    simp [hfresh]
  | some reply =>
    have hok := run_parseResponse_of_some p h
    have hfresh := run_parseResponse_of_some (new maxIdBytes) h
    refine ⟨by simp [hok], ?_, fun hnot => absurd ⟨_, hok⟩ hnot, ?_⟩
    · refine iff_of_true ⟨_, hok⟩ ?_
      cases reply with
      | noTag => exact .inl (SearchReply.ofBytes?_eq_noTag_iff.mp h)
      | tag t bits n id hn =>
        obtain ⟨r, hr, rfl⟩ := SearchReply.ofBytes?_eq_tag_iff.mp h
        exact .inr ⟨r, t, bits, n, id, rfl, hr, hn⟩
    · intro p' hp'
      obtain rfl : (new maxIdBytes).parsed reply = p' := by simpa [hfresh] using hp'
      cases reply with
      | noTag => exact .inl ⟨SearchReply.ofBytes?_eq_noTag_iff.mp h, rfl⟩
      | tag t bits n id hn =>
        obtain ⟨r, hr, rfl⟩ := SearchReply.ofBytes?_eq_tag_iff.mp h
        exact .inr ⟨r, t, bits, n, id, rfl, rfl, rfl, rfl, rfl⟩

/-! ## The id of a found tag -/

/-- The id is made of every byte behind the count byte. It is made of as many as the byte count
says exactly when the reply ends there. -/
theorem parseResponse_id {p p' : SearchTagPacket} {response : List BYTE}
    (h : (parseResponse response).run p = .ok () p') (hresult : p'.result = true) :
    p'.id = Hex.encode (response.drop 5) ∧
    p'.id.length = 2 * (response.length - 5) ∧
    p'.idByteCount.toNat ≤ response.length - 5 ∧
    (p'.id = Hex.encode ((response.drop 5).take p'.idByteCount.toNat) ↔
      response.length = 5 + p'.idByteCount.toNat) := by
  obtain ⟨reply, hreply, rfl⟩ := run_parseResponse_eq_ok_iff.mp h
  cases reply with
  | noTag => cases hresult
  | tag t bits n id hn =>
    obtain ⟨r, _, rfl⟩ := SearchReply.ofBytes?_eq_tag_iff.mp hreply
    have hdrop : (0 :: r :: t :: bits :: n :: id).drop 5 = id := rfl
    have hlength : (0 :: r :: t :: bits :: n :: id).length = id.length + 5 := rfl
    have hid : (p.parsed (.tag t bits n id hn)).id = Hex.encode id := rfl
    have hcount : (p.parsed (.tag t bits n id hn)).idByteCount = n := rfl
    rw [hdrop, hlength, hid, hcount, Hex.length_encode]
    refine ⟨rfl, by omega, by omega, ?_⟩
    constructor
    · -- ids of different lengths have different texts
      intro heq
      have htake := congrArg List.length (Hex.encode_injective heq)
      rw [List.length_take] at htake
      omega
    · intro hend
      rw [List.take_of_length_le (by omega)]

/-- A reply with one byte more than its count of 7 says. -/
def surplusReply : List BYTE :=
  [0x00, 0x01, 0x80, 0x38, 0x07, 0x04, 0x01, 0xF3, 0x8D, 0x29, 0xA5, 0x0B, 0x80]

/-- The packet that has parsed it. -/
def surplusPacket : SearchTagPacket :=
  (new 1).parsed (.tag 0x80 0x38 0x07 (surplusReply.drop 5) (by decide))

/-- With more id bytes than counted, all of them become the id. -/
theorem parseResponse_id_surplusReply :
    surplusPacket.id = Hex.encode (surplusReply.drop 5) ∧
    surplusPacket.id.length = 2 * (surplusReply.length - 5) ∧
    surplusPacket.idByteCount.toNat ≤ surplusReply.length - 5 ∧
    (surplusPacket.id = Hex.encode ((surplusReply.drop 5).take surplusPacket.idByteCount.toNat) ↔
      surplusReply.length = 5 + surplusPacket.idByteCount.toNat) :=
  parseResponse_id
    (show (parseResponse surplusReply).run (new 1) = .ok () surplusPacket from rfl) rfl

/-- The id of `surplusReply` has eight bytes, not seven. -/
theorem parseResponse_id_surplus :
    ¬ ∀ (p p' : SearchTagPacket) (response : List BYTE),
      (parseResponse response).run p = .ok () p' → p'.result = true →
      p'.id = Hex.encode ((response.drop 5).take p'.idByteCount.toNat) ∧
        p'.id.length = 2 * p'.idByteCount.toNat := by
  intro hall
  have h := hall (new 1) _ surplusReply rfl rfl
  exact absurd h.2 (by decide)

end SearchTagPacket

end DoorAcs
