import DoorAcs.Packet.TdxReply

/-!
# Packets that parse more than one reply

Nothing keeps a packet from being given several replies, one after the other. This module says what
is left of earlier replies in each class.

* `Packet.keepsGetters_iff`: when a parser throws, which replies have changed the packet.
* `Packet.reflectsLastReply_iff`: when a parser returns, after which histories the packet shows more
  than the last reply.

`SearchTagPacket` stores a reply field by field between its checks, and sets nothing of a tag when
there is none. The other two classes check first and then set everything.
-/

namespace DoorAcs

open Cpp

/-! ## What is asked of a parser -/

namespace Packet

variable {σ : Type}

/-- After the calls of `history`: if the parser throws on `response`, every getter but that of the
error byte shows what it showed before. -/
def KeepsGetters (withoutError : σ → σ) (parse : List BYTE → Prog Exception σ Unit) (fresh : σ)
    (history : List (List BYTE)) (response : List BYTE) : Prop :=
  ∀ e p', (parse response).run (Prog.runEach parse history fresh) = .error (.exception e) p' →
    withoutError p' = withoutError (Prog.runEach parse history fresh)

/-- After the calls of `history`: if the parser returns on `last`, the packet shows what a fresh one
shows that parsed `last` only. -/
def ReflectsLastReply (parse : List BYTE → Prog Exception σ Unit) (fresh : σ)
    (history : List (List BYTE)) (last : List BYTE) : Prop :=
  ∀ p', (parse last).run (Prog.runEach parse history fresh) = .ok () p' →
    (parse last).run fresh = .ok () p'

/-- A parser that sets nothing but what replies set, and all of it when it returns on `last`. -/
theorem reflectsLastReply_of_unparsed (unparsed : σ → σ)
    {parse : List BYTE → Prog Exception σ Unit} {fresh : σ} {last : List BYTE}
    (hfresh : unparsed fresh = fresh)
    (hkeeps : ∀ response, Prog.Preserves (fun p => unparsed p = fresh) (parse response))
    (hlast : ∀ p p', (parse last).run p = .ok () p' → (parse last).run (unparsed p) = .ok () p')
    (history : List (List BYTE)) : ReflectsLastReply parse fresh history last := by
  intro p' h
  have hunparsed := Prog.runEach_invariant hkeeps history hfresh
  rw [← hunparsed]
  exact hlast _ _ h

/-- The packet less its error byte. -/
def withoutError (p : Packet) : Packet := { p with packetResponseErrorType := .errNone }

/-- The base class sets nothing but the error byte. -/
theorem preserves_withoutError (fresh : Packet) (response : List BYTE) :
    Prog.Preserves (fun p => p.withoutError = fresh) (parseResponse response) := by
  refine Prog.preserves_ite (Prog.preserves_raise _) ?_
  refine Prog.preserves_bind (Prog.preserves_lift _) fun error => ?_
  refine Prog.preserves_bind (Prog.preserves_modify fun _ hp => hp) fun _ => ?_
  refine Prog.preserves_bind Prog.preserves_get fun p => ?_
  exact Prog.preserves_ite (Prog.preserves_raise _) (Prog.preserves_pure _)

end Packet

/-! ## Search replies, stored field by field -/

/-- What a search reply says about a tag in front of its id. -/
structure TagHeader where
  tagType : TagType
  idBitCount : BYTE
  idByteCount : BYTE
  deriving DecidableEq

namespace SearchTagPacket

/-- The packet less its error byte. -/
def withoutError (p : SearchTagPacket) : SearchTagPacket :=
  { p with packetResponseErrorType := .errNone }

/-- The packet before it parsed anything. -/
def unparsed (p : SearchTagPacket) : SearchTagPacket :=
  { p with
    packetResponseErrorType := .errNone, result := false, tagType := .noTag, idBitCount := 0
    idByteCount := 0, id := [] }

/-- The header that a packet shows. -/
def header (p : SearchTagPacket) : TagHeader :=
  { tagType := p.tagType, idBitCount := p.idBitCount, idByteCount := p.idByteCount }

/-- The result that `response` sets, if it sets one. -/
def setResult? : List BYTE → Option Bool
  | error :: found :: rest => if error = 0 ∧ (found ≠ 0 ∨ rest = []) then some (found ≠ 0) else none
  | _ => none

/-- The header that `response` sets, if it sets one: that of a found tag, whether or not as many id
bytes follow as it says. -/
def setHeader? : List BYTE → Option TagHeader
  | error :: found :: tagType :: idBitCount :: idByteCount :: _ =>
    if error = 0 ∧ found ≠ 0 then some { tagType := .ofByte tagType, idBitCount, idByteCount }
    else none
  | _ => none

/-- The id that `response` sets, if it sets one. -/
def setId? (response : List BYTE) : Option Str :=
  match SearchReply.ofBytes? response with
  | some (.tag _ _ _ id _) => some (Hex.encode id)
  | _ => none

/-- Only a reply that has the whole header of a found tag sets a header or an id. -/
theorem set_eq_none {e r : BYTE} {rest : List BYTE}
    (h : ¬ (e = 0 ∧ r ≠ 0 ∧ 3 ≤ rest.length)) :
    setHeader? (e :: r :: rest) = none ∧ setId? (e :: r :: rest) = none := by
  rcases rest with _ | ⟨t, _ | ⟨bits, _ | ⟨n, id⟩⟩⟩
  · have hreply : SearchReply.ofBytes? [e, r] =
        if e = 0 ∧ r = 0 then some .noTag else none := rfl
    refine ⟨rfl, ?_⟩
    rw [setId?, hreply]
    split_ifs <;> rfl
  · exact ⟨rfl, rfl⟩
  · exact ⟨rfl, rfl⟩
  · have hfound : ¬ (e = 0 ∧ r ≠ 0) := fun hfound => h ⟨hfound.1, hfound.2, by simp⟩
    have hreply : SearchReply.ofBytes? (e :: r :: t :: bits :: n :: id) = none :=
      dif_neg fun hwhole => hfound ⟨hwhole.1, hwhole.2.1⟩
    exact ⟨if_neg hfound, by rw [setId?, hreply]⟩

/-- Three bytes or more begin with a type and two counts. -/
theorem exists_eq_cons_of_three_le {rest : List BYTE} (h : 3 ≤ rest.length) :
    ∃ t bits n id, rest = t :: bits :: n :: id := by
  obtain ⟨t, rest, rfl⟩ := List.exists_cons_of_length_pos (l := rest) (by omega)
  rw [List.length_cons] at h
  obtain ⟨bits, rest, rfl⟩ := List.exists_cons_of_length_pos (l := rest) (by omega)
  rw [List.length_cons] at h
  obtain ⟨n, id, rfl⟩ := List.exists_cons_of_length_pos (l := rest) (by omega)
  exact ⟨t, bits, n, id, rfl⟩

/-- The packet as the parser leaves it, on return and on failure alike. -/
theorem finalState_parseResponse (p : SearchTagPacket) (response : List BYTE) :
    (parseResponse response).finalState p =
      { p with
        packetResponseErrorType :=
          (response.head?.map PacketResponseErrorType.mk).getD p.packetResponseErrorType
        result := (setResult? response).getD p.result
        tagType := ((setHeader? response).getD p.header).tagType
        idBitCount := ((setHeader? response).getD p.header).idBitCount
        idByteCount := ((setHeader? response).getD p.header).idByteCount
        id := (setId? response).getD p.id } := by
  rcases response with _ | ⟨e, _ | ⟨r, rest⟩⟩
  · rfl
  · by_cases he : e = 0
    · subst he
      rfl
    · rw [Prog.finalState_of_error (run_parseResponse_error p he _)]
      rfl
  by_cases hwhole : e = 0 ∧ r ≠ 0 ∧ 3 ≤ rest.length
  · -- the header of a tag is set, and the id unless the check of its length fails
    obtain ⟨rfl, hr, hlength⟩ := hwhole
    obtain ⟨t, bits, n, id, rfl⟩ := exists_eq_cons_of_three_le hlength
    have hrun := run_parseResponse_found p hr t bits n id
    by_cases hn : id.length < n.toNat
    · rw [if_pos hn] at hrun
      rw [Prog.finalState_of_error hrun]
      simp [setResult?, setHeader?, setId?, SearchReply.ofBytes?, hr, Nat.not_le.mpr hn,
        PacketResponseErrorType.errNone]
    · rw [if_neg hn] at hrun
      rw [Prog.finalState_of_ok hrun]
      simp [setResult?, setHeader?, setId?, SearchReply.ofBytes?, hr, Nat.not_lt.mp hn,
        PacketResponseErrorType.errNone]
  · -- at most the result is set
    obtain ⟨hheader, hid⟩ := set_eq_none hwhole
    rw [hheader, hid]
    by_cases he : e = 0
    · subst he
      by_cases hr : r = 0
      · subst hr
        rcases rest with _ | ⟨a, rest⟩
        · rfl
        · rw [Prog.finalState_of_error (run_parseResponse_noTag_cons p a rest)]
          rfl
      · have hlength : rest.length < 3 := by simpa [hr] using hwhole
        rw [Prog.finalState_of_error (run_parseResponse_found_of_length_lt p hr hlength)]
        simp [setResult?, hr, header, PacketResponseErrorType.errNone]
    · rw [Prog.finalState_of_error (run_parseResponse_error p he _)]
      rw [show setResult? (e :: r :: rest) = none from if_neg fun h => he h.1]
      rfl

/-- The parser sets nothing but what replies set. -/
theorem preserves_unparsed (fresh : SearchTagPacket) (response : List BYTE) :
    Prog.Preserves (fun p => p.unparsed = fresh) (parseResponse response) := by
  intro p hp
  rw [finalState_parseResponse]
  exact hp

/-! ### Throwing -/

/-- `response` is cut behind the beginning of a reply about a tag, and `p` does not show what this
beginning says. -/
def StoresHalf (p : SearchTagPacket) (response : List BYTE) : Prop :=
  ∃ r rest, response = 0 :: r :: rest ∧ r ≠ 0 ∧
    ((rest.length < 3 ∧ p.result = false) ∨
      ∃ t bits n id, rest = t :: bits :: n :: id ∧ id.length < n.toNat ∧
        (p.result = false ∨
          p.header ≠ { tagType := .ofByte t, idBitCount := bits, idByteCount := n }))

/-- A response that is no reply changes the packet, but for the error byte, exactly in these
cases. -/
theorem withoutError_finalState_of_none (p : SearchTagPacket) {response : List BYTE}
    (h : SearchReply.ofBytes? response = none) :
    ((parseResponse response).finalState p).withoutError = p.withoutError ↔
      ¬ p.StoresHalf response := by
  have hid : setId? response = none := by rw [setId?, h]
  -- the packet is changed iff its result or its header is
  have hfields : ((parseResponse response).finalState p).withoutError = p.withoutError ↔
      p.result = (setResult? response).getD p.result ∧
        p.header = (setHeader? response).getD p.header := by
    rw [finalState_parseResponse, hid]
    constructor
    · intro heq
      exact ⟨(congrArg SearchTagPacket.result heq).symm, (congrArg header heq).symm⟩
    · rintro ⟨hresult, hheader⟩
      rw [← hresult, ← hheader]
      rfl
  rw [hfields]
  match response with
  | [] | [_] =>
    refine iff_of_true ⟨rfl, rfl⟩ ?_
    rintro ⟨r, rest, heq, -⟩
    cases heq
  | e :: r :: rest =>
    by_cases hfound : e = 0 ∧ r ≠ 0
    · obtain ⟨rfl, hr⟩ := hfound
      have hresult : setResult? (0 :: r :: rest) = some true := by simp [setResult?, hr]
      rw [hresult]
      match rest with
      | [] | [_] | [_, _] => simp [StoresHalf, setHeader?, hr]
      | t :: bits :: n :: id =>
        have hn : id.length < n.toNat := by
          by_contra hn
          simp [SearchReply.ofBytes?, hr, Nat.not_lt.mp hn] at h
        simp [StoresHalf, setHeader?, hr, hn]
    · have hheader : setHeader? (e :: r :: rest) = none :=
        (set_eq_none fun hwhole => hfound ⟨hwhole.1, hwhole.2.1⟩).1
      have hresult : setResult? (e :: r :: rest) = none := by
        apply if_neg
        rintro ⟨rfl, hlast⟩
        -- `[0, 0]` is a reply
        obtain rfl : r = 0 := by simpa using hfound
        obtain rfl : rest = [] := by simpa using hlast
        cases h
      rw [hheader, hresult]
      refine iff_of_true ⟨rfl, rfl⟩ ?_
      rintro ⟨r', rest', heq, hr', -⟩
      cases heq
      exact hfound ⟨rfl, hr'⟩

/-- A response of which a half is stored is no reply. -/
theorem StoresHalf.ofBytes?_eq_none {p : SearchTagPacket} {response : List BYTE}
    (h : p.StoresHalf response) : SearchReply.ofBytes? response = none := by
  obtain ⟨r, rest, rfl, hr, ⟨hlength, -⟩ | ⟨t, bits, n, id, rfl, hn, -⟩⟩ := h
  · match rest, hlength with
    | [], _ => exact if_neg fun hzero => hr hzero.2
    | [_], _ | [_, _], _ => rfl
  · exact dif_neg fun hfound => absurd hfound.2.2 (Nat.not_le.mpr hn)

/-- A call that throws keeps the getters iff it does not store half of a reply. -/
theorem keepsGetters_iff_not_storesHalf (fresh : SearchTagPacket) (history : List (List BYTE))
    (response : List BYTE) :
    Packet.KeepsGetters withoutError parseResponse fresh history response ↔
      ¬ (Prog.runEach parseResponse history fresh).StoresHalf response := by
  constructor
  · intro hkeeps hhalf
    -- the parser throws on such a response
    obtain ⟨p', herror⟩ := run_parseResponse_of_none
      (Prog.runEach parseResponse history fresh) hhalf.ofBytes?_eq_none
    refine (withoutError_finalState_of_none _ hhalf.ofBytes?_eq_none).mp ?_ hhalf
    rw [Prog.finalState_of_error herror]
    exact hkeeps _ p' herror
  · intro hwhole e p' herror
    cases hreply : SearchReply.ofBytes? response with
    | some reply =>
      rw [run_parseResponse_of_some _ hreply] at herror
      cases herror
    | none =>
      rw [← Prog.finalState_of_error herror]
      exact (withoutError_finalState_of_none _ hreply).mpr hwhole

/-! ### Returning -/

/-- What the packet shows of a header and of an id behind the calls of `history` is not as it was
constructed. -/
def LeavesTag (history : List (List BYTE)) : Prop :=
  (∃ shown, history.reverse.findSome? setHeader? = some shown ∧
    shown ≠ { tagType := .noTag, idBitCount := 0, idByteCount := 0 }) ∨
  ∃ id, history.reverse.findSome? setId? = some id ∧ id ≠ []

/-- Behind any calls, the result, the type and the counts are those that were stored last. -/
theorem header_runEach (history : List (List BYTE)) (p : SearchTagPacket) :
    (Prog.runEach parseResponse history p).header =
      (history.reverse.findSome? setHeader?).getD p.header :=
  Prog.get_runEach
    (fun response p => congrArg header (finalState_parseResponse p response)) history p

/-- Behind any calls, the id is the one that was stored last. -/
theorem id_runEach (history : List (List BYTE)) (p : SearchTagPacket) :
    (Prog.runEach parseResponse history p).id =
      (history.reverse.findSome? setId?).getD p.id :=
  Prog.get_runEach
    (fun response p => congrArg SearchTagPacket.id (finalState_parseResponse p response)) history p

/-- A packet shows what it was constructed with iff the history has left nothing else. -/
theorem not_leavesTag_iff (maxIdBytes : BYTE) (history : List (List BYTE)) :
    ¬ LeavesTag history ↔
      (Prog.runEach parseResponse history (new maxIdBytes)).header = (new maxIdBytes).header ∧
        (Prog.runEach parseResponse history (new maxIdBytes)).id = (new maxIdBytes).id := by
  rw [header_runEach, id_runEach, LeavesTag, not_or]
  apply and_congr
  · change _ ↔ _ = (⟨.noTag, 0, 0⟩ : TagHeader)
    rcases history.reverse.findSome? setHeader? with _ | shown
    · exact iff_of_true (by simp) rfl
    · simp
  · rcases history.reverse.findSome? setId? with _ | id
    · exact iff_of_true (by simp) rfl
    · change _ ↔ id = []
      simp

/-- A reply that reports no tag leaves what the packet shows of a tag. -/
theorem parsed_noTag_eq_iff {p q : SearchTagPacket} (h : p.unparsed = q.unparsed) :
    p.parsed .noTag = q.parsed .noTag ↔ p.header = q.header ∧ p.id = q.id := by
  have hparsed (p : SearchTagPacket) : p.parsed .noTag = { p.unparsed with
      tagType := p.header.tagType, idBitCount := p.header.idBitCount
      idByteCount := p.header.idByteCount, id := p.id } := rfl
  constructor
  · intro heq
    have hheader : (p.parsed .noTag).header = (q.parsed .noTag).header := congrArg header heq
    have hid : (p.parsed .noTag).id = (q.parsed .noTag).id := congrArg SearchTagPacket.id heq
    exact ⟨hheader, hid⟩
  · rintro ⟨hheader, hid⟩
    rw [hparsed, hparsed, h, hheader, hid]

/-- The packet reflects the last reply unless that says 'no tag' and an earlier one left its tag. -/
theorem reflectsLastReply_iff_not_leavesTag (maxIdBytes : BYTE) (history : List (List BYTE))
    (last : List BYTE) :
    Packet.ReflectsLastReply parseResponse (new maxIdBytes) history last ↔
      (last = [0, 0] → ¬ LeavesTag history) := by
  set p := Prog.runEach parseResponse history (new maxIdBytes)
  have hunparsed : p.unparsed = (new maxIdBytes).unparsed :=
    Prog.runEach_invariant (preserves_unparsed _) history rfl
  -- both packets take the same reply, if any
  have hreflects : Packet.ReflectsLastReply parseResponse (new maxIdBytes) history last ↔
      ∀ reply, SearchReply.ofBytes? last = some reply →
        p.parsed reply = (new maxIdBytes).parsed reply := by
    simp only [Packet.ReflectsLastReply, run_parseResponse_eq_ok_iff]
    constructor
    · intro h reply hreply
      obtain ⟨reply', hreply', heq⟩ := h _ ⟨reply, hreply, rfl⟩
      rw [hreply] at hreply'
      cases hreply'
      exact heq.symm
    · rintro h p' ⟨reply, hreply, rfl⟩
      exact ⟨reply, hreply, (h reply hreply).symm⟩
  rw [hreflects]
  constructor
  · rintro hall rfl
    rw [not_leavesTag_iff maxIdBytes, ← parsed_noTag_eq_iff hunparsed]
    exact hall .noTag rfl
  · intro hlast reply hreply
    cases reply with
    | noTag =>
      rw [parsed_noTag_eq_iff hunparsed, ← not_leavesTag_iff]
      exact hlast (SearchReply.ofBytes?_eq_noTag_iff.mp hreply)
    | tag t bits n id hn =>
      -- a tag sets every field
      change p.unparsed.parsed (.tag t bits n id hn) = _
      rw [hunparsed]
      rfl

end SearchTagPacket

/-! ## The other packets -/

namespace SetTagTypesPacket

/-- The packet less its error byte, which is the packet before it parsed anything. -/
def withoutError (p : SetTagTypesPacket) : SetTagTypesPacket :=
  { p with packetResponseErrorType := .errNone }

/-- The parser sets nothing but the error byte. -/
theorem preserves_withoutError (fresh : SetTagTypesPacket) (response : List BYTE) :
    Prog.Preserves (fun p => p.withoutError = fresh) (parseResponse response) := by
  refine Prog.preserves_bind (Prog.preserves_onField
    (Packet.preserves_withoutError fresh.toPacket response) ?_ ?_) fun _ =>
      Prog.preserves_ite (Prog.preserves_raise _) (Prog.preserves_pure _)
  · rintro p rfl
    rfl
  · rintro p base rfl hbase
    exact congrArg (fun base => { p with toPacket := base }) hbase

/-- The parser accepts a single zero byte. -/
theorem run_parseResponse_eq_ok_iff {p p' : SetTagTypesPacket} {response : List BYTE} :
    (parseResponse response).run p = .ok () p' ↔ response = [0] ∧ p.withoutError = p' := by
  constructor
  · intro h
    match response with
    | [] => cases h
    | e :: rest =>
      obtain ⟨_, p₁, hfield, h⟩ := Prog.run_bind_eq_ok.mp h
      obtain ⟨base, hbase, rfl⟩ := Prog.run_onField_eq_ok.mp hfield
      by_cases he : e = 0
      · subst he
        cases hbase
        rw [Prog.run_ite] at h
        split_ifs at h with hlength
        · cases h
        · obtain rfl : rest = [] := by simpa using hlength
          cases h
          exact ⟨rfl, rfl⟩
      · rw [Packet.run_parseResponse_error he] at hbase
        cases hbase
  · rintro ⟨rfl, rfl⟩
    rfl

/-- A call that throws changes nothing but the response error. -/
theorem keepsGetters (fresh : SetTagTypesPacket) (history : List (List BYTE))
    (response : List BYTE) :
    Packet.KeepsGetters withoutError parseResponse fresh history response := by
  intro e p' herror
  rw [← Prog.finalState_of_error herror]
  exact preserves_withoutError _ response _ rfl

/-- The packet holds nothing of its replies, so it reflects the last. -/
theorem reflectsLastReply (lf hf : TagType) (history : List (List BYTE)) (last : List BYTE) :
    Packet.ReflectsLastReply parseResponse (new lf hf) history last := by
  refine Packet.reflectsLastReply_of_unparsed withoutError rfl
    (preserves_withoutError _) (fun p p' h => ?_) history
  rw [run_parseResponse_eq_ok_iff] at h ⊢
  exact h

end SetTagTypesPacket

namespace ISO14443_4_TDX_Packet

/-- The packet less its error byte. -/
def withoutError (p : ISO14443_4_TDX_Packet) : ISO14443_4_TDX_Packet :=
  { p with packetResponseErrorType := .errNone }

/-- The packet before it parsed anything. -/
def unparsed (p : ISO14443_4_TDX_Packet) : ISO14443_4_TDX_Packet :=
  { p with
    packetResponseErrorType := .errNone, result := false, actualResponseSize := 0
    response := [] }

/-- The parser sets nothing but what replies set. -/
theorem preserves_unparsed (fresh : ISO14443_4_TDX_Packet) (response : List BYTE) :
    Prog.Preserves (fun p => p.unparsed = fresh) (parseResponse response) := by
  refine Prog.preserves_bind (Prog.preserves_onField
    (Packet.preserves_withoutError fresh.toPacket response) ?_ ?_) fun _ =>
      Prog.preserves_ite (Prog.preserves_raise _) ?_
  · rintro p rfl
    rfl
  · rintro p base rfl hbase
    exact congrArg (fun base => { p.unparsed with toPacket := base }) hbase
  -- the fields behind the checks
  refine Prog.preserves_bind (Prog.preserves_lift _) fun result => ?_
  refine Prog.preserves_bind (Prog.preserves_modify fun _ hp => hp) fun _ => ?_
  refine Prog.preserves_bind (Prog.preserves_lift _) fun size => ?_
  refine Prog.preserves_bind (Prog.preserves_modify fun _ hp => hp) fun _ => ?_
  refine Prog.preserves_bind Prog.preserves_get fun p => ?_
  refine Prog.preserves_bind (Prog.preserves_lift _) fun bytes => ?_
  exact Prog.preserves_modify fun _ hp => hp

/-- The size is tested before anything is stored. -/
theorem keepsGetters (fresh : ISO14443_4_TDX_Packet) (history : List (List BYTE))
    (response : List BYTE) :
    Packet.KeepsGetters withoutError parseResponse fresh history response := by
  intro e p' herror
  cases hreply : TdxReply.ofBytes? response with
  | some reply =>
    rw [run_parseResponse_of_some _ hreply] at herror
    cases herror
  | none =>
    by_cases hoverrun : TdxReply.Overruns response
    · -- a read outside the response is no exception
      obtain ⟨p'', hfault⟩ := run_parseResponse_of_overruns _ hoverrun
      rw [hfault] at herror
      cases herror
    · obtain ⟨error, hthrows⟩ := run_parseResponse_of_none _ hreply hoverrun
      rw [hthrows] at herror
      cases herror
      rfl

/-- Each reply sets all members. -/
theorem reflectsLastReply (payloadSize : BYTE) (payload : Str) (maximumResponseSize : BYTE)
    (history : List (List BYTE)) (last : List BYTE) :
    Packet.ReflectsLastReply parseResponse (new payloadSize payload maximumResponseSize)
      history last := by
  refine Packet.reflectsLastReply_of_unparsed unparsed rfl
    (preserves_unparsed _) (fun p p' h => ?_) history
  rw [run_parseResponse_eq_ok_iff] at h ⊢
  exact h

end ISO14443_4_TDX_Packet

/-! ## All packets -/

namespace Packet

/-- After every history of calls and on every response: if the parser throws, every getter but that
of the error byte shows what it showed before. `SearchTagPacket` does so exactly if the response is
not cut behind the beginning of a reply about a tag that the packet does not show; the other classes
always do. -/
theorem keepsGetters_iff (history : List (List BYTE)) (response : List BYTE) :
    (∀ maxIdBytes : BYTE,
      KeepsGetters SearchTagPacket.withoutError SearchTagPacket.parseResponse (.new maxIdBytes)
        history response ↔
      ¬ (Prog.runEach SearchTagPacket.parseResponse history (.new maxIdBytes)).StoresHalf
        response) ∧
    (∀ lf hf : TagType,
      KeepsGetters SetTagTypesPacket.withoutError SetTagTypesPacket.parseResponse (.new lf hf)
        history response) ∧
    ∀ (payloadSize : BYTE) (payload : Str) (maximumResponseSize : BYTE),
      KeepsGetters ISO14443_4_TDX_Packet.withoutError ISO14443_4_TDX_Packet.parseResponse
        (.new payloadSize payload maximumResponseSize) history response :=
  ⟨fun _ => SearchTagPacket.keepsGetters_iff_not_storesHalf _ history response,
    fun _ _ => SetTagTypesPacket.keepsGetters _ history response,
    fun _ _ _ => ISO14443_4_TDX_Packet.keepsGetters _ history response⟩

/-- A fresh packet takes the result from a reply that ends behind it. -/
theorem not_keepsGetters_cut :
    ¬ ∀ (maxIdBytes : BYTE) (history : List (List BYTE)) (response : List BYTE),
      KeepsGetters SearchTagPacket.withoutError SearchTagPacket.parseResponse (.new maxIdBytes)
        history response := by
  intro hall
  have hresult := congrArg SearchTagPacket.result (hall 16 [] [0x00, 0x01] _ _ rfl)
  exact absurd hresult (by decide)

/-- After every history of calls: if the parser returns on the last response, the packet shows what
a fresh one shows that parsed this response only. `SearchTagPacket` does so exactly if the response
is not the one about no tag, or nothing of a tag is left of the history; the other classes always
do. -/
theorem reflectsLastReply_iff (history : List (List BYTE)) (last : List BYTE) :
    (∀ maxIdBytes : BYTE,
      ReflectsLastReply SearchTagPacket.parseResponse (.new maxIdBytes) history last ↔
      (last = [0, 0] → ¬ SearchTagPacket.LeavesTag history)) ∧
    (∀ lf hf : TagType,
      ReflectsLastReply SetTagTypesPacket.parseResponse (.new lf hf) history last) ∧
    ∀ (payloadSize : BYTE) (payload : Str) (maximumResponseSize : BYTE),
      ReflectsLastReply ISO14443_4_TDX_Packet.parseResponse
        (.new payloadSize payload maximumResponseSize) history last :=
  ⟨fun maxIdBytes => SearchTagPacket.reflectsLastReply_iff_not_leavesTag maxIdBytes history last,
    fun lf hf => SetTagTypesPacket.reflectsLastReply lf hf history last,
    fun payloadSize payload maximumResponseSize =>
      ISO14443_4_TDX_Packet.reflectsLastReply payloadSize payload maximumResponseSize history last⟩

/-- The id of a card is still there when the next search finds none. -/
theorem not_reflectsLastReply_removed :
    ¬ ∀ (maxIdBytes : BYTE) (history : List (List BYTE)) (last : List BYTE),
      ReflectsLastReply SearchTagPacket.parseResponse (.new maxIdBytes) history last := by
  intro hall
  have hfresh := hall 16 [[0x00, 0x01, 0x80, 0x20, 0x04, 0x69, 0xB9, 0x01, 0x52]] [0x00, 0x00] _ rfl
  have hpacket := Prog.finalState_of_ok hfresh
  exact absurd (congrArg SearchTagPacket.id hpacket) (by decide)

end Packet

end DoorAcs
