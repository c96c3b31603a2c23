import DoorAcs.SerialPort.Script

/-!
# The exchange protocol of a poll

On a script of replies, the texts decide everything: which frames `GetID` writes
(`Conversation.framesOf`) and which conversation it has (`Conversation.ofTexts?`).
`Reader.getID_follows_protocol` says so on the bytes the texts decode to.
-/

namespace DoorAcs

open Cpp

/-! ## Conversations as functions of the texts -/

/-- What the replies `s₂` and `s₃` to SELECT FILE and GET RESPONSE come to. A reply to a frame that
is not written plays no part. -/
def HceAttempt.ofTexts? (s₂ s₃ : Str) : Option HceAttempt :=
  (ApduReply.ofText? s₂).bind fun
    | none => some .notSelected
    | some select =>
      if select.IsOk then (ApduReply.ofText? s₃).map fun
        | none => .unanswered
        | some reply => .answered reply
      else some .notSelected

/-- The frames written behind the search when the reply to SELECT FILE is `s₂`. -/
def HceAttempt.framesOf (s₂ : Str) : List Str :=
  match ApduReply.ofText? s₂ with
  | some (some select) =>
    if select.IsOk then [selectFileFrame, getResponseFrame] else [selectFileFrame]
  | _ => [selectFileFrame]

/-- What the replies `s₁`, `s₂` and `s₃` come to. -/
def Conversation.ofTexts? (s₁ s₂ s₃ : Str) : Option Conversation :=
  (SearchReply.ofText? s₁).bind fun
    | .noTag => some .noTag
    | .tag _ _ _ uid _ => (HceAttempt.ofTexts? s₂ s₃).map (.tag uid)

/-- The frames written when the first two replies are `s₁` and `s₂`. -/
def Conversation.framesOf (s₁ s₂ : Str) : List Str :=
  match SearchReply.ofText? s₁ with
  | some (.tag ..) => searchFrame :: HceAttempt.framesOf s₂
  | _ => [searchFrame]

namespace Script

variable (counts : Stream' ℕ) (replies : Stream' Str)

/-- The exchanges with the HCE service take two replies and write the frames that the first asks
for. -/
theorem exists_run_askHce_replying (log : List PortEvent) :
    ∃ q, port.askHce.run (replying counts replies log) =
        (Spec.ofOption (HceAttempt.ofTexts? (replies.get 0) (replies.get 1))).run q ∧
      PortEvent.frames q.log = PortEvent.frames log ++ HceAttempt.framesOf (replies.get 0) := by
  -- the frame of SELECT FILE is written in every case
  have hselect : PortEvent.frames (log ++ exchangeLog selectFileFrame counts.head replies.head) =
      PortEvent.frames log ++ [selectFileFrame] := frames_append_exchangeLog ..
  rw [SerialPort.askHce, EStateM.run_bind, run_askCard_replying, HceAttempt.ofTexts?,
    HceAttempt.framesOf]
  cases hcard : ApduReply.ofText? (replies.get 0) with
  | none => exact ⟨_, rfl, hselect⟩
  | some answer =>
    rw [Spec.run_ofOption_some, Option.bind_some]
    cases answer with
    | none => exact ⟨_, rfl, hselect⟩
    | some select =>
      dsimp only
      by_cases hok : select.IsOk
      · -- GET RESPONSE follows, and no frame behind it
        rw [if_pos hok, if_pos hok, if_pos hok, EStateM.run_bind, run_askCard_replying]
        refine ⟨replying counts.tail.tail replies.tail.tail
          (log ++ exchangeLog selectFileFrame counts.head replies.head ++
            exchangeLog getResponseFrame counts.tail.head replies.tail.head), ?_, ?_⟩
        · change _ = (Spec.ofOption ((ApduReply.ofText? replies.tail.head).map _)).run _
          cases ApduReply.ofText? replies.tail.head with
          | none => rfl
          | some answer => rcases answer with _ | last <;> rfl
        · rw [log_replying, frames_append_exchangeLog, hselect, List.append_assoc,
            List.singleton_append]
      · rw [if_neg hok, if_neg hok, if_neg hok]
        exact ⟨_, rfl, hselect⟩

/-- On a script of replies the conversation is the one of its first three texts. -/
theorem exists_run_converse_replying :
    ∃ q, port.converse.run (replying counts replies []) =
        (Spec.ofOption (Conversation.ofTexts? (replies.get 0) (replies.get 1)
          (replies.get 2))).run q ∧
      PortEvent.frames q.log = Conversation.framesOf (replies.get 0) (replies.get 1) := by
  rw [SerialPort.converse, EStateM.run_bind, run_askSearch_replying, Conversation.ofTexts?,
    Conversation.framesOf]
  cases hsearch : SearchReply.ofText? (replies.get 0) with
  | none => exact ⟨_, rfl, rfl⟩
  | some reply =>
    rw [Spec.run_ofOption_some, Option.bind_some]
    cases reply with
    | noTag => exact ⟨_, rfl, rfl⟩
    | tag tagType idBitCount idByteCount uid enough =>
      -- the rest of the conversation runs on the rest of the script
      dsimp only
      obtain ⟨q, hrun, hframes⟩ := exists_run_askHce_replying counts.tail replies.tail
        ([] ++ exchangeLog searchFrame counts.head replies.head)
      refine ⟨q, ?_, hframes⟩
      rw [EStateM.run_bind, hrun]
      change _ = (Spec.ofOption ((HceAttempt.ofTexts? (replies.tail.get 0)
        (replies.tail.get 1)).map _)).run _
      rcases HceAttempt.ofTexts? (replies.tail.get 0) (replies.tail.get 1) with _ | hce <;> rfl

variable {replies} in
/-- If the first three texts come to a conversation, it is held. -/
theorem exists_run_converse_of_ofTexts? {conversation : Conversation}
    (h : Conversation.ofTexts? (replies.get 0) (replies.get 1) (replies.get 2) =
      some conversation) :
    ∃ q, port.converse.run (replying counts replies []) = .ok conversation q := by
  obtain ⟨q, hconverse, -⟩ := exists_run_converse_replying counts replies
  rw [h, Spec.run_ofOption_some] at hconverse
  exact ⟨q, hconverse⟩

end Script

/-! ## The protocol on the bytes of the replies -/

/-- The text decodes to a search reply that reports a tag. -/
def FindsTag (s₁ : Str) : Prop :=
  ∃ r t bits n id, hexStringToBytes s₁ = .ok (0 :: r :: t :: bits :: n :: id) ∧ r ≠ 0 ∧
    n.toNat ≤ id.length

/-- The text decodes to `[00, r, n]` with `r ≠ 0` and at least `n ≥ 2` bytes behind it, of which the
last two of the first `n` are `90 00`. -/
def SelectsService (s₂ : Str) : Prop :=
  ∃ r n rest, hexStringToBytes s₂ = .ok (0 :: r :: n :: rest) ∧ r ≠ 0 ∧ 2 ≤ n.toNat ∧
    n.toNat ≤ rest.length ∧ rest[n.toNat - 2]? = some 0x90 ∧ rest[n.toNat - 1]? = some 0

/-- The packet of GET RESPONSE takes the text, and its result is then false. -/
def ReportsFailure (s₃ : Str) : Prop :=
  ∃ bytes packet, hexStringToBytes s₃ = .ok bytes ∧
    (ISO14443_4_TDX_Packet.parseResponse bytes).run (apduPacket GetResponseAPDUCommand.new) =
      .ok () packet ∧ packet.result = false

/-- The strings that report a tag. -/
theorem findsTag_iff {s₁ : Str} :
    FindsTag s₁ ↔ ∃ t bits n id enough,
      SearchReply.ofText? s₁ = some (.tag t bits n id enough) := by
  simp only [FindsTag, hexStringToBytes_eq_ok_iff, SearchReply.ofText?, Option.bind_eq_some_iff,
    SearchReply.ofBytes?_eq_tag_iff]
  constructor
  · rintro ⟨r, t, bits, n, id, hdecode, hr, hn⟩
    exact ⟨t, bits, n, id, hn, _, hdecode, r, hr, rfl⟩
  · rintro ⟨t, bits, n, id, hn, _, hdecode, r, hr, rfl⟩
    exact ⟨r, t, bits, n, id, hdecode, hr, hn⟩

/-- The strings that select the HCE service. -/
theorem selectsService_iff {s₂ : Str} :
    SelectsService s₂ ↔ ∃ select, ApduReply.ofText? s₂ = some (some select) ∧ select.IsOk := by
  rw [ApduReply.exists_ofText?_isOk_iff, SelectsService]
  simp only [hexStringToBytes_eq_ok_iff]

/-- A string that reports a failed exchange has no answer in it. -/
theorem ofText?_of_reportsFailure {s₃ : Str} (h : ReportsFailure s₃) :
    ApduReply.ofText? s₃ = some none := by
  obtain ⟨bytes, packet, hdecode, hparse, hresult⟩ := h
  obtain ⟨reply, hreply, rfl⟩ := ISO14443_4_TDX_Packet.run_parseResponse_eq_ok_iff.mp hparse
  have hfailed : reply.success = false := hresult
  rw [ApduReply.ofText?, hexStringToBytes_eq_ok_iff.mp hdecode, Option.bind_some,
    ApduReply.ofBytes?, hreply, Option.bind_some, hfailed, if_neg Bool.false_ne_true]

/-- The frames written, in the three cases. -/
theorem Conversation.framesOf_eq (s₁ s₂ : Str) [Decidable (FindsTag s₁)]
    [Decidable (SelectsService s₂)] :
    framesOf s₁ s₂ =
      if FindsTag s₁ then
        if SelectsService s₂ then [searchFrame, selectFileFrame, getResponseFrame]
        else [searchFrame, selectFileFrame]
      else [searchFrame] := by
  -- behind the search, the reply to SELECT FILE decides
  have hservice : HceAttempt.framesOf s₂ =
      if SelectsService s₂ then [selectFileFrame, getResponseFrame] else [selectFileFrame] := by
    unfold HceAttempt.framesOf
    split
    · next select hselect =>
      have hiff : SelectsService s₂ ↔ select.IsOk := by simp [selectsService_iff, hselect]
      simp only [hiff]
    · next hselect =>
      have hnot : ¬ SelectsService s₂ := by
        rw [selectsService_iff]
        rintro ⟨select, hsome, -⟩
        exact hselect select hsome
      rw [if_neg hnot]
  unfold framesOf
  split
  · next t bits n id enough hsearch =>
    rw [if_pos (findsTag_iff.mpr ⟨t, bits, n, id, enough, hsearch⟩), hservice]
    split <;> rfl
  · next hsearch =>
    have hnot : ¬ FindsTag s₁ := by
      rw [findsTag_iff]
      rintro ⟨t, bits, n, id, enough, htag⟩
      exact hsearch _ _ _ _ _ htag
    rw [if_neg hnot]

/-- The id of a conversation without an answer to GET RESPONSE is the one of the search reply. -/
theorem Conversation.exists_parsed_of_ofTexts? {s₁ s₂ s₃ : Str} {conversation : Conversation}
    (h : ofTexts? s₁ s₂ s₃ = some conversation)
    (hunanswered : ¬ (FindsTag s₁ ∧ SelectsService s₂) ∨ ReportsFailure s₃) :
    ∃ reply, SearchReply.ofText? s₁ = some reply ∧
      conversation.id = ((SearchTagPacket.new 16).parsed reply).id := by
  obtain ⟨reply, hreply, h⟩ := Option.bind_eq_some_iff.mp h
  refine ⟨reply, hreply, ?_⟩
  cases reply with
  | noTag =>
    cases h
    rfl
  | tag t bits n uid enough =>
    obtain ⟨hce, hhce, rfl⟩ := Option.map_eq_some_iff.mp h
    cases hce with
    | notSelected | unanswered => rfl
    | answered reply =>
      -- an answer came behind a selected service, and not from a failed exchange
      obtain ⟨answer, hanswer, hhce⟩ := Option.bind_eq_some_iff.mp hhce
      exfalso
      cases answer with
      | none => cases hhce
      | some select =>
        dsimp only at hhce
        split at hhce
        · next hok =>
          obtain ⟨last, hlast, heq⟩ := Option.map_eq_some_iff.mp hhce
          rcases hunanswered with hnot | hfailure
          · exact hnot ⟨findsTag_iff.mpr ⟨t, bits, n, uid, enough, hreply⟩,
              selectsService_iff.mpr ⟨select, hanswer, hok⟩⟩
          · rw [ofText?_of_reportsFailure hfailure] at hlast
            cases hlast
            cases heq
        · cases hhce

namespace Reader

/-- On every script of replies, the frames `GetID` writes are a prefix of search, SELECT FILE and
GET RESPONSE (`frames_eq` spells them out). It writes SELECT FILE iff the first reply reports a tag,
and GET RESPONSE iff besides the second one ends its payload with the status word 9000. The id it
returns without having written GET RESPONSE, or when the exchange of GET RESPONSE failed, is the one
parsed from the first reply. -/
theorem getID_follows_protocol (counts : Stream' ℕ) (replies : Stream' Str) (r : Reader Script) :
    let r₀ : Reader Script := { r with serialPort := .replying counts replies [] }
    let frames := PortEvent.frames ((getID Script.port).finalState r₀).serialPort.log
    frames <+: [searchFrame, selectFileFrame, getResponseFrame] ∧
    (selectFileFrame ∈ frames ↔ FindsTag (replies.get 0)) ∧
    (getResponseFrame ∈ frames ↔ FindsTag (replies.get 0) ∧ SelectsService (replies.get 1)) ∧
    ∀ id r', (getID Script.port).run r₀ = .ok id r' →
      getResponseFrame ∉ frames ∨ ReportsFailure (replies.get 2) →
      ∃ bytes packet, hexStringToBytes (replies.get 0) = .ok bytes ∧
        (SearchTagPacket.parseResponse bytes).run (.new 16) = .ok () packet ∧
        id = packet.id ∧ (packet.result = false → id = []) := by
  classical
  intro r₀ frames
  obtain ⟨q, hconverse, hlog⟩ := Script.exists_run_converse_replying counts replies
  -- `GetID` leaves the port, and with it the log, as the conversation does, also when it fails
  have hframes : frames = Conversation.framesOf (replies.get 0) (replies.get 1) := by
    rw [← hlog, ← Spec.finalState_of_run_ofOption hconverse]
    exact congrArg (PortEvent.frames ·.log) (refines_getID.view_finalState r₀)
  obtain ⟨hne1, hne2, hne3⟩ : searchFrame ≠ selectFileFrame ∧
      searchFrame ≠ getResponseFrame ∧ selectFileFrame ≠ getResponseFrame := by
    obtain ⟨hsearch, hselect, hget⟩ := frames_eq
    rw [hsearch, hselect, hget]
    decide
  have hresponse : getResponseFrame ∈ frames ↔
      FindsTag (replies.get 0) ∧ SelectsService (replies.get 1) := by
    rw [hframes, Conversation.framesOf_eq]
    split_ifs with htag hselect <;> simp [hne2.symm, hne3.symm, *]
  refine ⟨?_, ?_, hresponse, fun id r' hrun hunanswered => ?_⟩
  · rw [hframes, Conversation.framesOf_eq]
    split_ifs <;> simp
  · rw [hframes, Conversation.framesOf_eq]
    split_ifs with htag hselect <;> simp [htag, hne1.symm]
  · obtain ⟨conversation, hspec, rfl⟩ := refines_getID.of_run_eq_ok hrun
    rw [show r₀.serialPort = .replying counts replies [] from rfl, hconverse,
      Spec.run_ofOption_eq_ok] at hspec
    rw [hresponse] at hunanswered
    obtain ⟨reply, hreply, hid⟩ :=
      Conversation.exists_parsed_of_ofTexts? hspec.1 hunanswered
    obtain ⟨bytes, hdecode, hbytes⟩ := Option.bind_eq_some_iff.mp hreply
    refine ⟨bytes, _, hexStringToBytes_of_decode hdecode,
      SearchTagPacket.run_parseResponse_of_some _ hbytes, hid, fun hresult => ?_⟩
    cases reply with
    | noTag => exact hid
    | tag => cases hresult

end Reader

end DoorAcs
