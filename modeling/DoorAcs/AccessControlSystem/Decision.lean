import DoorAcs.AccessControlSystem.Poll
import DoorAcs.Reader.Protocol

/-!
# Which id opens the door

The decisions of a run in terms of what the reader device and the card said in each poll. The
statements are about every serial port and every run of the main loop over it.

* `grantsOnlyGenuine_iff`: access is granted to genuine ids only, exactly if no poll meets a card
  that answers GET RESPONSE with data and a status word other than 9000.
* `settlesCredential_iff`: every tag gets a verdict, exactly if no poll meets a tag without bytes
  to decide on.
-/

namespace DoorAcs

open Cpp

variable {π : Type} {port : SerialPort π}

namespace AccessControlSystem

variable {s₀ s : AccessControlSystem π}

/-! ## Granting access -/

variable (port) in
/-- `id` is genuine in a poll that finds the port in state `q`: it is the UID in the reply to the
search and no HCE id was obtained, or it is the data of the answer to GET RESPONSE, where the
answers to SELECT FILE and to GET RESPONSE both had the status word 9000. -/
inductive Genuine (q : π) (id : Str) : Prop where
  | uid {t bits n uid enough q₁}
      (hsearch : port.askSearch.run q = .ok (.tag t bits n uid enough) q₁)
      (hnone : ∀ reply q₂, port.askHce.run q₁ ≠ .ok (.answered reply) q₂)
      (hid : id = Hex.encode uid)
  | hce {t bits n uid enough q₁ select q₂ reply q₃}
      (hsearch : port.askSearch.run q = .ok (.tag t bits n uid enough) q₁)
      (hselect : (port.askCard selectFileFrame).run q₁ = .ok (some select) q₂)
      (hselectOk : select.IsOk)
      (hresponse : (port.askCard getResponseFrame).run q₂ = .ok (some reply) q₃)
      (hresponseOk : reply.IsOk)
      (hid : id = Hex.encode reply.data)

variable (port) in
/-- The card answers GET RESPONSE with an accepted id and a status word other than 9000. -/
def UncheckedStatus (ids : Finset Str) (q : π) : Prop :=
  ∃ uid reply q', port.converse.run q = .ok (.tag uid (.answered reply)) q' ∧
    ¬ reply.IsOk ∧ reply.data ≠ [] ∧ Hex.encode reply.data ∈ ids

/-- The accepted ids never change. -/
theorem preserves_accessGrantedIds (ids : Finset Str) :
    Prog.Preserves (fun s : AccessControlSystem π => s.accessGrantedIds = ids) (poll port) := by
  -- a poll works on the reader alone
  have honReader {α : Type} (m : Prog Exception (Reader π) α) :
      Prog.Preserves (fun s : AccessControlSystem π => s.accessGrantedIds = ids) (onReader m) :=
    Prog.preserves_onField (J := fun _ => True) (fun _ _ => trivial) (fun _ _ => trivial)
      fun _ _ h _ => h
  exact preserves_poll (honReader _) (honReader _) fun _ => honReader _

/-- The id of a conversation is genuine unless the status word of GET RESPONSE says otherwise. -/
theorem genuine_iff {q q' : π} {uid : List BYTE} {hce : HceAttempt}
    (h : port.converse.run q = .ok (.tag uid hce) q') :
    Genuine port q (Conversation.tag uid hce).id ↔ ∀ reply, hce = .answered reply → reply.IsOk := by
  obtain ⟨t, bits, n, enough, q₁, hsearch, hhce⟩ := SerialPort.run_converse_eq_tag_iff.mp h
  constructor
  · rintro hgenuine reply rfl
    obtain ⟨select, q₂, hselect, hok, hresponse⟩ := SerialPort.run_askHce_eq_answered_iff.mp hhce
    cases hgenuine with
    | uid hsearch' hnone hid =>
      -- an HCE id was obtained
      rw [hsearch] at hsearch'
      cases hsearch'
      exact absurd hhce (hnone reply q')
    | hce hsearch' hselect' hselectOk hresponse' hresponseOk hid =>
      -- the port is a function of its state, so both tell of the same answer
      rw [hsearch] at hsearch'
      cases hsearch'
      rw [hselect] at hselect'
      cases hselect'
      rw [hresponse] at hresponse'
      cases hresponse'
      exact hresponseOk
  · intro hok
    cases hce with
    | notSelected | unanswered => exact .uid hsearch (by simp [hhce]) rfl
    | answered reply =>
      obtain ⟨select, q₂, hselect, hselectOk, hresponse⟩ :=
        SerialPort.run_askHce_eq_answered_iff.mp hhce
      exact .hce hsearch hselect hselectOk hresponse (hok reply rfl) rfl

/-- A poll grants access to a genuine id only, exactly if its card does not answer GET RESPONSE with
an accepted id and another status word than 9000. -/
theorem poll_grantsOnlyGenuine_iff (s : AccessControlSystem π) :
    (.accessGranted ∈ printed port s →
      ∃ id r', (Reader.getID port).run s.reader = .ok id r' ∧ id ∈ s.accessGrantedIds ∧
        Genuine port s.reader.serialPort id) ↔
    ¬ UncheckedStatus port s.accessGrantedIds s.reader.serialPort := by
  rw [accessGranted_mem_printed_iff]
  constructor
  · -- on such an answer `GetID` returns its data, which is accepted and not genuine
    rintro hgenuine ⟨uid, reply, q', hconverse, hbad, hdata, hmem⟩
    obtain ⟨id, r', hrun, _, hid⟩ := Reader.refines_getID.exists_run hconverse
    subst hid
    have hne : (Conversation.tag uid (.answered reply)).id ≠ [] :=
      fun h => hdata (Hex.encode_eq_nil_iff.mp h)
    obtain ⟨id', r'', hrun', -, hid⟩ := hgenuine ⟨_, r', hrun, hne, hmem⟩
    rw [hrun] at hrun'
    cases hrun'
    exact hbad ((genuine_iff hconverse).mp hid reply rfl)
  · -- an id that `GetID` returns is the one of a conversation about a tag
    rintro hchecked ⟨id, r', hrun, hne, hmem⟩
    refine ⟨id, r', hrun, hmem, ?_⟩
    obtain ⟨conversation, hconverse, rfl⟩ := Reader.refines_getID.of_run_eq_ok hrun
    cases conversation with
    | noTag => exact absurd rfl hne
    | tag uid hce =>
      rw [genuine_iff hconverse]
      rintro reply rfl
      by_contra hbad
      exact hchecked ⟨uid, reply, _, hconverse, hbad,
        fun h => hne (Hex.encode_eq_nil_iff.mpr h), hmem⟩

/-- In every run of the main loop: access is granted only to accepted and genuine ids, exactly if in
no poll a card answers GET RESPONSE with an accepted id and another status word than 9000. -/
theorem grantsOnlyGenuine_iff (port : SerialPort π) (s₀ : AccessControlSystem π) :
    (∀ s, BeginsPoll port s₀ s → .accessGranted ∈ printed port s →
      ∃ id r', (Reader.getID port).run s.reader = .ok id r' ∧ id ∈ s₀.accessGrantedIds ∧
        Genuine port s.reader.serialPort id) ↔
    ∀ s, BeginsPoll port s₀ s → ¬ UncheckedStatus port s₀.accessGrantedIds s.reader.serialPort := by
  -- poll by poll, with the accepted ids of the start
  refine forall_congr' fun s => forall_congr' fun hbegins => ?_
  have hids : s.accessGrantedIds = s₀.accessGrantedIds :=
    hbegins.1.invariant (I := fun s => s.accessGrantedIds = s₀.accessGrantedIds) rfl
      (preserves_accessGrantedIds _)
  rw [← hids]
  exact poll_grantsOnlyGenuine_iff s

/-- A card with the UID 01020304 answers GET RESPONSE with an accepted id and the status word
6F00. -/
def forgedReplies : Stream' Str :=
  Stream'.cons "000180200401020304\r".toList
    (Stream'.cons "0001029000\r".toList (Stream'.const "000104A0016F00\r".toList))

/-- The card opens the door. -/
theorem not_grantsOnlyGenuine_forgedReplies :
    ¬ ∀ (s₀ s : AccessControlSystem Script), BeginsPoll Script.port s₀ s →
      .accessGranted ∈ printed Script.port s →
      ∃ id r', (Reader.getID Script.port).run s.reader = .ok id r' ∧ id ∈ s₀.accessGrantedIds ∧
        Genuine Script.port s.reader.serialPort id := by
  intro hall
  let s : AccessControlSystem Script :=
    { start (.replying (Stream'.const 7) forgedReplies []) with isRunning := true }
  have htexts : Conversation.ofTexts? (forgedReplies.get 0) (forgedReplies.get 1)
      (forgedReplies.get 2) =
        some (.tag [1, 2, 3, 4] (.answered ⟨[0xA0, 0x01], 0x6F, 0x00⟩)) := by decide
  -- the first poll has this conversation
  obtain ⟨q, hconverse⟩ := Script.exists_run_converse_of_ofTexts? (Stream'.const 7) htexts
  have hunchecked : UncheckedStatus Script.port s.accessGrantedIds s.reader.serialPort :=
    ⟨_, _, q, hconverse, by decide, by decide, by decide⟩
  exact (poll_grantsOnlyGenuine_iff s).mp (hall s s ⟨.refl, rfl⟩) hunchecked

/-! ## A verdict for every tag -/

section Verdict

variable (port)

/-- The reply to the search is `[00, 00]`. -/
def ReportsNoTag (q : π) : Prop := ∃ q', (port.ask searchFrame).run q = .ok [0, 0] q'

/-- The reply to the search reports a tag. -/
def ReportsTag (q : π) : Prop :=
  ∃ t bits n uid enough q', port.askSearch.run q = .ok (.tag t bits n uid enough) q'

/-- There is a tag but nothing to decide on: the HCE service answered without data, or it did not
answer and the reply to the search has no UID. -/
def EmptyCredential (q : π) : Prop :=
  ∃ uid hce q', port.converse.run q = .ok (.tag uid hce) q' ∧
    ((∃ reply, hce = .answered reply ∧ reply.data = []) ∨
      ((∀ reply, hce ≠ .answered reply) ∧ uid = []))

/-- `GetID` says that there is no tag iff the reader device did. -/
def EmptyIffNoTag (r : Reader π) : Prop :=
  ∀ id r', (Reader.getID port).run r = .ok id r' → (id = [] ↔ ReportsNoTag port r.serialPort)

/-- The poll tells a tag from no tag, and prints exactly one verdict on a tag and none without. -/
structure SettlesCredential (s : AccessControlSystem π) : Prop where
  empty_iff : EmptyIffNoTag port s.reader
  verdict_of_tag : ReportsTag port s.reader.serialPort →
    (∃ id r', (Reader.getID port).run s.reader = .ok id r') →
    verdicts port s = [.accessGranted] ∨ verdicts port s = [.accessDenied]
  verdicts_of_noTag : ReportsNoTag port s.reader.serialPort → verdicts port s = []

end Verdict

theorem emptyCredential_iff {q q' : π} {uid : List BYTE} {hce : HceAttempt}
    (h : port.converse.run q = .ok (.tag uid hce) q') :
    EmptyCredential port q ↔ (Conversation.tag uid hce).id = [] := by
  have hcredential : (Conversation.tag uid hce).id = [] ↔
      (∃ reply, hce = .answered reply ∧ reply.data = []) ∨
        ((∀ reply, hce ≠ .answered reply) ∧ uid = []) := by
    rw [Conversation.id, Hex.encode_eq_nil_iff]
    cases hce <;> simp [Conversation.credential]
  rw [hcredential, EmptyCredential]
  simp [h]

/-- A conversation about a tag is none about no tag. -/
theorem not_reportsNoTag {q q' : π} {uid : List BYTE} {hce : HceAttempt}
    (h : port.converse.run q = .ok (.tag uid hce) q') : ¬ ReportsNoTag port q := by
  rintro ⟨q'', hask⟩
  rw [SerialPort.run_converse_eq_noTag_iff.mpr hask] at h
  cases h

theorem emptyIffNoTag_iff (r : Reader π) :
    EmptyIffNoTag port r ↔ ¬ EmptyCredential port r.serialPort := by
  constructor
  · -- with nothing to decide on `GetID` returns the empty text, though there is a tag
    rintro hiff ⟨uid, hce, q', hconverse, hempty⟩
    obtain ⟨id, r', hrun, -, hid⟩ := Reader.refines_getID.exists_run hconverse
    have hnil : id = [] := by
      rw [hid, ← emptyCredential_iff hconverse]
      exact ⟨uid, hce, q', hconverse, hempty⟩
    exact not_reportsNoTag hconverse ((hiff id r' hrun).mp hnil)
  · intro hcredential id r' hrun
    obtain ⟨conversation, hconverse, rfl⟩ := Reader.refines_getID.of_run_eq_ok hrun
    cases conversation with
    | noTag => exact iff_of_true rfl ⟨_, SerialPort.run_converse_eq_noTag_iff.mp hconverse⟩
    | tag uid hce =>
      refine iff_of_false (fun hnil => hcredential ?_) (not_reportsNoTag hconverse)
      rwa [emptyCredential_iff hconverse]

/-- A poll settles its credential iff there is none, or something to decide on. -/
theorem settlesCredential_poll_iff (s : AccessControlSystem π) :
    SettlesCredential port s ↔ ¬ EmptyCredential port s.reader.serialPort := by
  refine ⟨fun h => (emptyIffNoTag_iff _).mp h.empty_iff, fun hcredential => ?_⟩
  have hempty := (emptyIffNoTag_iff s.reader).mpr hcredential
  refine ⟨hempty, ?_, ?_⟩
  · -- a tag: the id is not empty, so one of the two branches prints
    rintro ⟨t, bits, n, uid, enough, q, hsearch⟩ ⟨id, r', hrun⟩
    have hne : id ≠ [] := by
      rintro rfl
      obtain ⟨q', hask⟩ := (hempty _ _ hrun).mp rfl
      rw [SerialPort.run_askSearch_eq_ok_iff.mpr ⟨_, hask, rfl⟩] at hsearch
      cases hsearch
    rw [verdicts_of_ok hrun, verdictsOn, if_neg hne]
    split
    · exact .inl rfl
    · exact .inr rfl
  · -- no tag: `GetID` returns the empty text
    rintro ⟨q, hask⟩
    obtain ⟨id, r', hrun, -, rfl⟩ :=
      Reader.refines_getID.exists_run (SerialPort.run_converse_eq_noTag_iff.mpr hask)
    rw [verdicts_of_ok hrun]
    rfl

/-- `GetID` tells a tag from no tag, and in every run of the main loop each tag whose poll raises no
exception gets exactly one verdict and no tag gets one, exactly if no poll meets a tag with nothing
to decide on. -/
theorem settlesCredential_iff (port : SerialPort π) :
    (∀ r, EmptyIffNoTag port r ↔ ¬ EmptyCredential port r.serialPort) ∧
    ∀ s₀ : AccessControlSystem π,
      (∀ s, BeginsPoll port s₀ s → SettlesCredential port s) ↔
        ∀ s, BeginsPoll port s₀ s → ¬ EmptyCredential port s.reader.serialPort :=
  ⟨emptyIffNoTag_iff, fun _ => forall_congr' fun s => forall_congr' fun _ =>
    settlesCredential_poll_iff s⟩

/-- A card answers GET RESPONSE with the status word 9000 alone. -/
def emptyReplies : Stream' Str :=
  Stream'.cons "000180200469B90152\r".toList (Stream'.const "0001029000\r".toList)

/-- The card gets no verdict, although its UID is an accepted one. -/
theorem not_settlesCredential_emptyReplies :
    ¬ ∀ s₀ s : AccessControlSystem Script, BeginsPoll Script.port s₀ s →
      SettlesCredential Script.port s := by
  intro hall
  let s : AccessControlSystem Script :=
    { start (.replying (Stream'.const 7) emptyReplies []) with isRunning := true }
  have htexts : Conversation.ofTexts? (emptyReplies.get 0) (emptyReplies.get 1)
      (emptyReplies.get 2) =
        some (.tag [0x69, 0xB9, 0x01, 0x52] (.answered ⟨[], 0x90, 0x00⟩)) := by decide
  obtain ⟨q, hconverse⟩ := Script.exists_run_converse_of_ofTexts? (Stream'.const 7) htexts
  exact (settlesCredential_poll_iff s).mp (hall s s ⟨.refl, rfl⟩)
    ⟨_, _, q, hconverse, .inl ⟨_, rfl, rfl⟩⟩

end AccessControlSystem

end DoorAcs
