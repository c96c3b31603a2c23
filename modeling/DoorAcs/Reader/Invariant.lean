import DoorAcs.Reader

/-!
# Invariants of the reader

What every step of an exchange keeps, the exchange keeps, whether it returns, throws or reads
outside a reply. `Reader.ExchangeInvariant` lists these steps, and `preserves_getID` goes through
`GetID` once for all invariants. `Reader.exists_cout_getID` is the one about what `GetID` prints.
-/

namespace DoorAcs

open Cpp

variable {π : Type}

/-- The two messages that tell the decision of a poll. -/
def ConsoleLine.IsVerdict (line : ConsoleLine) : Prop :=
  line = .accessGranted ∨ line = .accessDenied

instance (line : ConsoleLine) : Decidable line.IsVerdict :=
  inferInstanceAs (Decidable (_ ∨ _))

/-- The messages of `GetID`. -/
inductive ConsoleLine.IsFromGetID : ConsoleLine → Prop
  | searching : IsFromGetID .searching
  | hceServiceId (id : Str) : IsFromGetID (.hceServiceId id)
  | tagId (id : Str) : IsFromGetID (.tagId id)

/-- `GetID` prints no verdict. -/
theorem ConsoleLine.IsFromGetID.not_isVerdict {line : ConsoleLine} (h : line.IsFromGetID) :
    ¬ line.IsVerdict := by
  cases h <;> simp [IsVerdict]

namespace Reader

/-- The port has no part in the messages. -/
theorem preserves_onSerialPort_of_cout {α : Type} (J : List ConsoleLine → Prop)
    (m : EStateM Exception π α) :
    Prog.Preserves (fun r : Reader π => J r.cout) (onSerialPort m) :=
  Prog.preserves_onField (J := fun _ => True) (fun _ _ => trivial) (fun _ _ => trivial)
    fun _ _ h _ => h

/-- Every step of an exchange keeps `I`. -/
structure ExchangeInvariant (port : SerialPort π) (I : Reader π → Prop) : Prop where
  write : ∀ frame, Prog.Preserves I (onSerialPort (port.write frame))
  read : ∀ size, Prog.Preserves I (onSerialPort (port.read size))
  store : ∀ r dataString writtenBytes responseString, I r →
    I { r with dataString, writtenBytes, responseString }

namespace ExchangeInvariant

variable {port : SerialPort π} {I : Reader π → Prop}

/-- An invariant of the messages alone. An exchange prints none. -/
theorem of_cout (J : List ConsoleLine → Prop) : ExchangeInvariant port fun r => J r.cout where
  write _ := preserves_onSerialPort_of_cout J _
  read _ := preserves_onSerialPort_of_cout J _
  store _ _ _ _ h := h

variable (h : ExchangeInvariant port I)
include h

/-- What a write, a read and the members keep, an exchange keeps. -/
theorem preserves_exchange (frame : Str) : Prog.Preserves I (exchange port frame) := by
  -- one rule for each line of the exchange
  refine Prog.preserves_bind (Prog.preserves_modify fun r => h.store r _ _ _) fun _ => ?_
  refine Prog.preserves_bind (h.write frame) fun n => ?_
  refine Prog.preserves_bind (Prog.preserves_modify fun r => h.store r _ _ _) fun _ => ?_
  refine Prog.preserves_bind (h.read _) fun text => ?_
  refine Prog.preserves_bind (Prog.preserves_modify fun r => h.store r _ _ _) fun _ => ?_
  exact Prog.preserves_lift _

/-- So does the search. -/
theorem preserves_searchTag : Prog.Preserves I (searchTag port) :=
  Prog.preserves_bind (h.preserves_exchange _) fun _ => Prog.preserves_onLocal _ _

/-- So does an exchange with the card. -/
theorem preserves_transmit {α : Type} [IsAPDUCommand α] (apduCommand : α) :
    Prog.Preserves I (transmit port apduCommand) :=
  Prog.preserves_bind (h.preserves_exchange _) fun _ => Prog.preserves_onLocal _ _

/-- So do the two exchanges with the HCE service and their message. -/
theorem preserves_readHceId (id : Str) : Prog.Preserves I (readHceId port id) := by
  refine Prog.preserves_bind (h.preserves_transmit _) fun selectFile => ?_
  refine Prog.preserves_ite ?_ (Prog.preserves_pure _)
  refine Prog.preserves_bind (Prog.preserves_lift _) fun selectFileResponse => ?_
  refine Prog.preserves_ite ?_ (Prog.preserves_pure _)
  refine Prog.preserves_bind (h.preserves_transmit _) fun getResponse => ?_
  refine Prog.preserves_ite ?_ (Prog.preserves_pure _)
  exact Prog.preserves_bind (Prog.preserves_lift _) fun _ => Prog.preserves_pure _

/-- `GetID` is made of exchanges and of two messages: that it searches, and the id. -/
theorem preserves_getID
    (hsearching : Prog.Preserves I (print .searching : Prog Exception (Reader π) PUnit))
    (hhceServiceId : ∀ id, Prog.Preserves I (print (.hceServiceId id) : Prog Exception _ PUnit))
    (htagId : ∀ id, Prog.Preserves I (print (.tagId id) : Prog Exception _ PUnit)) :
    Prog.Preserves I (getID port) := by
  refine Prog.preserves_bind hsearching fun _ => ?_
  refine Prog.preserves_bind h.preserves_searchTag fun searchTag => ?_
  refine Prog.preserves_ite (Prog.preserves_pure _) ?_
  refine Prog.preserves_bind (h.preserves_readHceId _) fun found => ?_
  refine Prog.preserves_bind ?_ fun _ => Prog.preserves_pure _
  split
  · exact hhceServiceId _
  · exact htagId _

end ExchangeInvariant

/-- `GetID` prints messages of its own behind those that are there. -/
theorem exists_cout_getID (port : SerialPort π) (r : Reader π) :
    ∃ more, ((getID port).finalState r).cout = r.cout ++ more ∧
      ∀ line ∈ more, line.IsFromGetID := by
  let J (lines : List ConsoleLine) : Prop :=
    ∃ more, lines = r.cout ++ more ∧ ∀ line ∈ more, line.IsFromGetID
  have hprint {line : ConsoleLine} (hline : line.IsFromGetID) :
      Prog.Preserves (fun r' : Reader π => J r'.cout) (print line) := by
    rintro r' ⟨more, hcout, hmore⟩
    refine ⟨more ++ [line], ?_, ?_⟩
    · change r'.cout ++ [line] = _
      rw [hcout, List.append_assoc]
    · intro line' hmem
      rcases List.mem_append.mp hmem with hmem | hmem
      · exact hmore line' hmem
      · rwa [List.mem_singleton.mp hmem]
  apply (ExchangeInvariant.of_cout J).preserves_getID (hprint .searching)
    (fun id => hprint (.hceServiceId id)) (fun id => hprint (.tagId id))
  exact ⟨[], (List.append_nil _).symm, fun _ hmem => absurd hmem List.not_mem_nil⟩

end Reader

end DoorAcs
