import Mathlib.Data.List.Basic
import Mathlib.Data.List.Pairwise

/-!
# FIFO channels

A channel that carries messages element by element, in order and with an arbitrary delay. Each
element is numbered with the message it belongs to, so that a receiver's elements can be told apart
by the message they come from.

`Fifo.outstanding_send`, `Fifo.outstanding_deliver` and `Fifo.received_append_outstanding` say that
nothing is lost, doubled or overtaken. `Fifo.taken_of_last_iff` is what that gives: a receiver that
takes something behind a message gets elements of this message alone iff nothing was outstanding
when it was sent.
-/

namespace Channel

variable {α : Type}

/-- A channel: how many messages were sent, the elements that have arrived, and those still on their
way. The elements are in the order of their messages. -/
structure Fifo (α : Type) where
  sent : ℕ
  arrived : List (ℕ × α)
  inFlight : List (ℕ × α)
  ordered : (arrived ++ inFlight).Pairwise fun a b => a.1 ≤ b.1
  numbered : ∀ a ∈ arrived ++ inFlight, a.1 ≤ sent

namespace Fifo

/-- The channel nothing was sent on. -/
def empty : Fifo α where
  sent := 0
  arrived := []
  inFlight := []
  ordered := .nil
  numbered := by simp

/-- The elements that were sent and not received. -/
def outstanding (q : Fifo α) : List (ℕ × α) := q.arrived ++ q.inFlight

/-- Send a message. -/
def send (q : Fifo α) (message : List α) : Fifo α where
  sent := q.sent + 1
  arrived := q.arrived
  inFlight := q.inFlight ++ message.map (Prod.mk (q.sent + 1))
  ordered := by
    rw [← List.append_assoc, List.pairwise_append]
    refine ⟨q.ordered, ?_, fun a ha b hb => ?_⟩
    · -- within the message all numbers are the same
      rw [List.pairwise_map]
      exact List.pairwise_of_forall fun _ _ => Nat.le_refl _
    · -- its number is above all others
      obtain ⟨_, _, rfl⟩ := List.mem_map.mp hb
      exact Nat.le_succ_of_le (q.numbered a ha)
  numbered := by
    intro a ha
    rw [← List.append_assoc, List.mem_append] at ha
    rcases ha with hold | hnew
    · exact Nat.le_succ_of_le (q.numbered a hold)
    · obtain ⟨_, _, rfl⟩ := List.mem_map.mp hnew
      exact Nat.le_refl _

/-- Let `k` elements arrive, or all if there are less. -/
def deliver (q : Fifo α) (k : ℕ) : Fifo α where
  sent := q.sent
  arrived := q.arrived ++ q.inFlight.take k
  inFlight := q.inFlight.drop k
  ordered := by
    rw [List.append_assoc, List.take_append_drop]
    exact q.ordered
  numbered := by
    rw [List.append_assoc, List.take_append_drop]
    exact q.numbered

/-- The first `k` elements that have arrived. -/
def received (q : Fifo α) (k : ℕ) : List (ℕ × α) := q.arrived.take k

/-- Receive the first `k` elements that have arrived. -/
def receive (q : Fifo α) (k : ℕ) : Fifo α where
  sent := q.sent
  arrived := q.arrived.drop k
  inFlight := q.inFlight
  -- what is left is a part of what there was
  ordered := q.ordered.sublist ((List.drop_sublist k _).append (.refl _))
  numbered := fun a ha => q.numbered a (((List.drop_sublist k _).append (.refl _)).mem ha)

/-! ## Nothing is lost, doubled or overtaken -/

/-- A message joins what is outstanding at the end. -/
theorem outstanding_send (q : Fifo α) (message : List α) :
    (q.send message).outstanding = q.outstanding ++ message.map (Prod.mk (q.sent + 1)) :=
  (List.append_assoc ..).symm

/-- What arrives is outstanding until it is taken. -/
@[simp]
theorem outstanding_deliver (q : Fifo α) (k : ℕ) : (q.deliver k).outstanding = q.outstanding := by
  rw [outstanding, deliver, List.append_assoc, List.take_append_drop, outstanding]

/-- What is taken was outstanding, and comes first. -/
theorem received_append_outstanding (q : Fifo α) (k : ℕ) :
    q.received k ++ (q.receive k).outstanding = q.outstanding := by
  rw [received, receive, outstanding, ← List.append_assoc, List.take_append_drop, outstanding]

/-! ## What the order gives -/

/-- Whoever takes something behind a message takes elements of this message alone iff nothing was
outstanding when it was sent. -/
theorem taken_of_last_iff {q : Fifo α} {message : List α} {taken : List (ℕ × α)}
    (hfirst : taken <+: (q.send message).outstanding) (hne : taken ≠ []) :
    (∀ a ∈ taken, a.1 = q.sent + 1) ↔ q.outstanding = [] := by
  rw [outstanding_send] at hfirst
  constructor
  · intro htaken
    by_contra hold
    obtain ⟨a, rest, hold⟩ := List.exists_cons_of_ne_nil hold
    obtain ⟨b, more, rfl⟩ := List.exists_cons_of_ne_nil hne
    -- the first element is the oldest one, which is of an earlier message
    rw [hold, List.cons_append, List.cons_prefix_cons] at hfirst
    obtain ⟨rfl, -⟩ := hfirst
    have hlast := htaken b List.mem_cons_self
    have hmem : b ∈ q.outstanding := by
      rw [hold]
      exact List.mem_cons_self
    have hearlier : b.1 ≤ q.sent := q.numbered b hmem
    omega
  · rintro hidle a ha
    rw [hidle, List.nil_append] at hfirst
    obtain ⟨_, -, rfl⟩ := List.mem_map.mp (hfirst.subset ha)
    rfl

end Fifo

end Channel
