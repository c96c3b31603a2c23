import Mathlib.Data.List.Induction
import Mathlib.Tactic.Common

/-!
# Monitors of a log of events

A monitor reads a log of events one by one, keeps a state, and says of each event whether it is
allowed in the state that the events before have led to. Rules of use that speak of the past (what
was acquired may be used until it is released, what is locked may be touched) are monitors.

* `Monitor.Accepts`: all events of a log are allowed.
* `Monitor.accepts_append`: appending to a log asks for what is new alone.
* `Monitor.accepts_iff`: acceptance in terms of the single events.
-/

namespace Cpp

/-- A state for each log, and the events it allows next. -/
structure Monitor (τ η : Type) where
  /-- The state of the empty log. -/
  init : τ
  /-- The state behind an event. -/
  next : τ → η → τ
  /-- The event is allowed in this state. -/
  Allows : τ → η → Prop

namespace Monitor

variable {τ η : Type} (M : Monitor τ η) {t : τ} {e : η} {log log' : List η}

/-- The state behind the events `log`, from the state `t` on. -/
def after (t : τ) (log : List η) : τ := log.foldl M.next t

/-- All events of `log` are allowed, from the state `t` on. -/
def AllowsAll : τ → List η → Prop
  | _, [] => True
  | t, e :: log => M.Allows t e ∧ AllowsAll (M.next t e) log

/-- The state of a log. -/
def state (log : List η) : τ := M.after M.init log

/-- All events of a log are allowed. -/
def Accepts (log : List η) : Prop := M.AllowsAll M.init log

instance decidableAllowsAll [∀ t e, Decidable (M.Allows t e)] :
    (t : τ) → (log : List η) → Decidable (M.AllowsAll t log)
  | _, [] => inferInstanceAs (Decidable True)
  | t, e :: log =>
    have := decidableAllowsAll (M.next t e) log
    inferInstanceAs (Decidable (M.Allows t e ∧ M.AllowsAll (M.next t e) log))

instance [∀ t e, Decidable (M.Allows t e)] (log : List η) : Decidable (M.Accepts log) :=
  decidableAllowsAll M M.init log

/-- Without events the state is the same. -/
@[simp]
theorem after_nil : M.after t [] = t := rfl

/-- The events are looked at one after the other. -/
@[simp]
theorem after_cons : M.after t (e :: log) = M.after (M.next t e) log := rfl

/-- There is nothing to be allowed. -/
@[simp]
theorem allowsAll_nil : M.AllowsAll t [] := trivial

/-- The first event is allowed, and behind it the others are. -/
@[simp]
theorem allowsAll_cons :
    M.AllowsAll t (e :: log) ↔ M.Allows t e ∧ M.AllowsAll (M.next t e) log := Iff.rfl

/-- The state behind two logs. -/
theorem after_append : M.after t (log ++ log') = M.after (M.after t log) log' :=
  List.foldl_append

/-- Of two logs, the second is looked at in the state behind the first. -/
theorem allowsAll_append :
    M.AllowsAll t (log ++ log') ↔ M.AllowsAll t log ∧ M.AllowsAll (M.after t log) log' := by
  induction log generalizing t with
  | nil => simp
  | cons e log ih =>
    rw [List.cons_append, allowsAll_cons, ih, allowsAll_cons, after_cons, and_assoc]

/-- The state at the start. -/
@[simp]
theorem state_nil : M.state [] = M.init := rfl

/-- The empty log is accepted. -/
@[simp]
theorem accepts_nil : M.Accepts [] := trivial

/-- The state behind a log that goes on. -/
theorem state_append : M.state (log ++ log') = M.after (M.state log) log' := M.after_append

/-- A log that goes on is accepted if it was before and what follows is allowed there. -/
theorem accepts_append :
    M.Accepts (log ++ log') ↔ M.Accepts log ∧ M.AllowsAll (M.state log) log' := M.allowsAll_append

/-- The state behind one more event. -/
theorem state_append_singleton : M.state (log ++ [e]) = M.next (M.state log) e := M.state_append

/-- One more event is accepted if the state behind the others allows it. -/
theorem accepts_append_singleton :
    M.Accepts (log ++ [e]) ↔ M.Accepts log ∧ M.Allows (M.state log) e := by
  rw [accepts_append, allowsAll_cons, and_iff_left M.allowsAll_nil]

/-- A log is accepted iff each event is allowed in the state of the events before it. -/
theorem accepts_iff :
    M.Accepts log ↔ ∀ older e newer, log = older ++ e :: newer → M.Allows (M.state older) e := by
  constructor
  · rintro h older e newer rfl
    exact (M.accepts_append.mp h).2.1
  · intro h
    induction log using List.reverseRecOn with
    | nil => trivial
    | append_singleton log e ih =>
      refine M.accepts_append_singleton.mpr ⟨ih fun older e' newer heq => ?_, ?_⟩
      · exact h older e' (newer ++ [e]) (by rw [heq, List.append_assoc, List.cons_append])
      · exact h log e [] rfl

end Monitor

end Cpp
