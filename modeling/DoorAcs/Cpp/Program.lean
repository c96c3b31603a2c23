import Mathlib.Logic.Relation
import Mathlib.Tactic.Common

/-!
# Programs with state, exceptions and faults

A member function reads and writes the fields of its object, may throw, and keeps what it wrote
before the throw. `Prog ε σ α` is that: a computation over an object of type `σ` which returns an
`α` or ends in a `Failure ε`. A failure is an exception, which a handler can catch, or a fault
(an element read outside its container), which nothing catches.

* `Prog.onField`, `Prog.onLocal`: run a member function of a field, or of a local object.
* `Prog.catchException`: `try { … } catch`.
* `Prog.Preserves`: every way out of the program keeps an invariant of the object, with one rule
  for each way to build a program.
* `Prog.runEach`: a history of calls, each of which may fail; `get_runEach` is the rule for a part
  of the object that some of the calls set.
* `Prog.repeatWhile`, `Prog.AtLoopHead`: a `while` loop cut off after some rounds, and the states
  at its head; `AtLoopHead.invariant` is the rule for loop invariants.
-/

namespace Cpp

/-- How code ends that does not return: with an exception, or with a fault that no handler
catches. -/
inductive Failure (ε : Type) where
  | exception (e : ε)
  | fault
  deriving DecidableEq, Repr

/-- Element `i` of `xs`, or a fault if there is none. -/
def elementAt {ε α : Type} (xs : List α) (i : ℕ) : Except (Failure ε) α :=
  match xs[i]? with
  | some x => .ok x
  | none => .error .fault

/-- Within the bounds the access gives the element. -/
theorem elementAt_of_lt {ε α : Type} {xs : List α} {i : ℕ} (h : i < xs.length) :
    (elementAt xs i : Except (Failure ε) α) = .ok xs[i] := by
  simp [elementAt, h]

/-- Outside the bounds the access is a fault. -/
theorem elementAt_of_le {ε α : Type} {xs : List α} {i : ℕ} (h : xs.length ≤ i) :
    (elementAt xs i : Except (Failure ε) α) = .error .fault := by
  simp [elementAt, List.getElem?_eq_none h]

/-- A value that is put into another one fails as it does itself. -/
theorem eq_error_of_bind_pure {ε α β : Type} {x : Except (Failure ε) α} {f : α → β}
    {e : Failure ε} (h : (x >>= fun a => pure (f a)) = .error e) : x = .error e := by
  cases x with
  | ok a => cases h
  | error e' =>
    cases h
    rfl

/-- Code that works on an object of type `σ`. The object keeps what was written to it before an
exception. -/
abbrev Prog (ε σ α : Type) := EStateM (Failure ε) σ α

namespace Prog

variable {ε σ τ α β : Type}

/-! ## Building programs -/

/-- Throw the exception `e`. -/
def raise (e : ε) : Prog ε σ α := throw (.exception e)

/-- Use a computation that touches no object. -/
def lift (x : Except (Failure ε) α) : Prog ε σ α := fun s =>
  match x with
  | .ok a => .ok a s
  | .error e => .error e s

/-- Use code whose only failures are exceptions. -/
def ofThrowing (m : EStateM ε σ α) : Prog ε σ α := fun s =>
  match m.run s with
  | .ok a s' => .ok a s'
  | .error e s' => .error (.exception e) s'

/-- Run `m` on the field read by `get` and written by `set`. -/
def onField (get : σ → τ) (set : σ → τ → σ) (m : Prog ε τ α) : Prog ε σ α := fun s =>
  match m.run (get s) with
  | .ok a t => .ok a (set s t)
  -- what `m` wrote to the field before it failed stays
  | .error e t => .error e (set s t)

/-- Run `m` on the local object `x` and return the object; a failure destroys it. -/
def onLocal (x : τ) (m : Prog ε τ α) : Prog ε σ τ := fun s =>
  match m.run x with
  | .ok _ x' => .ok x' s
  | .error e _ => .error e s

/-- Run `m`, and `handler` on the exception `m` ends with. A fault is not caught. -/
def catchException (m : Prog ε σ α) (handler : ε → Prog ε σ α) : Prog ε σ α := fun s =>
  match m.run s with
  | .ok a s' => .ok a s'
  | .error (.exception e) s' => (handler e).run s'
  -- undefined behaviour is no exception, no handler runs
  | .error .fault s' => .error .fault s'

/-- The object as `m` leaves it, on return and on failure alike. -/
def finalState (m : Prog ε σ α) (s : σ) : σ :=
  match m.run s with
  | .ok _ s' => s'
  | .error _ s' => s'

/-! ## Inversion -/

section Inversion

variable {s s' : σ} {a : α} {b : β} {e : Failure ε}

/-- The final state of a program that returns. -/
theorem finalState_of_ok {m : Prog ε σ α} (h : m.run s = .ok a s') : m.finalState s = s' := by
  simp [finalState, h]

/-- The final state of a program that fails. -/
theorem finalState_of_error {m : Prog ε σ α} (h : m.run s = .error e s') :
    m.finalState s = s' := by
  simp [finalState, h]

/-- The program returns from `s`. -/
def returns (m : Prog ε σ α) (s : σ) : Bool :=
  match m.run s with
  | .ok _ _ => true
  | .error _ _ => false

/-- A program that returns does so in its final state. Whether it returns can be computed. -/
theorem run_of_returns {m : Prog ε σ Unit} (h : m.returns s = true) :
    m.run s = .ok () (m.finalState s) := by
  simp only [returns, finalState] at h ⊢
  cases hrun : m.run s with
  | ok _ s' => rfl
  | error e s' => simp [hrun] at h

/-- A sequence of two programs returns iff both do, one after the other. -/
theorem run_bind_eq_ok {x : Prog ε σ α} {f : α → Prog ε σ β} :
    (x >>= f).run s = .ok b s' ↔ ∃ a s₁, x.run s = .ok a s₁ ∧ (f a).run s₁ = .ok b s' := by
  rw [EStateM.run_bind]
  rcases x.run s with ⟨a₁, s₁⟩ | ⟨e, s₁⟩ <;> simp

/-- A sequence of two programs fails iff the first does, or returns and the second fails. -/
theorem run_bind_eq_error {x : Prog ε σ α} {f : α → Prog ε σ β} :
    (x >>= f).run s = .error e s' ↔
      x.run s = .error e s' ∨ ∃ a s₁, x.run s = .ok a s₁ ∧ (f a).run s₁ = .error e s' := by
  rw [EStateM.run_bind]
  rcases x.run s with ⟨a₁, s₁⟩ | ⟨e₁, s₁⟩ <;> simp

/-- What follows starts where the first program returned. -/
theorem run_bind_of_ok {x : Prog ε σ α} {f : α → Prog ε σ β} {s₁ : σ} (h : x.run s = .ok a s₁) :
    (x >>= f).run s = (f a).run s₁ := by
  rw [EStateM.run_bind, h]

/-- What follows a failure is not run. -/
theorem run_bind_of_error {x : Prog ε σ α} {f : α → Prog ε σ β} (h : x.run s = .error e s') :
    (x >>= f).run s = .error e s' := by
  rw [EStateM.run_bind, h]

/-- The final state of a sequence whose first program returns is that of the second. -/
theorem finalState_bind_of_ok {x : Prog ε σ α} {f : α → Prog ε σ β} {s₁ : σ}
    (h : x.run s = .ok a s₁) : (x >>= f).finalState s = (f a).finalState s₁ := by
  rw [finalState, run_bind_of_ok h, finalState]

/-- The final state of a sequence whose first program fails is where it failed. -/
theorem finalState_bind_of_error {x : Prog ε σ α} {f : α → Prog ε σ β}
    (h : x.run s = .error e s') : (x >>= f).finalState s = s' :=
  finalState_of_error (run_bind_of_error h)

/-- What follows a program does not show in a part of the object that it leaves. -/
theorem get_finalState_bind {get : σ → τ} {x : Prog ε σ α} {f : α → Prog ε σ β}
    (hf : ∀ a s, get ((f a).finalState s) = get s) (s : σ) :
    get ((x >>= f).finalState s) = get (x.finalState s) := by
  cases h : x.run s with
  | ok a s₁ => rw [finalState_bind_of_ok h, hf, finalState_of_ok h]
  | error e s₁ => rw [finalState_bind_of_error h, finalState_of_error h]

/-- What follows a change starts in the changed object. -/
theorem run_modify_bind (f : σ → σ) (g : PUnit → Prog ε σ β) :
    (modify f >>= g).run s = (g ⟨⟩).run (f s) := rfl

/-- An exception leaves the object as it is. -/
@[simp]
theorem run_raise (e : ε) : (raise e : Prog ε σ α).run s = .error (.exception e) s := rfl

/-- A value is returned. -/
@[simp]
theorem run_lift_ok (a : α) : (lift (.ok a) : Prog ε σ α).run s = .ok a s := rfl

/-- A failure leaves the object as it is. -/
@[simp]
theorem run_lift_error (e : Failure ε) : (lift (.error e) : Prog ε σ α).run s = .error e s := rfl

/-- A branch runs as the side that its condition selects. -/
@[simp]
theorem run_ite {c : Prop} [Decidable c] {x y : Prog ε σ α} :
    (if c then x else y).run s = if c then x.run s else y.run s := by
  split <;> rfl

/-- Exceptions are passed on, and there are no faults. -/
theorem run_ofThrowing (m : EStateM ε σ α) :
    (ofThrowing m).run s = match m.run s with
      | .ok a s' => .ok a s'
      | .error e s' => .error (.exception e) s' := rfl

/-- The object gets back what the program made of its part, also if that failed. -/
theorem run_onField {get : σ → τ} {set : σ → τ → σ} {m : Prog ε τ α} :
    (onField get set m).run s = match m.run (get s) with
      | .ok a t => .ok a (set s t)
      | .error e t => .error e (set s t) := rfl

/-- A program on a local object returns what it made of it, and leaves the object outside. -/
theorem run_onLocal_eq_ok {x x' : τ} {m : Prog ε τ α} :
    (onLocal x m).run s = .ok x' s' ↔ (∃ a, m.run x = .ok a x') ∧ s = s' := by
  simp only [onLocal, EStateM.run]
  split <;> rename_i h <;> simp_all

/-- A failure on a local object leaves the object outside. -/
theorem run_onLocal_of_error {x x' : τ} {m : Prog ε τ α} (h : m.run x = .error e x') :
    (onLocal x m).run s = .error e s := by
  simp only [onLocal, EStateM.run] at h ⊢
  rw [h]

/-- A program on a part returns iff it does so on the part alone. -/
theorem run_onField_eq_ok {get : σ → τ} {set : σ → τ → σ} {m : Prog ε τ α} :
    (onField get set m).run s = .ok a s' ↔ ∃ t, m.run (get s) = .ok a t ∧ set s t = s' := by
  simp only [onField, EStateM.run]
  split <;> rename_i h <;> simp_all

/-- Without an exception the handler is not run. -/
theorem run_catchException_of_ok {m : Prog ε σ α} {handler : ε → Prog ε σ α}
    (h : m.run s = .ok a s') : (catchException m handler).run s = .ok a s' := by
  simp only [catchException, EStateM.run] at h ⊢
  rw [h]

/-- The handler takes over where the exception left the object. -/
theorem run_catchException_of_exception {m : Prog ε σ α} {handler : ε → Prog ε σ α} {x : ε}
    (h : m.run s = .error (.exception x) s') :
    (catchException m handler).run s = (handler x).run s' := by
  simp only [catchException, EStateM.run] at h ⊢
  rw [h]

/-- A fault is not caught. -/
theorem run_catchException_of_fault {m : Prog ε σ α} {handler : ε → Prog ε σ α}
    (h : m.run s = .error .fault s') : (catchException m handler).run s = .error .fault s' := by
  simp only [catchException, EStateM.run] at h ⊢
  rw [h]

end Inversion

/-! ## Invariants of the object -/

/-- Every way out of `m` keeps the invariant `I` of the object. -/
def Preserves (I : σ → Prop) (m : Prog ε σ α) : Prop := ∀ s, I s → I (m.finalState s)

section Preserves

variable {I : σ → Prop}

/-- What is kept holds where the program returns. -/
theorem Preserves.of_run_eq_ok {m : Prog ε σ α} (h : Preserves I m) (hs : I s)
    (hrun : m.run s = .ok a s') : I s' := by
  have hkept := h s hs
  rwa [finalState_of_ok hrun] at hkept

/-- What is kept holds where the program fails. -/
theorem Preserves.of_run_eq_error {m : Prog ε σ α} {f : Failure ε} (h : Preserves I m) (hs : I s)
    (hrun : m.run s = .error f s') : I s' := by
  have hkept := h s hs
  rwa [finalState_of_error hrun] at hkept

/-- A value changes nothing. -/
theorem preserves_pure (a : α) : Preserves (ε := ε) I (pure a) := fun _ h => h

/-- An exception changes nothing. -/
theorem preserves_raise (e : ε) : Preserves I (raise e : Prog ε σ α) := fun _ h => h

/-- A pure computation changes nothing. -/
theorem preserves_lift (x : Except (Failure ε) α) : Preserves I (lift x : Prog ε σ α) := by
  intro s h
  rcases x with e | a <;> exact h

/-- Looking at the object changes nothing. -/
theorem preserves_get : Preserves I (get : Prog ε σ σ) := fun _ h => h

/-- A change keeps what it keeps of every object. -/
theorem preserves_modify {f : σ → σ} (h : ∀ s, I s → I (f s)) :
    Preserves I (modify f : Prog ε σ PUnit) := h

/-- A local object is none of the invariant's business. -/
theorem preserves_onLocal (x : τ) (m : Prog ε τ α) : Preserves I (onLocal x m : Prog ε σ τ) := by
  intro s h
  simp only [finalState, onLocal, EStateM.run]
  rcases m x with ⟨a, x'⟩ | ⟨e, x'⟩ <;> exact h

/-- A sequence keeps what both of its parts keep. -/
theorem preserves_bind {x : Prog ε σ α} {f : α → Prog ε σ β} (hx : Preserves I x)
    (hf : ∀ a, Preserves I (f a)) : Preserves I (x >>= f) := by
  intro s hs
  have hs' := hx s hs
  -- `f` runs only if `x` returned
  cases h : x.run s with
  | ok a s₁ =>
    rw [finalState_of_ok h] at hs'
    simpa [finalState, run_bind_of_ok h] using hf a s₁ hs'
  | error e s₁ =>
    rw [finalState_of_error h] at hs'
    rwa [finalState_of_error (run_bind_of_error h)]

/-- What follows a program does not show in the object if it keeps the object. -/
theorem finalState_bind_of_preserves {x : Prog ε σ α} {f : α → Prog ε σ β}
    (hf : ∀ a (I : σ → Prop), Preserves I (f a)) (s : σ) :
    (x >>= f).finalState s = x.finalState s := by
  cases h : x.run s with
  | ok a s₁ =>
    have hkept := hf a (· = s₁) s₁ rfl
    rwa [finalState_of_ok h, finalState, run_bind_of_ok h]
  | error e s₁ => rw [finalState_of_error h, finalState_of_error (run_bind_of_error h)]

/-- The result of a program can be dropped. -/
theorem Preserves.discard {m : Prog ε σ α} (h : Preserves I m) :
    Preserves I (m >>= fun _ => pure ()) :=
  preserves_bind h fun _ => preserves_pure ()

/-- A branch keeps what both of its sides keep. -/
theorem preserves_ite {c : Prop} [Decidable c] {x y : Prog ε σ α} (hx : Preserves I x)
    (hy : Preserves I y) : Preserves I (if c then x else y) := by
  split
  · exact hx
  · exact hy

/-- What a field keeps is kept by the object. -/
theorem preserves_onField {get : σ → τ} {set : σ → τ → σ} {J : τ → Prop} {m : Prog ε τ α}
    (hm : Preserves J m) (hget : ∀ s, I s → J (get s)) (hset : ∀ s t, I s → J t → I (set s t)) :
    Preserves I (onField get set m) := by
  intro s hs
  have hJ := hm (get s) (hget s hs)
  simp only [finalState, onField, EStateM.run] at hJ ⊢
  cases h : m (get s) with
  | ok a t => exact hset s t hs (by simpa [h] using hJ)
  | error e t => exact hset s t hs (by simpa [h] using hJ)

/-- The handler has to keep the invariant too. -/
theorem preserves_catchException {m : Prog ε σ α} {handler : ε → Prog ε σ α}
    (hm : Preserves I m) (hh : ∀ e, Preserves I (handler e)) :
    Preserves I (catchException m handler) := by
  intro s hs
  have hs' := hm s hs
  simp only [finalState, catchException, EStateM.run] at hs' ⊢
  cases h : m s with
  | ok a s' => simpa [h] using hs'
  | error f s' =>
    rw [h] at hs'
    cases f with
    | exception e =>
      -- the handler starts in the state the exception left, which `m` kept the invariant of
      exact hh e s' hs'
    | fault => exact hs'

end Preserves

/-! ## Histories -/

/-- The object after `m x` for each `x` in `xs`, one after the other. A failure ends its own program
only. -/
def runEach {ι : Type} (m : ι → Prog ε σ α) (xs : List ι) (s : σ) : σ :=
  xs.foldl (fun s x => (m x).finalState s) s

section History

variable {ι : Type} {m : ι → Prog ε σ α}

/-- What every program keeps, a history keeps. -/
theorem runEach_invariant {I : σ → Prop} (h : ∀ x, Preserves I (m x)) (xs : List ι) {s : σ}
    (hs : I s) : I (runEach m xs s) := by
  induction xs generalizing s with
  | nil => exact hs
  | cons x xs ih => exact ih (h x s hs)

/-- If each program either sets a part of the object or leaves it, the part is what it was set to
last. -/
theorem get_runEach {get : σ → τ} {set? : ι → Option τ}
    (h : ∀ x s, get ((m x).finalState s) = (set? x).getD (get s)) (xs : List ι) (s : σ) :
    get (runEach m xs s) = (xs.reverse.findSome? set?).getD (get s) := by
  induction xs generalizing s with
  | nil => rfl
  | cons x xs ih =>
    -- the first program counts only if no later one sets the part
    rw [List.reverse_cons, List.findSome?_append, List.findSome?_singleton]
    change get (runEach m xs ((m x).finalState s)) = _
    rw [ih, h]
    rcases xs.reverse.findSome? set? with _ | t <;> simp

end History

/-! ## While loops -/

/-- `while (guard) body`, cut off after `n` rounds. -/
def repeatWhile (guard : σ → Bool) (body : Prog ε σ Unit) : ℕ → Prog ε σ Unit
  | 0 => pure ()
  | n + 1 => do
    if guard (← get) then
      body
      repeatWhile guard body n

/-- From `s₀`, the loop `while (guard) body` comes to its head in the state `s`. -/
def AtLoopHead (guard : σ → Bool) (body : Prog ε σ Unit) : σ → σ → Prop :=
  Relation.ReflTransGen fun s s' => guard s = true ∧ body.run s = .ok () s'

section Loop

variable {guard : σ → Bool} {body : Prog ε σ Unit} {I : σ → Prop} {s₀ s : σ}

/-- A loop invariant that the body keeps holds whenever the loop is at its head. -/
theorem AtLoopHead.invariant (h : AtLoopHead guard body s₀ s) (h₀ : I s₀)
    (hbody : Preserves I body) : I s := by
  -- induction on the rounds, the last of which ends in `s`
  induction h with
  | refl => exact h₀
  | tail _ hstep ih =>
    have hI := hbody _ ih
    rwa [finalState_of_ok hstep.2] at hI

/-- A round of the loop, if the guard lets it begin. -/
theorem run_repeatWhile_succ (n : ℕ) :
    (repeatWhile guard body (n + 1)).run s =
      if guard s then (body >>= fun _ => repeatWhile guard body n).run s else .ok () s := by
  simp only [repeatWhile, EStateM.run_bind, EStateM.run_get]
  by_cases h : guard s = true
  · simp only [if_pos h, EStateM.run_bind]
  · simp only [if_neg h, EStateM.run_pure]

/-- Where its guard fails, the loop has ended. -/
theorem run_repeatWhile_of_not (h : ¬ guard s = true) (n : ℕ) :
    (repeatWhile guard body n).run s = .ok () s := by
  cases n with
  | zero => rfl
  | succ n => rw [run_repeatWhile_succ, if_neg h]

/-- Rounds follow one another. -/
theorem run_repeatWhile_add {m : ℕ} {s₁ : σ} (h : (repeatWhile guard body m).run s = .ok () s₁)
    (n : ℕ) : (repeatWhile guard body (m + n)).run s = (repeatWhile guard body n).run s₁ := by
  induction m generalizing s with
  | zero =>
    obtain rfl : s = s₁ := by simpa [repeatWhile] using h
    rw [Nat.zero_add]
  | succ m ih =>
    rw [run_repeatWhile_succ] at h
    rw [Nat.succ_add, run_repeatWhile_succ]
    split at h
    · next hguard =>
      obtain ⟨_, s₂, hbody, hrest⟩ := run_bind_eq_ok.mp h
      rw [if_pos hguard, run_bind_of_ok hbody, ih hrest]
    · next hguard =>
      -- the loop has ended, and stays where it is
      obtain rfl : s = s₁ := by simpa using h
      rw [if_neg hguard, run_repeatWhile_of_not hguard]

/-- What the body keeps, the loop keeps, also when it fails. -/
theorem preserves_repeatWhile (hbody : Preserves I body) :
    ∀ n, Preserves I (repeatWhile guard body n)
  | 0 => preserves_pure ()
  | n + 1 => preserves_bind preserves_get fun _ => preserves_ite
      (preserves_bind hbody fun _ => preserves_repeatWhile hbody n) (preserves_pure _)

/-- A loop cut off after `n` rounds is at its head. -/
theorem AtLoopHead.of_repeatWhile (n : ℕ) (h : (repeatWhile guard body n).run s₀ = .ok () s) :
    AtLoopHead guard body s₀ s := by
  -- the first round leads to another start, so the induction leaves `s₀` free
  induction n generalizing s₀ with
  | zero =>
    obtain rfl : s₀ = s := by simpa [repeatWhile] using h
    exact .refl
  | succ n ih =>
    rw [run_repeatWhile_succ] at h
    split at h
    · next hguard =>
      obtain ⟨_, s₁, hbody, hrest⟩ := run_bind_eq_ok.mp h
      exact .head ⟨hguard, hbody⟩ (ih hrest)
    · -- the guard fails: the loop ends where it started
      obtain rfl : s₀ = s := by simpa using h
      exact .refl

/-- Every state at the head of the loop is the one some number of rounds ends in. -/
theorem AtLoopHead.exists_repeatWhile (h : AtLoopHead guard body s₀ s) :
    ∃ n, (repeatWhile guard body n).run s₀ = .ok () s := by
  -- `repeatWhile` unrolls at the front, so the rounds are taken off there
  induction h using Relation.ReflTransGen.head_induction_on with
  | refl => exact ⟨0, rfl⟩
  | head hstep _ ih =>
    obtain ⟨n, hn⟩ := ih
    refine ⟨n + 1, ?_⟩
    rw [run_repeatWhile_succ, if_pos hstep.1, run_bind_of_ok hstep.2, hn]

end Loop

end Prog

end Cpp
