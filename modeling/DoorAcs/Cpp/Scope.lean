import DoorAcs.Cpp.Refinement

/-!
# Objects that live as long as a scope

A local object whose constructor acquires and whose destructor releases. The destructor runs however
the scope is left, and must not throw: that would terminate the program, which is a fault here.

* `Prog.inScope`: a scope with such an object.
* `Prog.Safe`: a program keeps an invariant and does not end with a fault. `safe_inScope` is the
  rule for scopes, with another invariant inside.
* `Prog.KeepsOrFaults`: a program keeps an invariant, and where it ends with a fault, another one
  holds. `keepsOrFaults_inScope` is the rule for scopes: a fault leaves the object inside.
* `Prog.Safe.toThrowing`: a safe program, as code on the states with the invariant whose only
  failures are exceptions.
-/

namespace Cpp

namespace Prog

variable {ε σ α β : Type}

/-- Code that must not throw: an exception terminates the program. -/
def noexcept (m : Prog ε σ α) : Prog ε σ α := fun s =>
  match m.run s with
  | .ok a s' => .ok a s'
  | .error _ s' => .error .fault s'

/-- A scope with an object: `acquire` constructs it, `release` destroys it. -/
def inScope (acquire release : Prog ε σ Unit) (body : Prog ε σ α) : Prog ε σ α := fun s =>
  match acquire.run s with
  -- an object that was not constructed is not destroyed
  | .error e s₁ => .error e s₁
  | .ok _ s₁ =>
    match body.run s₁ with
    | .ok a s₂ => (noexcept release >>= fun _ => pure a).run s₂
    | .error (.exception e) s₂ => (noexcept release >>= fun _ => raise e).run s₂
    | .error .fault s₂ => .error .fault s₂

section Scope

variable {acquire release : Prog ε σ Unit} {body : Prog ε σ α} {s s₁ s₂ s₃ : σ}

/-- Code that must not throw returns as it does. -/
theorem run_noexcept_eq_ok {m : Prog ε σ α} {a : α} :
    (noexcept m).run s = .ok a s₁ ↔ m.run s = .ok a s₁ := by
  simp only [noexcept, EStateM.run]
  cases m s <;> simp

/-- It never ends with an exception. -/
theorem run_noexcept_ne_exception {m : Prog ε σ α} {e : ε} :
    (noexcept m).run s ≠ .error (.exception e) s₁ := by
  simp only [noexcept, EStateM.run]
  cases m s <;> simp

/-- If the acquisition fails, so does the scope, and nothing is released. -/
theorem run_inScope_of_error {e : Failure ε} (h : acquire.run s = .error e s₁) :
    (inScope acquire release body).run s = .error e s₁ := by
  simp only [inScope, EStateM.run] at h ⊢
  rw [h]

/-- The scope is left as its body ends. -/
theorem run_inScope_of_ok {a : α} (hacquire : acquire.run s = .ok () s₁)
    (hbody : body.run s₁ = .ok a s₂) (hrelease : release.run s₂ = .ok () s₃) :
    (inScope acquire release body).run s = .ok a s₃ := by
  have hnoexcept := run_noexcept_eq_ok.mpr hrelease
  simp only [inScope, EStateM.run] at hacquire hbody ⊢
  rw [hacquire]
  dsimp only
  rw [hbody]
  exact run_bind_of_ok hnoexcept

/-- An exception of the body is passed on behind the release. -/
theorem run_inScope_of_exception {e : ε} (hacquire : acquire.run s = .ok () s₁)
    (hbody : body.run s₁ = .error (.exception e) s₂) (hrelease : release.run s₂ = .ok () s₃) :
    (inScope acquire release body).run s = .error (.exception e) s₃ := by
  have hnoexcept := run_noexcept_eq_ok.mpr hrelease
  simp only [inScope, EStateM.run] at hacquire hbody ⊢
  rw [hacquire]
  dsimp only
  rw [hbody]
  exact run_bind_of_ok hnoexcept

/-- Behind a fault of the body nothing is released. -/
theorem run_inScope_of_fault (hacquire : acquire.run s = .ok () s₁)
    (hbody : body.run s₁ = .error .fault s₂) :
    (inScope acquire release body).run s = .error .fault s₂ := by
  simp only [inScope, EStateM.run] at hacquire hbody ⊢
  rw [hacquire]
  dsimp only
  rw [hbody]

/-- What it takes to leave a scope with a value. -/
theorem run_inScope_eq_ok {a : α} :
    (inScope acquire release body).run s = .ok a s₃ ↔
      ∃ s₁ s₂, acquire.run s = .ok () s₁ ∧ body.run s₁ = .ok a s₂ ∧ release.run s₂ = .ok () s₃ := by
  refine ⟨fun h => ?_, fun ⟨s₁, s₂, hacquire, hbody, hrelease⟩ =>
    run_inScope_of_ok hacquire hbody hrelease⟩
  simp only [inScope, EStateM.run] at h ⊢
  split at h
  · cases h
  · split at h
    · obtain ⟨_, s', hrelease, hs'⟩ := run_bind_eq_ok.mp h
      cases hs'
      exact ⟨_, _, ‹_›, ‹_›, run_noexcept_eq_ok.mp hrelease⟩
    · obtain ⟨_, s', -, hs'⟩ := run_bind_eq_ok.mp h
      cases hs'
    · cases h

/-- What it takes to leave a scope with an exception. -/
theorem run_inScope_eq_exception {e : ε} :
    (inScope acquire release body).run s = .error (.exception e) s₃ ↔
      acquire.run s = .error (.exception e) s₃ ∨ ∃ s₁ s₂, acquire.run s = .ok () s₁ ∧
        body.run s₁ = .error (.exception e) s₂ ∧ release.run s₂ = .ok () s₃ := by
  constructor
  · intro h
    simp only [inScope, EStateM.run] at h ⊢
    split at h
    · cases h
      exact .inl ‹_›
    · split at h
      · rcases run_bind_eq_error.mp h with h | ⟨_, s', -, h⟩
        · exact absurd h run_noexcept_ne_exception
        · cases h
      · rcases run_bind_eq_error.mp h with h | ⟨_, s', hrelease, h⟩
        · exact absurd h run_noexcept_ne_exception
        · cases h
          exact .inr ⟨_, _, ‹_›, ‹_›, run_noexcept_eq_ok.mp hrelease⟩
      · cases h
  · rintro (h | ⟨s₁, s₂, hacquire, hbody, hrelease⟩)
    · exact run_inScope_of_error h
    · exact run_inScope_of_exception hacquire hbody hrelease

end Scope

section Preserves

variable {I : σ → Prop}

/-- Whether code may throw makes no difference to what it keeps. -/
theorem preserves_noexcept {m : Prog ε σ α} (h : Preserves I m) : Preserves I (noexcept m) := by
  intro s hs
  have hs' := h s hs
  simp only [finalState, noexcept, EStateM.run] at hs' ⊢
  rcases hm : m s with ⟨a, s'⟩ | ⟨e, s'⟩ <;> simpa only [hm] using hs'

/-- What the acquisition, the body and the release keep, the scope keeps. -/
theorem preserves_inScope {acquire release : Prog ε σ Unit} {body : Prog ε σ α}
    (hacquire : Preserves I acquire) (hrelease : Preserves I release) (hbody : Preserves I body) :
    Preserves I (inScope acquire release body) := by
  have hend {β : Type} (m : Prog ε σ β) (hm : Preserves I m) :
      Preserves I (noexcept release >>= fun _ => m) :=
    preserves_bind (preserves_noexcept hrelease) fun _ => hm
  intro s hs
  have hs₁ := hacquire s hs
  simp only [finalState, inScope, EStateM.run] at hs₁ ⊢
  rcases hrun : acquire s with ⟨_, s₁⟩ | ⟨e, s₁⟩
  · simp only [hrun] at hs₁
    have hs₂ := hbody s₁ hs₁
    simp only [finalState, EStateM.run] at hs₂
    dsimp only
    rcases hrun₂ : body s₁ with ⟨a, s₂⟩ | ⟨e | _, s₂⟩
    · simp only [hrun₂] at hs₂
      exact hend _ (preserves_pure a) s₂ hs₂
    · simp only [hrun₂] at hs₂
      exact hend _ (preserves_raise e) s₂ hs₂
    · simpa only [hrun₂] using hs₂
  · simpa only [hrun] using hs₁

end Preserves

/-! ## Programs without faults -/

/-- From states with the invariant `I`, the program does not end with a fault, and it keeps `I`. -/
structure Safe (I : σ → Prop) (m : Prog ε σ α) : Prop where
  keeps : Preserves I m
  ne_fault : ∀ {s s'}, I s → m.run s ≠ .error .fault s'

section Safe

variable {I J : σ → Prop}

/-- The invariant holds where a safe program returns. -/
theorem Safe.of_run_eq_ok {m : Prog ε σ α} (h : Safe I m) {s s' : σ} {a : α} (hs : I s)
    (hrun : m.run s = .ok a s') : I s' :=
  h.keeps.of_run_eq_ok hs hrun

/-- The invariant holds where a safe program throws. -/
theorem Safe.of_run_eq_error {m : Prog ε σ α} (h : Safe I m) {s s' : σ} {e : Failure ε} (hs : I s)
    (hrun : m.run s = .error e s') : I s' :=
  h.keeps.of_run_eq_error hs hrun

/-- Other invariants can be added. -/
theorem Safe.and {m : Prog ε σ α} (h : Safe I m) (hJ : Preserves J m) :
    Safe (fun s => J s ∧ I s) m :=
  ⟨fun s hs => ⟨hJ s hs.1, h.keeps s hs.2⟩, fun hs => h.ne_fault hs.2⟩

/-- A value is safe. -/
theorem safe_pure (a : α) : Safe (ε := ε) I (pure a) := ⟨preserves_pure a, fun _ h => nomatch h⟩

/-- An exception is safe. -/
theorem safe_raise (e : ε) : Safe I (raise e : Prog ε σ α) :=
  ⟨preserves_raise e, fun _ h => nomatch h⟩

/-- Looking at the object is safe. -/
theorem safe_get : Safe I (get : Prog ε σ σ) := ⟨preserves_get, fun _ h => nomatch h⟩

/-- A change is safe if it keeps the invariant. -/
theorem safe_modify {f : σ → σ} (h : ∀ s, I s → I (f s)) : Safe I (modify f : Prog ε σ PUnit) :=
  ⟨preserves_modify h, fun _ h => nomatch h⟩

/-- What comes behind `x` may rely on what is known of the values that `x` returns. -/
theorem safe_bind_of {P : α → Prop} {x : Prog ε σ α} {f : α → Prog ε σ β} (hx : Safe I x)
    (hP : ∀ {s a s'}, x.run s = .ok a s' → P a) (hf : ∀ a, P a → Safe I (f a)) :
    Safe I (x >>= f) := by
  refine ⟨fun s hs => ?_, fun {s s'} hs hrun => ?_⟩
  · cases h : x.run s with
    | ok a s₁ =>
      rw [finalState_bind_of_ok h]
      exact (hf a (hP h)).keeps s₁ (hx.of_run_eq_ok hs h)
    | error e s₁ =>
      rw [finalState_bind_of_error h]
      exact hx.of_run_eq_error hs h
  · rcases run_bind_eq_error.mp hrun with hfault | ⟨a, s₁, hok, hfault⟩
    · exact hx.ne_fault hs hfault
    · exact (hf a (hP hok)).ne_fault (hx.of_run_eq_ok hs hok) hfault

/-- A sequence of safe programs is safe. -/
theorem safe_bind {x : Prog ε σ α} {f : α → Prog ε σ β} (hx : Safe I x) (hf : ∀ a, Safe I (f a)) :
    Safe I (x >>= f) :=
  safe_bind_of (P := fun _ => True) hx (fun _ => trivial) fun a _ => hf a

/-- The result of a safe program can be dropped. -/
theorem Safe.discard {m : Prog ε σ α} (h : Safe I m) : Safe I (m >>= fun _ => pure ()) :=
  safe_bind h fun _ => safe_pure ()

/-- A branch between safe programs is safe. -/
theorem safe_ite {c : Prop} [Decidable c] {x y : Prog ε σ α} (hx : Safe I x) (hy : Safe I y) :
    Safe I (if c then x else y) := by
  split
  · exact hx
  · exact hy

/-- From states with the invariant `I`, the program keeps `I`, unless it ends with a fault: then it
does so in a state with `J`. -/
structure KeepsOrFaults (I J : σ → Prop) (m : Prog ε σ α) : Prop where
  of_ok : ∀ {s s' a}, I s → m.run s = .ok a s' → I s'
  of_exception : ∀ {s s' e}, I s → m.run s = .error (.exception e) s' → I s'
  of_fault : ∀ {s s'}, I s → m.run s = .error .fault s' → J s'

/-- A program that can be left without a fault only is safe. -/
theorem KeepsOrFaults.safe {m : Prog ε σ α} (h : KeepsOrFaults I J m)
    (hfault : ∀ s s', I s → m.run s ≠ .error .fault s') : Safe I m := by
  refine ⟨fun s hs => ?_, fun {s s'} hs => hfault s s' hs⟩
  cases hrun : m.run s with
  | ok a s' =>
    rw [finalState_of_ok hrun]
    exact h.of_ok hs hrun
  | error f s' =>
    rw [finalState_of_error hrun]
    cases f with
    | exception e => exact h.of_exception hs hrun
    | fault => exact absurd hrun (hfault s s' hs)

/-- The result of a program can be dropped. -/
theorem KeepsOrFaults.discard {m : Prog ε σ α} (h : KeepsOrFaults I J m) :
    KeepsOrFaults I J (m >>= fun _ => pure ()) where
  of_ok hs hrun := by
    obtain ⟨a, s', hm, hpure⟩ := run_bind_eq_ok.mp hrun
    cases hpure
    exact h.of_ok hs hm
  of_exception hs hrun := by
    rcases run_bind_eq_error.mp hrun with hm | ⟨a, s', -, hpure⟩
    · exact h.of_exception hs hm
    · cases hpure
  of_fault hs hrun := by
    rcases run_bind_eq_error.mp hrun with hm | ⟨a, s', -, hpure⟩
    · exact h.of_fault hs hm
    · cases hpure

section Rule

variable {acquire release : Prog ε σ Unit} {body : Prog ε σ α}
  (hacquire : ∀ s, I s → (∃ s', acquire.run s = .ok () s' ∧ J s') ∨
    ∃ e s', acquire.run s = .error (.exception e) s' ∧ I s')
  (hrelease : ∀ s, J s → ∃ s', release.run s = .ok () s' ∧ I s')
include hacquire hrelease

/-- A scope whose body keeps `J` is left in one of three ways. Only a fault of the body leaves the
object inside. -/
theorem exists_run_inScope (hbody : Preserves J body) {s : σ} (hs : I s) :
    (∃ a s', (inScope acquire release body).run s = .ok a s' ∧ I s') ∨
      (∃ e s', (inScope acquire release body).run s = .error (.exception e) s' ∧ I s') ∨
      ∃ s₁ s', J s₁ ∧ body.run s₁ = .error .fault s' ∧
        (inScope acquire release body).run s = .error .fault s' ∧ J s' := by
  rcases hacquire s hs with ⟨s₁, hrun, hs₁⟩ | ⟨e, s₁, hrun, hs₁⟩
  · cases h : body.run s₁ with
    | ok a s₂ =>
      obtain ⟨s₃, hreleased, hs₃⟩ := hrelease s₂ (hbody.of_run_eq_ok hs₁ h)
      exact .inl ⟨a, s₃, run_inScope_of_ok hrun h hreleased, hs₃⟩
    | error f s₂ =>
      have hs₂ := hbody.of_run_eq_error hs₁ h
      cases f with
      | exception e =>
        obtain ⟨s₃, hreleased, hs₃⟩ := hrelease s₂ hs₂
        exact .inr (.inl ⟨e, s₃, run_inScope_of_exception hrun h hreleased, hs₃⟩)
      | fault => exact .inr (.inr ⟨s₁, s₂, hs₁, h, run_inScope_of_fault hrun h, hs₂⟩)
  · exact .inr (.inl ⟨e, s₁, run_inScope_of_error hrun, hs₁⟩)

/-- The rule for scopes. `J` holds inside if the acquisition succeeds, and the release, which then
succeeds too, restores `I`. -/
theorem keepsOrFaults_inScope (hbody : Preserves J body) :
    KeepsOrFaults I J (inScope acquire release body) := by
  refine ⟨fun {s s' a} hs hrun => ?_, fun {s s' e} hs hrun => ?_, fun {s s'} hs hrun => ?_⟩ <;>
    rcases exists_run_inScope hacquire hrelease hbody hs with
      ⟨_, _, h, hend⟩ | ⟨_, _, h, hend⟩ | ⟨_, _, -, -, h, hend⟩ <;>
    cases h.symm.trans hrun <;> exact hend

/-- The rule for scopes without faults. -/
theorem safe_inScope (hbody : Safe J body) : Safe I (inScope acquire release body) := by
  refine (keepsOrFaults_inScope hacquire hrelease hbody.keeps).safe fun s s' hs hrun => ?_
  rcases exists_run_inScope hacquire hrelease hbody.keeps hs with
    ⟨_, _, h, -⟩ | ⟨_, _, h, -⟩ | ⟨_, _, hs₁, hfault, -, -⟩
  · cases h.symm.trans hrun
  · cases h.symm.trans hrun
  · exact hbody.ne_fault hs₁ hfault

end Rule

end Safe

/-! ## Interfaces without faults -/

section ToThrowing

variable {I : σ → Prop} {m : Prog ε σ α}

/-- A program without faults that keeps `I`, as code on the states with `I` whose only failures are
exceptions. -/
def Safe.toThrowing (h : Safe I m) : EStateM ε {s : σ // I s} α := fun s =>
  match hrun : m.run s.1 with
  | .ok a s' => .ok a ⟨s', h.of_run_eq_ok s.2 hrun⟩
  | .error (.exception e) s' => .error e ⟨s', h.of_run_eq_error s.2 hrun⟩
  | .error .fault _ => absurd hrun (h.ne_fault s.2)

/-- The code returns as the program does. -/
theorem Safe.run_toThrowing_eq_ok (h : Safe I m) {s s' : {s : σ // I s}} {a : α} :
    h.toThrowing.run s = .ok a s' ↔ m.run s.1 = .ok a s'.1 := by
  simp only [toThrowing, EStateM.run]
  split
  · simp_all [Subtype.ext_iff]
  · simp_all
  · exact absurd ‹_› (h.ne_fault s.2)

/-- The code throws as the program does. -/
theorem Safe.run_toThrowing_eq_error (h : Safe I m) {s s' : {s : σ // I s}} {e : ε} :
    h.toThrowing.run s = .error e s' ↔ m.run s.1 = .error (.exception e) s'.1 := by
  simp only [toThrowing, EStateM.run]
  split
  · simp_all
  · simp_all [Subtype.ext_iff]
  · exact absurd ‹_› (h.ne_fault s.2)

/-- What the program keeps besides, the code keeps. -/
theorem Safe.preserves_toThrowing (h : Safe I m) {J : σ → Prop} (hJ : Preserves J m) :
    Spec.Preserves (fun s : {s : σ // I s} => J s.1) (.ofThrowing h.toThrowing) :=
  Spec.preserves_ofThrowing
    (fun hs hrun => hJ.of_run_eq_ok hs (h.run_toThrowing_eq_ok.mp hrun))
    fun hs hrun => hJ.of_run_eq_error hs (h.run_toThrowing_eq_error.mp hrun)

end ToThrowing

end Prog

end Cpp
