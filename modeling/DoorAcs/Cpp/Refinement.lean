import DoorAcs.Cpp.Program

/-!
# Refinement of a specification

A specification is a computation on a part of the object that returns a value or fails, without
saying how. A program refines it if the two return and fail together, on every object: with the
part in the specified state, and with a value that fits the specified one. What the object holds
besides is left open.

There is one rule for each way to build a program. `Refines.exists_run`, `Refines.exists_error`,
`Refines.of_run_eq_ok`, `Refines.of_run_eq_error` and `Refines.view_finalState` read runs off a
refinement. What the specification keeps (`Spec.Preserves`), the program keeps of the part.
-/

namespace Cpp

variable {ε ε' σ τ υ α β γ δ : Type}

/-! ## Specifications -/

/-- A computation on an object of type `τ` that returns a value or fails. -/
abbrev Spec (τ β : Type) := EStateM Unit τ β

namespace Spec

/-- A value that may be missing. -/
def ofOption : Option β → Spec τ β
  | some b => pure b
  | none => throw ()

/-- Code whose exceptions are of no interest. -/
def ofThrowing (m : EStateM ε τ β) : Spec τ β := fun t =>
  match m.run t with
  | .ok b t' => .ok b t'
  | .error _ t' => .error () t'

/-- The object as `spec` leaves it. -/
def finalState (spec : Spec τ β) (t : τ) : τ :=
  match spec.run t with
  | .ok _ t' => t'
  | .error _ t' => t'

variable {t t' : τ} {b : β}

/-- A value that is there is returned. -/
@[simp]
theorem run_ofOption_some (b : β) : (ofOption (some b) : Spec τ β).run t = .ok b t := rfl

/-- Without a value the specification fails, in the state it was in. -/
@[simp]
theorem run_ofOption_none : (ofOption none : Spec τ β).run t = .error () t := rfl

/-- What follows a value that is there gets it. -/
theorem ofOption_some_bind (b : β) (f : β → Spec τ δ) : (ofOption (some b) >>= f) = f b := rfl

/-- Code that throws is a specification that fails. -/
theorem run_ofThrowing (m : EStateM ε τ β) :
    (ofThrowing m).run t = match m.run t with
      | .ok b t' => .ok b t'
      | .error _ t' => .error () t' := rfl

/-- The specification returns what the code returns. -/
theorem run_ofThrowing_eq_ok {m : EStateM ε τ β} :
    (ofThrowing m).run t = .ok b t' ↔ m.run t = .ok b t' := by
  rw [run_ofThrowing]
  rcases m.run t with ⟨b₁, t₁⟩ | ⟨e, t₁⟩ <;> simp

/-- A sequence returns iff both specifications do, one after the other. -/
theorem run_bind_eq_ok {x : Spec τ β} {f : β → Spec τ δ} {d : δ} :
    (x >>= f).run t = .ok d t' ↔ ∃ b t₁, x.run t = .ok b t₁ ∧ (f b).run t₁ = .ok d t' := by
  rw [EStateM.run_bind]
  rcases x.run t with ⟨b₁, t₁⟩ | ⟨e, t₁⟩ <;> simp

/-- What follows starts where the first specification returned. -/
theorem run_bind_of_ok {x : Spec τ β} {f : β → Spec τ δ} {t₁ : τ} (h : x.run t = .ok b t₁) :
    (x >>= f).run t = (f b).run t₁ := by
  rw [EStateM.run_bind, h]

/-- What follows a failure is not run. -/
theorem run_bind_of_error {x : Spec τ β} {f : β → Spec τ δ} (h : x.run t = .error () t') :
    (x >>= f).run t = .error () t' := by
  rw [EStateM.run_bind, h]

/-- An optional value is returned iff it is there. -/
theorem run_ofOption_eq_ok {y : Option β} :
    (ofOption y : Spec τ β).run t = .ok b t' ↔ y = some b ∧ t = t' := by
  rcases y with _ | b₁ <;> simp

/-- The specification fails where the code throws, whatever the exception. -/
theorem run_ofThrowing_eq_error {m : EStateM ε τ β} :
    (ofThrowing m).run t = .error () t' ↔ ∃ e, m.run t = .error e t' := by
  rw [run_ofThrowing]
  rcases m.run t with ⟨b₁, t₁⟩ | ⟨e, t₁⟩ <;> simp

/-- A sequence fails iff the first specification does, or returns and the second fails. -/
theorem run_bind_eq_error {x : Spec τ β} {f : β → Spec τ δ} :
    (x >>= f).run t = .error () t' ↔
      x.run t = .error () t' ∨ ∃ b t₁, x.run t = .ok b t₁ ∧ (f b).run t₁ = .error () t' := by
  rw [EStateM.run_bind]
  rcases x.run t with ⟨b₁, t₁⟩ | ⟨e, t₁⟩ <;> simp

/-- An optional value fails iff it is not there. -/
theorem run_ofOption_eq_error {y : Option β} :
    (ofOption y : Spec τ β).run t = .error () t' ↔ y = none ∧ t = t' := by
  rcases y with _ | b₁ <;> simp

/-- A specification followed by a value that may be missing. -/
theorem run_bind_ofOption_eq_ok {x : Spec τ β} {f : β → Option δ} {d : δ} :
    (x >>= fun b => ofOption (f b)).run t = .ok d t' ↔
      ∃ b, x.run t = .ok b t' ∧ f b = some d := by
  simp only [run_bind_eq_ok, run_ofOption_eq_ok]
  constructor
  · rintro ⟨b, t₁, hx, hf, rfl⟩
    exact ⟨b, hx, hf⟩
  · rintro ⟨b, hx, hf⟩
    exact ⟨b, t', hx, hf, rfl⟩

/-- A value that may be missing leaves the object as it is. -/
theorem finalState_of_run_ofOption {spec : Spec τ β} {y : Option β}
    (h : spec.run t = (ofOption y).run t') : spec.finalState t = t' := by
  rw [finalState, h]
  rcases y with _ | b₁ <;> rfl

/-! ### Invariants -/

/-- Every way out of `spec` keeps the invariant `J` of the part. -/
def Preserves (J : τ → Prop) (spec : Spec τ β) : Prop := ∀ t, J t → J (spec.finalState t)

section Preserves

variable {J : τ → Prop}

/-- A value changes nothing. -/
theorem preserves_pure (b : β) : Preserves J (pure b : Spec τ β) := fun _ h => h

/-- A failure changes nothing. -/
theorem preserves_throw : Preserves J (throw () : Spec τ β) := fun _ h => h

/-- Looking at the state changes nothing. -/
theorem preserves_get : Preserves J (get : Spec τ τ) := fun _ h => h

/-- An optional value changes nothing. -/
theorem preserves_ofOption (y : Option β) : Preserves J (ofOption y) := by
  intro t h
  rcases y with _ | b <;> exact h

/-- Throwing code keeps `J` if it does so when it returns and when it throws. -/
theorem preserves_ofThrowing {m : EStateM ε τ β}
    (hok : ∀ {t b t'}, J t → m.run t = .ok b t' → J t')
    (herror : ∀ {t e t'}, J t → m.run t = .error e t' → J t') : Preserves J (ofThrowing m) := by
  intro t ht
  rw [finalState, run_ofThrowing]
  cases h : m.run t with
  | ok b t' => exact hok ht h
  | error e t' => exact herror ht h

/-- A sequence keeps what both of its parts keep. -/
theorem preserves_bind {x : Spec τ β} {f : β → Spec τ δ} (hx : Preserves J x)
    (hf : ∀ b, Preserves J (f b)) : Preserves J (x >>= f) := by
  intro t ht
  have ht' := hx t ht
  rw [finalState] at ht'
  -- `f` runs only if `x` returned
  cases h : x.run t with
  | ok b t₁ =>
    rw [h] at ht'
    rw [finalState, run_bind_of_ok h]
    exact hf b t₁ ht'
  | error e t₁ =>
    rw [h] at ht'
    rw [finalState, run_bind_of_error h]
    exact ht'

/-- A branch keeps what both of its sides keep. -/
theorem preserves_ite {c : Prop} [Decidable c] {x y : Spec τ β} (hx : Preserves J x)
    (hy : Preserves J y) : Preserves J (if c then x else y) := by
  split
  · exact hx
  · exact hy

/-- What is kept holds where the specification returns. -/
theorem Preserves.of_run_eq_ok {spec : Spec τ β} (h : Preserves J spec) (ht : J t)
    (hrun : spec.run t = .ok b t') : J t' := by
  have hkept := h t ht
  rwa [finalState, hrun] at hkept

/-- What is kept holds where the specification fails. -/
theorem Preserves.of_run_eq_error {spec : Spec τ β} (h : Preserves J spec) (ht : J t)
    (hrun : spec.run t = .error () t') : J t' := by
  have hkept := h t ht
  rwa [finalState, hrun] at hkept

end Preserves

end Spec

/-! ## Refinement -/

/-- A result and an optional value agree: both are there and fit, or neither is there. -/
def Agrees (V : α → β → Prop) : Except ε α → Option β → Prop
  | .ok a, some b => V a b
  -- which failure it is does not matter
  | .error _, none => True
  | _, _ => False

namespace Prog

/-- `m` refines `spec`. `view` is the part of the object that the specification is about, `V`
relates the values of the two. -/
def Refines (view : σ → τ) (V : α → β → Prop) (m : Prog ε σ α) (spec : Spec τ β) : Prop :=
  ∀ s, match m.run s, spec.run (view s) with
    | .ok a s', .ok b t => view s' = t ∧ V a b
    | .error _ s', .error _ t => view s' = t
    | _, _ => False

namespace Refines

variable {view : σ → τ} {V : α → β → Prop} {W : γ → δ → Prop} {m : Prog ε σ α}
  {spec : Spec τ β} {s s' : σ}

/-! ## Runs of a refinement -/

/-- Where the specification returns, the program does. -/
theorem exists_run (h : Refines view V m spec) {b : β} {t : τ}
    (hspec : spec.run (view s) = .ok b t) :
    ∃ a s', m.run s = .ok a s' ∧ view s' = t ∧ V a b := by
  have hs := h s
  rw [hspec] at hs
  cases hrun : m.run s with
  | ok a s' =>
    rw [hrun] at hs
    exact ⟨a, s', rfl, hs⟩
  | error e s' =>
    rw [hrun] at hs
    exact hs.elim

/-- Where the specification fails, the program does. -/
theorem exists_error (h : Refines view V m spec) {t : τ}
    (hspec : spec.run (view s) = .error () t) :
    ∃ e s', m.run s = .error e s' ∧ view s' = t := by
  have hs := h s
  rw [hspec] at hs
  cases hrun : m.run s with
  | ok a s' =>
    rw [hrun] at hs
    exact hs.elim
  | error e s' =>
    rw [hrun] at hs
    exact ⟨e, s', rfl, hs⟩

/-- A run that returns is specified. -/
theorem of_run_eq_ok (h : Refines view V m spec) {a : α} (hrun : m.run s = .ok a s') :
    ∃ b, spec.run (view s) = .ok b (view s') ∧ V a b := by
  have hs := h s
  rw [hrun] at hs
  cases hspec : spec.run (view s) with
  | ok b t =>
    rw [hspec] at hs
    obtain ⟨rfl, hV⟩ := hs
    exact ⟨b, rfl, hV⟩
  | error e t =>
    rw [hspec] at hs
    exact hs.elim

/-- A run that fails is specified to fail. -/
theorem of_run_eq_error (h : Refines view V m spec) {e : Failure ε}
    (hrun : m.run s = .error e s') : spec.run (view s) = .error () (view s') := by
  have hs := h s
  rw [hrun] at hs
  cases hspec : spec.run (view s) with
  | ok b t =>
    rw [hspec] at hs
    exact hs.elim
  | error e' t =>
    rw [hspec] at hs
    rw [hs]

/-- On return and on failure alike, the program leaves the part as specified. -/
theorem view_finalState (h : Refines view V m spec) (s : σ) :
    view (m.finalState s) = spec.finalState (view s) := by
  cases hspec : spec.run (view s) with
  | ok b t =>
    obtain ⟨a, s', hrun, hview, _⟩ := h.exists_run hspec
    rw [finalState_of_ok hrun, hview, Spec.finalState, hspec]
  | error e t =>
    obtain ⟨e', s', hrun, hview⟩ := h.exists_error hspec
    rw [finalState_of_error hrun, hview, Spec.finalState, hspec]

/-- What the specification keeps, the program keeps of the part. -/
theorem preserves (h : Refines view V m spec) {J : τ → Prop} (hspec : Spec.Preserves J spec) :
    Preserves (fun s => J (view s)) m := by
  intro s hs
  rw [h.view_finalState]
  exact hspec _ hs

/-! ## Rules -/

/-- Related values. -/
theorem pure {a : α} {b : β} (h : V a b) :
    Refines view V (pure a : Prog ε σ α) (Pure.pure b) :=
  fun _ => ⟨rfl, h⟩

/-- A computation that agrees with an optional value. -/
theorem lift {x : Except (Failure ε) α} {y : Option β} (h : Agrees V x y) :
    Refines view V (Prog.lift x) (.ofOption y) := by
  intro s
  match x, y, h with
  | .ok a, some b, h => exact ⟨rfl, h⟩
  | .error e, none, _ => exact rfl

/-- A local object that agrees with an optional value. -/
theorem onLocal {x : υ} {n : Prog ε υ α} {V : υ → β → Prop} {y : Option β}
    (h : match n.run x with
      | .ok _ x' => ∃ b, y = some b ∧ V x' b
      | .error _ _ => y = none) :
    Refines view V (Prog.onLocal x n) (.ofOption y) := by
  intro s
  cases hrun : n.run x with
  | ok a x' =>
    rw [hrun] at h
    obtain ⟨b, rfl, hV⟩ := h
    rw [run_onLocal_eq_ok.mpr ⟨⟨a, hrun⟩, rfl⟩]
    exact ⟨rfl, hV⟩
  | error e x' =>
    -- the local object is lost, and the object around it was not touched
    rw [hrun] at h
    subst h
    rw [run_onLocal_of_error hrun]
    exact rfl

/-- Code on the part itself. -/
theorem onField {set : σ → τ → σ} (hset : ∀ s t, view (set s t) = t) (n : EStateM ε τ α) :
    Refines view Eq (Prog.onField view set (.ofThrowing n)) (.ofThrowing n) := by
  intro s
  rw [Prog.run_onField, run_ofThrowing, Spec.run_ofThrowing]
  cases n.run (view s) with
  | ok a t => exact ⟨hset s t, rfl⟩
  | error e t => exact hset s t

/-- The rule for sequences. What follows has to refine for all related values. -/
theorem bind {k : α → Prog ε σ γ} {l : β → Spec τ δ} (hm : Refines view V m spec)
    (hk : ∀ a b, V a b → Refines view W (k a) (l b)) :
    Refines view W (m >>= k) (spec >>= l) := by
  intro s
  -- `m` returns or fails with `spec`, so both sequences go on or both end here
  cases hspec : spec.run (view s) with
  | ok b t =>
    obtain ⟨a, s₁, hrun, rfl, hV⟩ := hm.exists_run hspec
    rw [run_bind_of_ok hrun, Spec.run_bind_of_ok hspec]
    exact hk a b hV s₁
  | error e t =>
    obtain ⟨e', s₁, herror, hview⟩ := hm.exists_error hspec
    rw [run_bind_of_error herror, Spec.run_bind_of_error hspec]
    exact hview

/-- A step that the specification does not see, first in a sequence. -/
theorem modify_bind {f : σ → σ} {k : PUnit → Prog ε σ γ} {l : Spec τ δ}
    (hf : ∀ s, view (f s) = view s) (hk : Refines view W (k ⟨⟩) l) :
    Refines view W (modify f >>= k) l := by
  intro s
  rw [run_modify_bind, ← hf s]
  exact hk (f s)

/-- A look at the part, first in a sequence. -/
theorem get_bind {k : σ → Prog ε σ γ} {l : τ → Spec τ δ}
    (hk : ∀ s, Refines view W (k s) (l (view s))) : Refines view W (get >>= k) (get >>= l) :=
  fun s => hk s s

/-- An exception refines a failure. -/
theorem raise (e : ε) : Refines view V (Prog.raise e : Prog ε σ α) (throw () : Spec τ β) :=
  fun _ => rfl

/-- The rule for branches whose conditions are equivalent. -/
theorem ite {c d : Prop} [Decidable c] [Decidable d] {m' : Prog ε σ α} {spec' : Spec τ β}
    (hcond : c ↔ d) (hthen : d → Refines view V m spec)
    (helse : ¬ d → Refines view V m' spec') :
    Refines view V (if c then m else m') (if d then spec else spec') := by
  by_cases hd : d
  · rw [if_pos hd, if_pos (hcond.mpr hd)]
    exact hthen hd
  · rw [if_neg hd, if_neg fun hc => hd (hcond.mp hc)]
    exact helse hd

end Refines

end Prog

end Cpp
