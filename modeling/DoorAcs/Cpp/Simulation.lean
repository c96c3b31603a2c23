import DoorAcs.Cpp.Program

/-!
# Loops as transition systems

`Trace step t ls t'`: the transition system `step` goes from `t` to `t'` with the labels `ls`.

A loop follows a transition system if each round is a step of it, and there is a round wherever
there is a step. The object may hold more than the state of the system, and writes lines that the
labels determine. Then so many rounds are as many steps (`LoopFollows.exists_trace`,
`LoopFollows.exists_run`), and the loop goes on for good iff the system never gets stuck
(`LoopFollows.endless_iff`). `RoundFails` says how a round fails; from it, how the loop does
(`RoundFails.exists_trace`, `RoundFails.exists_error`).
-/

namespace Cpp

variable {ε σ τ ℓ ω : Type}

/-! ## Traces -/

/-- From `t`, the steps with the labels `ls` lead to `t'`. -/
inductive Trace (step : τ → ℓ → τ → Prop) : τ → List ℓ → τ → Prop where
  | nil (t : τ) : Trace step t [] t
  | cons {t l t₁ ls t'} (hstep : step t l t₁) (hrest : Trace step t₁ ls t') :
      Trace step t (l :: ls) t'

namespace Trace

variable {step : τ → ℓ → τ → Prop} {t t' : τ} {ls : List ℓ}

/-- If each step adds to a log what its label allows, a trace adds this step by step. -/
theorem exists_log {η : Type} (log : τ → List η) {P : ℓ → List η → Prop}
    (hlog : ∀ {t l t'}, step t l t' → ∃ part, P l part ∧ log t' = log t ++ part)
    (h : Trace step t ls t') :
    ∃ parts, List.Forall₂ P ls parts ∧ log t' = log t ++ parts.flatten := by
  induction h with
  | nil t => exact ⟨[], .nil, (List.append_nil _).symm⟩
  | cons hstep _ ih =>
    obtain ⟨part, hpart, hfirst⟩ := hlog hstep
    obtain ⟨parts, hparts, hrest⟩ := ih
    exact ⟨part :: parts, .cons hpart hparts,
      by rw [hrest, hfirst, List.flatten_cons, List.append_assoc]⟩

section Related

variable {υ : Type} {step' : υ → ℓ → υ → Prop} {R : τ → υ → Prop}

/-- Two traces of the same length from related states come to related states, and their labels agree
in what `f` shows of them. -/
theorem lockstep {κ : Type} {f : ℓ → κ}
    (hR : ∀ {t u t' u' l m}, R t u → step t l t' → step' u m u' → R t' u' ∧ f l = f m)
    {u u' : υ} {ms : List ℓ} (htrace : Trace step t ls t') (htrace' : Trace step' u ms u')
    (hlength : ls.length = ms.length) (h : R t u) : R t' u' ∧ ls.map f = ms.map f := by
  induction htrace generalizing u ms with
  | nil =>
    obtain rfl := List.length_eq_zero_iff.mp hlength.symm
    cases htrace'
    exact ⟨h, rfl⟩
  | @cons t l t₁ ls t' hstep hrest ih =>
    cases htrace' with
    | nil => cases hlength
    | cons hstep' hrest' =>
      obtain ⟨hR', hl⟩ := hR h hstep hstep'
      obtain ⟨ht, hls⟩ := ih hrest' (Nat.succ.inj hlength) hR'
      exact ⟨ht, by rw [List.map_cons, List.map_cons, hl, hls]⟩

/-- If related states have steps together, and go to related states, they have traces of the same
lengths. -/
theorem exists_of_related
    (hR : ∀ {t u l t'}, R t u → step t l t' → ∃ m u', step' u m u' ∧ R t' u')
    {u : υ} (htrace : Trace step t ls t') (h : R t u) :
    ∃ ms u', ms.length = ls.length ∧ Trace step' u ms u' := by
  induction htrace generalizing u with
  | nil => exact ⟨[], u, rfl, .nil u⟩
  | cons hstep _ ih =>
    obtain ⟨m, u₁, hstep', hR'⟩ := hR h hstep
    obtain ⟨ms, u', hlength, hrest⟩ := ih hR'
    exact ⟨m :: ms, u', by rw [List.length_cons, List.length_cons, hlength], .cons hstep' hrest⟩

end Related

end Trace

/-! ## Loops -/

namespace Prog

/-- Under the invariant `I` the loop `while (guard) body` goes on, and its rounds are the steps of
`step`. `view` is the state of the transition system in the object, and `out` is what the object
has written, to which a round adds the lines of its label. -/
structure LoopFollows (I : σ → Prop) (guard : σ → Bool) (body : Prog ε σ Unit) (view : σ → τ)
    (out : σ → List ω) (step : τ → ℓ → τ → Prop) (lines : ℓ → List ω) : Prop where
  guard_eq : ∀ {s}, I s → guard s = true
  keeps : ∀ {s s'}, I s → body.run s = .ok () s' → I s'
  exists_step : ∀ {s s'}, I s → body.run s = .ok () s' →
    ∃ l, step (view s) l (view s') ∧ out s' = out s ++ lines l
  exists_round : ∀ {s l t}, I s → step (view s) l t → ∃ s', body.run s = .ok () s' ∧ view s' = t

namespace LoopFollows

variable {I : σ → Prop} {guard : σ → Bool} {body : Prog ε σ Unit} {view : σ → τ}
  {out : σ → List ω} {step : τ → ℓ → τ → Prop} {lines : ℓ → List ω} {s s' : σ}
  (h : LoopFollows I guard body view out step lines)
include h

theorem run_succ (hs : I s) {s₁ : σ} (hbody : body.run s = .ok () s₁) (n : ℕ) :
    (repeatWhile guard body (n + 1)).run s = (repeatWhile guard body n).run s₁ := by
  rw [run_repeatWhile_succ, if_pos (h.guard_eq hs), run_bind_of_ok hbody]

/-- What the loop does in `n` rounds is a trace of `n` steps, and it has written the lines of the
labels. -/
theorem exists_trace {n : ℕ} (hs : I s) (hrun : (repeatWhile guard body n).run s = .ok () s') :
    I s' ∧ ∃ ls, ls.length = n ∧ Trace step (view s) ls (view s') ∧
      out s' = out s ++ ls.flatMap lines := by
  induction n generalizing s with
  | zero =>
    obtain rfl : s = s' := by simpa [repeatWhile] using hrun
    exact ⟨hs, [], rfl, .nil _, (List.append_nil _).symm⟩
  | succ n ih =>
    rw [run_repeatWhile_succ, if_pos (h.guard_eq hs)] at hrun
    obtain ⟨_, s₁, hbody, hrest⟩ := run_bind_eq_ok.mp hrun
    obtain ⟨l, hstep, hout⟩ := h.exists_step hs hbody
    obtain ⟨hI, ls, hlength, htrace, hlines⟩ := ih (h.keeps hs hbody) hrest
    refine ⟨hI, l :: ls, ?_, .cons hstep htrace, ?_⟩
    · rw [List.length_cons, hlength]
    · rw [hlines, hout, List.flatMap_cons, List.append_assoc]

/-- Where there is a trace, the loop does as many rounds. -/
theorem exists_run {ls : List ℓ} {t : τ} (hs : I s) (htrace : Trace step (view s) ls t) :
    ∃ s', (repeatWhile guard body ls.length).run s = .ok () s' ∧ view s' = t := by
  induction ls generalizing s with
  | nil =>
    cases htrace
    exact ⟨s, rfl, rfl⟩
  | cons l ls ih =>
    cases htrace with
    | cons hstep hrest =>
      obtain ⟨s₁, hbody, rfl⟩ := h.exists_round hs hstep
      obtain ⟨s', hrun, hview⟩ := ih (h.keeps hs hbody) hrest
      exact ⟨s', by rwa [List.length_cons, h.run_succ hs hbody], hview⟩

/-- The loop does `n` rounds iff there is a trace of `n` steps. -/
theorem exists_run_iff (n : ℕ) (hs : I s) :
    (∃ s', (repeatWhile guard body n).run s = .ok () s') ↔
      ∃ ls t, ls.length = n ∧ Trace step (view s) ls t := by
  constructor
  · rintro ⟨s', hrun⟩
    obtain ⟨-, ls, hlength, htrace, -⟩ := h.exists_trace hs hrun
    exact ⟨ls, _, hlength, htrace⟩
  · rintro ⟨ls, t, rfl, htrace⟩
    obtain ⟨s', hrun, -⟩ := h.exists_run hs htrace
    exact ⟨s', hrun⟩

/-- The loop does any number of rounds iff the transition system has a step from every state that it
comes to. -/
theorem endless_iff (hs : I s) :
    (∀ n, ∃ s', (repeatWhile guard body n).run s = .ok () s') ↔
      ∀ ls t, Trace step (view s) ls t → ∃ l t', step t l t' := by
  constructor
  · -- one more round than the trace has steps
    intro hruns ls t htrace
    obtain ⟨s₁, hrun, rfl⟩ := h.exists_run hs htrace
    have hI := (h.exists_trace hs hrun).1
    obtain ⟨s', hmore⟩ := hruns (ls.length + 1)
    rw [run_repeatWhile_add hrun, run_repeatWhile_succ, if_pos (h.guard_eq hI)] at hmore
    obtain ⟨_, s₂, hbody, -⟩ := run_bind_eq_ok.mp hmore
    obtain ⟨l, hstep, -⟩ := h.exists_step hI hbody
    exact ⟨l, _, hstep⟩
  · intro hlive n
    induction n generalizing s with
    | zero => exact ⟨s, rfl⟩
    | succ n ih =>
      obtain ⟨l, t, hstep⟩ := hlive [] _ (.nil _)
      obtain ⟨s₁, hbody, rfl⟩ := h.exists_round hs hstep
      obtain ⟨s', hrun⟩ := ih (h.keeps hs hbody) fun ls t htrace => hlive _ t (.cons hstep htrace)
      exact ⟨s', by rwa [h.run_succ hs hbody]⟩

end LoopFollows

/-- Under the invariant `I` a round fails as `ends` says: it ends the state of the transition system
with a failure and some last lines, and leaves another state. -/
structure RoundFails (I : σ → Prop) (body : Prog ε σ Unit) (view : σ → τ) (out : σ → List ω)
    (ends : τ → Failure ε → List ω → τ → Prop) : Prop where
  exists_end : ∀ {s s' f}, I s → body.run s = .error f s' →
    ∃ last, ends (view s) f last (view s') ∧ out s' = out s ++ last
  exists_failure : ∀ {s f last t}, I s → ends (view s) f last t →
    ∃ s', body.run s = .error f s' ∧ view s' = t

namespace RoundFails

variable {I : σ → Prop} {guard : σ → Bool} {body : Prog ε σ Unit} {view : σ → τ}
  {out : σ → List ω} {step : τ → ℓ → τ → Prop} {lines : ℓ → List ω}
  {ends : τ → Failure ε → List ω → τ → Prop} {s s' : σ} {f : Failure ε}

/-- A loop that fails has gone through a trace of fewer steps than it has rounds, and the round
behind it has failed. -/
theorem exists_trace (h : RoundFails I body view out ends)
    (hloop : LoopFollows I guard body view out step lines) {n : ℕ} (hs : I s)
    (hrun : (repeatWhile guard body n).run s = .error f s') :
    ∃ ls t last, ls.length < n ∧ Trace step (view s) ls t ∧ ends t f last (view s') ∧
      out s' = out s ++ (ls.flatMap lines ++ last) := by
  induction n generalizing s with
  | zero => cases hrun
  | succ n ih =>
    rw [run_repeatWhile_succ, if_pos (hloop.guard_eq hs)] at hrun
    rcases run_bind_eq_error.mp hrun with hbody | ⟨_, s₁, hbody, hrest⟩
    · -- the first round fails
      obtain ⟨last, hends, hout⟩ := h.exists_end hs hbody
      exact ⟨[], _, last, Nat.succ_pos n, .nil _, hends, hout⟩
    · obtain ⟨l, hstep, hout₁⟩ := hloop.exists_step hs hbody
      obtain ⟨ls, t, last, hlength, htrace, hends, hout⟩ := ih (hloop.keeps hs hbody) hrest
      refine ⟨l :: ls, t, last, Nat.succ_lt_succ hlength, .cons hstep htrace, hends, ?_⟩
      rw [hout, hout₁, List.flatMap_cons, List.append_assoc, List.append_assoc]

/-- Where a trace leads to an end, the loop fails if it has more rounds than the trace has steps. -/
theorem exists_error (h : RoundFails I body view out ends)
    (hloop : LoopFollows I guard body view out step lines) {n : ℕ} {ls : List ℓ} {t t' : τ}
    {last : List ω} (hs : I s) (hlength : ls.length < n) (htrace : Trace step (view s) ls t)
    (hends : ends t f last t') :
    ∃ s', (repeatWhile guard body n).run s = .error f s' ∧ view s' = t' := by
  obtain ⟨s₁, hrun, rfl⟩ := hloop.exists_run hs htrace
  have hI := (hloop.exists_trace hs hrun).1
  obtain ⟨s', hbody, hview⟩ := h.exists_failure hI hends
  refine ⟨s', ?_, hview⟩
  -- the rounds of the trace, and the one that fails
  obtain ⟨m, rfl⟩ := Nat.exists_eq_add_of_lt hlength
  rw [Nat.add_assoc, run_repeatWhile_add hrun, run_repeatWhile_succ,
    if_pos (hloop.guard_eq hI), run_bind_of_error hbody]

end RoundFails

end Prog

end Cpp
