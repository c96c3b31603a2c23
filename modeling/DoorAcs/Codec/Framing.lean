import Mathlib.Data.List.Basic

/-!
# Terminated frames

A stream of frames that all end with one terminator and contain it nowhere else. `cutAfter` cuts
a stream behind each terminator; on the concatenation of frames it finds the frames again
(`cutAfter_flatten`), so a stream has one reading as frames (`eq_of_flatten_eq`).
-/

namespace Framing

variable {α : Type} {t : α}

/-- `frame` ends with the terminator `t` and contains it nowhere else. -/
def IsFrame (t : α) (frame : List α) : Prop := ∃ body, t ∉ body ∧ frame = body ++ [t]

/-- Cut a stream behind each terminator. What follows the last terminator is the last piece. -/
def cutAfter [DecidableEq α] (t : α) : List α → List (List α)
  | [] => []
  | a :: rest =>
    if a = t then [a] :: cutAfter t rest
    -- any other element belongs to the piece behind it
    else match cutAfter t rest with
      | [] => [[a]]
      | piece :: pieces => (a :: piece) :: pieces

variable [DecidableEq α]

/-- The first frame of a stream is cut off whole. -/
theorem cutAfter_frame_append {frame : List α} (h : IsFrame t frame) (rest : List α) :
    cutAfter t (frame ++ rest) = frame :: cutAfter t rest := by
  obtain ⟨body, hbody, rfl⟩ := h
  -- induction on the body: the piece the rest of it begins is not empty
  induction body with
  | nil => simp [cutAfter]
  | cons a body ih =>
    have ha : a ≠ t := fun ha => hbody (ha ▸ List.mem_cons_self)
    have hcut := ih fun ht => hbody (List.mem_cons_of_mem a ht)
    rw [List.cons_append, List.cons_append, cutAfter, if_neg ha, hcut]

/-- Cutting the concatenation of frames gives the frames. -/
theorem cutAfter_flatten {frames : List (List α)} (h : ∀ frame ∈ frames, IsFrame t frame) :
    cutAfter t frames.flatten = frames := by
  induction frames with
  | nil => rfl
  | cons frame frames ih =>
    rw [List.forall_mem_cons] at h
    rw [List.flatten_cons, cutAfter_frame_append h.1, ih h.2]

/-- Frames are determined by their concatenation. -/
theorem eq_of_flatten_eq {frames frames' : List (List α)}
    (h : ∀ frame ∈ frames, IsFrame t frame) (h' : ∀ frame ∈ frames', IsFrame t frame)
    (heq : frames.flatten = frames'.flatten) : frames = frames' := by
  rw [← cutAfter_flatten h, heq, cutAfter_flatten h']

end Framing
