import Mathlib.Data.List.Infix

/-!
# Cutting a stream as it comes

A stream is cut behind the prefixes that a predicate selects. While it comes, `Cut` relates what has
come of it to the pieces that are complete and to the rest. Each element ends a piece
(`Cut.concat_of`) or adds to the rest (`Cut.concat_of_not`); at the end of the stream the rest is
the last piece (`Cut.isCut`). The pieces are determined by the stream (`IsCut.eq`).
-/

namespace Framing

variable {α : Type}

/-- `pieces` are what `text` falls into if it is cut behind the prefixes with `P` and only there. -/
structure IsCut (P : List α → Prop) (text : List α) (pieces : List (List α)) : Prop where
  flatten : pieces.flatten = text
  ne_nil : ∀ piece ∈ pieces, piece ≠ []
  boundary : ∀ p, p <+: text → p ≠ [] →
    ((∃ front, front <+: pieces ∧ front.flatten = p) ↔ P p ∨ p = text)

/-- Of `text`, `pieces` are complete and `rest` is not. -/
structure Cut (P : List α → Prop) (text : List α) (pieces : List (List α)) (rest : List α) :
    Prop where
  flatten : pieces.flatten ++ rest = text
  ne_nil : ∀ piece ∈ pieces, piece ≠ []
  boundary : ∀ p, p <+: text → p ≠ [] → ((∃ front, front <+: pieces ∧ front.flatten = p) ↔ P p)

variable {P : List α → Prop} {text rest : List α} {pieces : List (List α)} {a : α}

theorem cut_nil : Cut P [] [] [] :=
  ⟨rfl, fun _ h => absurd h List.not_mem_nil, fun _ hp hne => absurd (List.prefix_nil.mp hp) hne⟩

namespace Cut

/-- The complete pieces are not longer than the text. -/
theorem flatten_prefix (h : Cut P text pieces rest) : pieces.flatten <+: text :=
  ⟨rest, h.flatten⟩

/-- The boundaries lie within the text. -/
theorem flatten_ne_concat (h : Cut P text pieces rest) {front : List (List α)}
    (hfront : front <+: pieces) : front.flatten ≠ text ++ [a] := by
  intro heq
  have hlength := (hfront.flatten.trans h.flatten_prefix).length_le
  rw [heq, List.length_append, List.length_singleton] at hlength
  omega

/-- If there are complete pieces, the last of them was cut off behind a selected prefix. -/
theorem of_ne_nil (h : Cut P text pieces rest) (hpieces : pieces ≠ []) : P pieces.flatten := by
  refine (h.boundary _ h.flatten_prefix fun hnil => ?_).mp ⟨pieces, List.prefix_rfl, rfl⟩
  obtain ⟨piece, hpiece⟩ := List.exists_mem_of_ne_nil pieces hpieces
  exact h.ne_nil piece hpiece (List.flatten_eq_nil_iff.mp hnil piece hpiece)

/-- An element that ends a piece. -/
theorem concat_of (h : Cut P text pieces rest) (ha : P (text ++ [a])) :
    Cut P (text ++ [a]) (pieces ++ [rest ++ [a]]) [] := by
  have hflatten : (pieces ++ [rest ++ [a]]).flatten = text ++ [a] := by
    rw [List.flatten_append, List.flatten_singleton, ← List.append_assoc, h.flatten]
  refine ⟨(List.append_nil _).trans hflatten, ?_, ?_⟩
  · intro piece hpiece
    rcases List.mem_append.mp hpiece with hpiece | hpiece
    · exact h.ne_nil piece hpiece
    · rw [List.mem_singleton.mp hpiece]
      exact List.append_ne_nil_of_right_ne_nil _ (List.cons_ne_nil a [])
  · intro p hp hne
    rcases List.prefix_concat_iff.mp hp with rfl | hp
    · exact ⟨fun _ => ha, fun _ => ⟨_, List.prefix_rfl, hflatten⟩⟩
    · rw [← h.boundary p hp hne]
      constructor
      · rintro ⟨front, hfront, rfl⟩
        rcases List.prefix_concat_iff.mp hfront with rfl | hfront
        · have hlength := hp.length_le
          rw [hflatten, List.length_append, List.length_singleton] at hlength
          omega
        · exact ⟨front, hfront, rfl⟩
      · rintro ⟨front, hfront, rfl⟩
        exact ⟨front, hfront.trans (List.prefix_append _ _), rfl⟩

/-- An element that does not. -/
theorem concat_of_not (h : Cut P text pieces rest) (ha : ¬ P (text ++ [a])) :
    Cut P (text ++ [a]) pieces (rest ++ [a]) := by
  refine ⟨by rw [← List.append_assoc, h.flatten], h.ne_nil, fun p hp hne => ?_⟩
  rcases List.prefix_concat_iff.mp hp with rfl | hp
  · refine ⟨?_, fun hP => absurd hP ha⟩
    rintro ⟨front, hfront, heq⟩
    exact absurd heq (h.flatten_ne_concat hfront)
  · exact h.boundary p hp hne

/-- At the end of the stream. -/
theorem isCut [DecidableEq α] (h : Cut P text pieces rest) :
    IsCut P text (if rest = [] then pieces else pieces ++ [rest]) := by
  split_ifs with hrest
  · have hflatten : pieces.flatten = text := by
      rw [← h.flatten, hrest, List.append_nil]
    refine ⟨hflatten, h.ne_nil, fun p hp hne => ?_⟩
    rw [h.boundary p hp hne, iff_self_or, ← h.boundary p hp hne]
    rintro rfl
    exact ⟨pieces, List.prefix_rfl, hflatten⟩
  · have hflatten : (pieces ++ [rest]).flatten = text := by
      rw [List.flatten_append, List.flatten_singleton, h.flatten]
    refine ⟨hflatten, ?_, fun p hp hne => ?_⟩
    · intro piece hpiece
      rcases List.mem_append.mp hpiece with hpiece | hpiece
      · exact h.ne_nil piece hpiece
      · rwa [List.mem_singleton.mp hpiece]
    · rw [← h.boundary p hp hne]
      constructor
      · rintro ⟨front, hfront, rfl⟩
        rcases List.prefix_concat_iff.mp hfront with rfl | hfront
        · exact .inr hflatten
        · exact .inl ⟨front, hfront, rfl⟩
      · rintro (⟨front, hfront, rfl⟩ | rfl)
        · exact ⟨front, hfront.trans (List.prefix_append _ _), rfl⟩
        · exact ⟨_, List.prefix_rfl, hflatten⟩

end Cut

namespace IsCut

variable {piece piece' : List α} {pieces' : List (List α)}

/-- Behind its first piece, a cut stream is cut behind what completes a selected prefix. -/
theorem tail (h : IsCut P text (piece :: pieces)) :
    IsCut (fun p => P (piece ++ p)) pieces.flatten pieces := by
  refine ⟨rfl, fun p hp => h.ne_nil p (List.mem_cons_of_mem _ hp), fun p hp hne => ?_⟩
  have htext : piece ++ pieces.flatten = text := h.flatten
  have hboundary := h.boundary (piece ++ p) (htext ▸ (List.prefix_append_right_inj piece).mpr hp)
    (List.append_ne_nil_of_right_ne_nil _ hne)
  rw [← htext, List.append_cancel_left_eq] at hboundary
  rw [← hboundary]
  constructor
  · rintro ⟨front, hfront, rfl⟩
    exact ⟨piece :: front, List.cons_prefix_cons.mpr ⟨rfl, hfront⟩, rfl⟩
  · rintro ⟨front, hfront, heq⟩
    cases front with
    | nil => exact absurd heq.symm (List.append_ne_nil_of_right_ne_nil _ hne)
    | cons first front =>
      obtain ⟨rfl, hrest⟩ := List.cons_prefix_cons.mp hfront
      exact ⟨front, hrest, List.append_cancel_left heq⟩

/-- Every cut of a stream starts with the same piece. -/
theorem head_prefix (h : IsCut P text (piece :: pieces)) (h' : IsCut P text (piece' :: pieces')) :
    piece' <+: piece := by
  have hstart : piece <+: text := h.flatten ▸ List.prefix_append piece pieces.flatten
  have hne : piece ≠ [] := h.ne_nil piece List.mem_cons_self
  have hfirst : ∃ front, front <+: piece :: pieces ∧ front.flatten = piece :=
    ⟨[piece], List.cons_prefix_cons.mpr ⟨rfl, List.nil_prefix⟩, List.flatten_singleton⟩
  obtain ⟨front, hfront, rfl⟩ :=
    (h'.boundary piece hstart hne).mpr ((h.boundary piece hstart hne).mp hfirst)
  cases front with
  | nil => exact absurd rfl hne
  | cons first front =>
    obtain ⟨rfl, -⟩ := List.cons_prefix_cons.mp hfront
    exact List.prefix_append first front.flatten

theorem eq_nil (h : IsCut P [] pieces) : pieces = [] := by
  refine List.eq_nil_iff_forall_not_mem.mpr fun piece hpiece => h.ne_nil piece hpiece ?_
  exact List.flatten_eq_nil_iff.mp h.flatten piece hpiece

/-- A stream is cut in one way. -/
theorem eq (h : IsCut P text pieces) (h' : IsCut P text pieces') : pieces = pieces' := by
  induction pieces generalizing P text pieces' with
  | nil =>
    obtain rfl : [] = text := h.flatten
    rw [h'.eq_nil]
  | cons piece pieces ih =>
    cases pieces' with
    | nil =>
      obtain rfl : [] = text := h'.flatten
      exact h.eq_nil
    | cons piece' pieces' =>
      obtain rfl : piece = piece' := by
        have hle := h.head_prefix h'
        exact (hle.eq_of_length_le (h'.head_prefix h).length_le).symm
      have hflatten : pieces.flatten = pieces'.flatten :=
        List.append_cancel_left (h.flatten.trans h'.flatten.symm)
      rw [ih h.tail (hflatten ▸ h'.tail)]

end IsCut

end Framing
