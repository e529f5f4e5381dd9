import TunnelBench.Bytes

/-!
# Parts and marks

Parts are put together with a mark between any two of them. As long as no part has the mark in
it, the whole can be taken apart again, and in one way only.
-/
namespace TunnelBench

/-- Parts behind a mark are parts between marks, the first one alone in front. -/
theorem intercalate_cons {α : Type} (mark first : List α) (parts : List (List α)) :
    mark.intercalate (first :: parts) = first ++ parts.flatMap (mark ++ ·) := by
  induction parts generalizing first with
  | nil => rw [List.intercalate_singleton, List.flatMap_nil, List.append_nil]
  | cons part parts ih =>
    rw [List.intercalate_cons_cons, ih, List.flatMap_cons, List.append_assoc, List.append_assoc]

/-- Parts without the mark in them are found again between marks. -/
theorem splitOn_marked {α : Type} [BEq α] [LawfulBEq α] {mark : α} {first : List α}
    {parts : List (List α)} (free : ∀ part ∈ first :: parts, mark ∉ part) :
    (first ++ parts.flatMap (mark :: ·)).splitOn mark = first :: parts := by
  have whole : [mark].intercalate (first :: parts) = first ++ parts.flatMap (mark :: ·) :=
    intercalate_cons [mark] first parts
  rw [← whole]
  exact List.splitOn_intercalate mark free (List.cons_ne_nil _ _)

/-- Parts without the mark in them are known from the parts behind marks. -/
theorem eq_of_marked {α : Type} [BEq α] [LawfulBEq α] {mark : α} {left right : List (List α)}
    (leftFree : ∀ part ∈ left, mark ∉ part) (rightFree : ∀ part ∈ right, mark ∉ part)
    (same : left.flatMap (mark :: ·) = right.flatMap (mark :: ·)) : left = right := by
  have leftSplit := splitOn_marked (List.forall_mem_cons.2 ⟨List.not_mem_nil, leftFree⟩)
  have rightSplit := splitOn_marked (List.forall_mem_cons.2 ⟨List.not_mem_nil, rightFree⟩)
  rw [same, rightSplit] at leftSplit
  exact (List.cons.inj leftSplit).2.symm

end TunnelBench
