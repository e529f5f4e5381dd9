/-!
# Nesting of patterns

A pattern is a tree: what stands side by side is joined in a node, and groups, classes and
repetitions are nodes of their own. Only the heights of the parts matter here, because a
pattern may not be nested too deeply.
-/
namespace TunnelBench.Pattern

/-- The greatest height of a pattern. -/
def heightLimit : Nat := 250

/-- Parts side by side. -/
structure Sequence where
  /-- The number of parts. -/
  count : Nat := 0
  /-- The height of the tallest part. -/
  tallest : Nat := 0
  deriving DecidableEq, Repr

namespace Sequence

/-- One more part. -/
def add (height : Nat) (parts : Sequence) : Sequence :=
  ⟨parts.count + 1, max parts.tallest height⟩

/-- The height of the parts together: one part stands for itself. -/
def height (parts : Sequence) : Nat :=
  if parts.count ≤ 1 then parts.tallest else parts.tallest + 1

end Sequence

/-- The height of what is joined by signs: what stands before the last sign, if there is any, and
what stands behind it. -/
def joinedHeight (before : Option Nat) (last : Nat) : Nat :=
  match before with
  | none => last
  | some earlier => max earlier last + 1

end TunnelBench.Pattern
