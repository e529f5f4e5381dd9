import TunnelBench.Text.Decimal

/-!
# Layout of patterns

A pattern can be laid out freely: then blanks in it, and comments from a number sign to
the end of the line, count for nothing.
-/
namespace TunnelBench.Pattern

/-- What remains after blanks and comments, perhaps from inside a comment on. -/
def skipFrom (inComment : Bool) : List Char → List Char
  | [] => []
  | char :: rest =>
    if inComment then skipFrom (char != '\n') rest
    else if Blank.isBlank char then skipFrom false rest
    else if char = '#' then skipFrom true rest
    else char :: rest

/-- What remains after the blanks and comments of a free layout. -/
def skip (free : Bool) (text : List Char) : List Char :=
  if free then skipFrom false text else text

/-- The next character that counts, if any does; of a comment only its sign is passed over. -/
def peek? (free : Bool) (text : List Char) : Option Char :=
  if free then
    let unblanked := text.dropWhile Blank.isBlank
    let counting :=
      match unblanked with
      | '#' :: rest => rest.dropWhile Blank.isBlank
      | _ => unblanked
    counting.head? <|> text.head?
  else text.head?

/-- What remains is no longer than the text. -/
theorem length_skipFrom_le (inComment : Bool) (text : List Char) :
    (skipFrom inComment text).length ≤ text.length := by
  induction text generalizing inComment with
  | nil => exact Nat.le_refl 0
  | cons char rest shorter =>
    unfold skipFrom
    split
    · exact Nat.le_succ_of_le (shorter _)
    · split
      · exact Nat.le_succ_of_le (shorter _)
      · split
        · exact Nat.le_succ_of_le (shorter _)
        · exact Nat.le_refl _

/-- Skipping makes no text longer. -/
theorem length_skip_le (free : Bool) (text : List Char) :
    (skip free text).length ≤ text.length := by
  unfold skip
  split
  · exact length_skipFrom_le false text
  · exact Nat.le_refl _

end TunnelBench.Pattern
