import TunnelBench.Failure

/-!
# Byte sources

A source is the list of what its reads will meet: data, or a fault. One read gives
at most one piece, and no more of it than there is room for; the rest of the piece
stays for the next read. A read that gives no bytes means the end, whether the
pieces are used up or a piece is empty.
-/
namespace TunnelBench

/-- What one read meets. -/
inductive Piece where
  /-- Bytes that arrive together. -/
  | data (bytes : Bytes)
  /-- A read that fails once. -/
  | fault (fault : Fault)
  deriving DecidableEq, Repr

/-- The reads still to come. -/
abbrev Source := List Piece

namespace Piece

/-- A bound on the number of reads that a piece can satisfy. -/
def weight : Piece → Nat
  | .data bytes => bytes.length + 1
  | .fault _ => 1

/-- The bytes that a piece delivers. -/
def content : Piece → Bytes
  | .data bytes => bytes
  | .fault _ => []

end Piece

namespace Source

/-- A bound on the number of reads until the end. -/
def weight : Source → Nat
  | [] => 0
  | piece :: rest => piece.weight + weight rest

/-- All bytes that a source delivers, its faults left out. -/
def content (source : Source) : Bytes := source.flatMap Piece.content

/-- One read into the given room. -/
def read (room : Nat) : Source → Except Fault Bytes × Source
  | [] => (.ok [], [])
  | .fault fault :: rest => (.error fault, rest)
  | .data bytes :: rest =>
    match bytes.drop room with
    | [] => (.ok bytes, rest)
    | byte :: later => (.ok (bytes.take room), .data (byte :: later) :: rest)

/-- A read that fails has met a fault. -/
theorem fault_of_read {room : Nat} {source rest : Source} {fault : Fault}
    (result : read room source = (.error fault, rest)) : source = .fault fault :: rest := by
  match source with
  | [] => simp [read] at result
  | .fault _ :: _ =>
    cases result
    rfl
  | .data bytes :: _ =>
    simp only [read] at result
    split at result <;> simp at result

/-- A read that does not fail has met the end, or a piece. It takes the piece, or as much from the
front of it as there is room for. -/
theorem piece_of_read {room : Nat} {source rest : Source} {bytes : Bytes}
    (result : read room source = (.ok bytes, rest)) :
    (bytes = [] ∧ source = [] ∧ rest = []) ∨
      (bytes.length ≤ room ∧ source = .data bytes :: rest) ∨
      ∃ byte left later, bytes.length = room ∧ source = .data (bytes ++ byte :: left) :: later ∧
        rest = .data (byte :: left) :: later := by
  match source with
  | [] =>
    cases result
    exact .inl ⟨rfl, rfl, rfl⟩
  | .fault _ :: _ => simp [read] at result
  | .data held :: later =>
    simp only [read] at result
    split at result
    · rename_i whole
      cases result
      exact .inr (.inl ⟨List.drop_eq_nil_iff.1 whole, rfl⟩)
    · rename_i byte left cut
      cases result
      have longer : room < held.length := by
        have length := congrArg List.length cut
        rw [List.length_drop, List.length_cons] at length
        omega
      refine .inr (.inr ⟨byte, left, later, List.length_take_of_le (Nat.le_of_lt longer), ?_, rfl⟩)
      rw [← cut, List.take_append_drop]

/-- A read that gives bytes leaves less to read. -/
theorem weight_read_ok_lt {room : Nat} {source rest : Source} {bytes : Bytes}
    (result : read room source = (.ok bytes, rest)) (given : bytes ≠ []) :
    rest.weight + bytes.length ≤ source.weight ∧ rest.weight < source.weight := by
  have positive : 0 < bytes.length := List.length_pos_iff.2 given
  obtain ⟨nothing, -, -⟩ | ⟨-, rfl⟩ | ⟨byte, left, later, -, rfl, rfl⟩ := piece_of_read result
  · exact absurd nothing given
  · simp only [weight, Piece.weight]
    omega
  · simp only [weight, Piece.weight, List.length_append, List.length_cons]
    omega

/-- A read that fails uses up its piece. -/
theorem weight_read_error_lt {room : Nat} {source rest : Source} {fault : Fault}
    (result : read room source = (.error fault, rest)) : rest.weight < source.weight := by
  rw [fault_of_read result, weight, Piece.weight]
  omega

end Source
end TunnelBench
