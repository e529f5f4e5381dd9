import Mathlib.Algebra.Group.Nat.Defs
import TunnelBench.Proofs.Stream.Reads

/-!
# What has been received

A reader that waits for the end of something takes nothing out of its buffer, so the
buffer holds what its reads brought. How much that is at each look is limited by the
block of memory, which doubles when it is full: while no more than a limit has been
received, one more read brings the bytes to twice the limit at most. What the source
brings in one piece fills the block to the brim each time.
-/
namespace TunnelBench

namespace Source

/-- A read brings no more than there is room for. -/
theorem length_le_of_read {room : Nat} {source rest : Source} {bytes : Bytes}
    (result : read room source = (.ok bytes, rest)) : bytes.length ≤ room := by
  obtain ⟨rfl, -, -⟩ | ⟨fits, -⟩ | ⟨_, _, _, full, -, -⟩ := piece_of_read result
  · exact Nat.zero_le room
  · exact fits
  · exact Nat.le_of_eq full

/-- A read takes its bytes from the front of the content. -/
theorem content_of_read_ok {room : Nat} {source rest : Source} {bytes : Bytes}
    (result : read room source = (.ok bytes, rest)) : source.content = bytes ++ rest.content := by
  obtain ⟨rfl, rfl, rfl⟩ | ⟨-, rfl⟩ | ⟨byte, left, later, -, rfl, rfl⟩ := piece_of_read result
  · rfl
  · rw [content_cons, Piece.content]
  · rw [content_cons, content_cons, Piece.content, Piece.content, List.append_assoc]

/-- A read of a piece brings all of it, or as much as there is room for. -/
theorem read_piece (room : Nat) (bytes : Bytes) (after : Source) :
    (bytes.length ≤ room ∧ read room (.data bytes :: after) = (.ok bytes, after)) ∨
      (room < bytes.length ∧ read room (.data bytes :: after) =
        (.ok (bytes.take room), .data (bytes.drop room) :: after)) := by
  by_cases fits : bytes.length ≤ room
  · left
    have nothing : bytes.drop room = [] := List.drop_eq_nil_iff.2 fits
    refine ⟨fits, ?_⟩
    simp only [read, nothing]
  · right
    have given : bytes.drop room ≠ [] := fun nothing => fits (List.drop_eq_nil_iff.1 nothing)
    obtain ⟨byte, later, left⟩ := List.exists_cons_of_ne_nil given
    refine ⟨by omega, ?_⟩
    simp only [read, left]

end Source

namespace Buffer

/-- A buffer that holds all it received, in a block of a bounded size. -/
structure Collects (bound : Nat) (buffer : Buffer) : Prop where
  unused : buffer.filled = buffer.bytes.length
  inside : buffer.filled ≤ buffer.size
  bounded : buffer.size ≤ bound

/-- An empty buffer holds all it received. -/
theorem collects_empty {bound : Nat} (least : firstSize ≤ bound) : empty.Collects bound :=
  ⟨rfl, Nat.zero_le _, least⟩

/-- No more is held than the bound allows. -/
theorem Collects.length_le {bound : Nat} {buffer : Buffer} (collects : buffer.Collects bound) :
    buffer.bytes.length ≤ bound := by
  have unused := collects.unused
  have inside := collects.inside
  have bounded := collects.bounded
  omega

/-- Some room in any case is what is made where none is asked for. -/
theorem prepare_zero (buffer : Buffer) :
    buffer.prepare 0 = if buffer.room = 0 then buffer.reserve leastRoom else buffer := by
  have same : buffer.reserve 0 = buffer := by
    simp only [reserve, Nat.zero_le, ↓reduceIte]
  simp only [prepare, same]

/-- A full block from which nothing was used is replaced by one of twice the size. -/
theorem prepare_of_full {buffer : Buffer} (unused : buffer.filled = buffer.bytes.length)
    (full : buffer.filled = buffer.size) (least : leastRoom ≤ buffer.size) :
    buffer.prepare 0 = { buffer with size := 2 * buffer.size } := by
  have positive : 0 < leastRoom := by decide
  have noRoom : buffer.room = 0 := by
    rw [room]
    omega
  have wanting : ¬leastRoom ≤ buffer.room := by omega
  have nothingUsed : ¬(leastRoom ≤ buffer.size - buffer.bytes.length ∧
      buffer.bytes.length ≤ buffer.filled - buffer.bytes.length) := by omega
  have doubled : max (2 * buffer.size) (buffer.filled + leastRoom) = 2 * buffer.size := by omega
  rw [prepare_zero, if_pos noRoom, reserve]
  simp only [if_neg wanting, if_neg nothingUsed, doubled]

/-- A block with room stays as it is where no room is asked for. -/
theorem prepare_of_room {buffer : Buffer} (positive : 0 < buffer.room) :
    buffer.prepare 0 = buffer := by
  rw [prepare_zero, if_neg (by omega)]

/-- Up to a limit the block does not grow beyond twice the limit. -/
theorem Collects.prepare {limit : Nat} {buffer : Buffer} (collects : buffer.Collects (2 * limit))
    (least : leastRoom ≤ buffer.size) (short : buffer.bytes.length ≤ limit) :
    (buffer.prepare 0).Collects (2 * limit) ∧ leastRoom ≤ (buffer.prepare 0).size := by
  by_cases full : buffer.filled = buffer.size
  · have unused := collects.unused
    rw [prepare_of_full unused full least]
    exact ⟨⟨unused, by dsimp only; omega, by dsimp only; omega⟩, by dsimp only; omega⟩
  · have inside := collects.inside
    have positive : 0 < buffer.room := by
      rw [room]
      omega
    rw [prepare_of_room positive]
    exact ⟨collects, least⟩

/-- What a read brings is added to what is held. -/
theorem Collects.append {bound : Nat} {buffer : Buffer} (collects : buffer.Collects bound)
    {received : Bytes} (fits : received.length ≤ buffer.room) :
    (buffer.append received).Collects bound := by
  have unused := collects.unused
  have inside := collects.inside
  rw [room] at fits
  refine ⟨?_, ?_, collects.bounded⟩
  · rw [bytes_append, List.length_append]
    change buffer.filled + received.length = _
    omega
  · change buffer.filled + received.length ≤ buffer.size
    omega

/-- Twice the size of a block is its size doubled once more. -/
theorem two_mul_size (times : Nat) :
    2 * (firstSize * 2 ^ times) = firstSize * 2 ^ (times + 1) := by
  rw [Nat.pow_succ', Nat.mul_left_comm]

/-- A buffer that was empty or full after each of its reads. -/
structure Brimming (buffer : Buffer) : Prop where
  unused : buffer.filled = buffer.bytes.length
  /-- The block doubles each time. -/
  doubled : ∃ times, buffer.size = firstSize * 2 ^ times
  brim : buffer.filled = buffer.size ∨ buffer = empty

/-- No read has been made with an empty buffer. -/
theorem brimming_empty : empty.Brimming := ⟨rfl, ⟨0, rfl⟩, .inr rfl⟩

/-- A block is larger than the room that is made at least. -/
theorem Brimming.least {buffer : Buffer} (brimming : buffer.Brimming) :
    leastRoom ≤ buffer.size := by
  obtain ⟨times, size⟩ := brimming.doubled
  have positive : 0 < 2 ^ times := Nat.two_pow_pos times
  rw [size]
  calc leastRoom ≤ firstSize * 1 := by decide
    _ ≤ firstSize * 2 ^ times := Nat.mul_le_mul_left firstSize positive

/-- A read that takes all the room fills the block again. -/
theorem Brimming.append {buffer : Buffer} (brimming : buffer.Brimming) {received : Bytes}
    (taken : received.length = (buffer.prepare 0).room) :
    ((buffer.prepare 0).append received).Brimming := by
  obtain ⟨times, size⟩ := brimming.doubled
  have unused := brimming.unused
  obtain full | rfl := brimming.brim
  · rw [prepare_of_full unused full brimming.least] at taken ⊢
    rw [room] at taken
    dsimp only at taken
    refine ⟨?_, ⟨times + 1, ?_⟩, .inl ?_⟩
    · change buffer.filled + received.length = (buffer.bytes ++ received).length
      rw [List.length_append, unused]
    · change 2 * buffer.size = _
      rw [size, two_mul_size]
    · change buffer.filled + received.length = 2 * buffer.size
      omega
  · have positive : 0 < empty.room := by decide
    rw [prepare_of_room positive] at taken ⊢
    refine ⟨?_, ⟨0, rfl⟩, .inl ?_⟩
    · change 0 + received.length = ([] ++ received).length
      rw [List.nil_append, Nat.zero_add]
    · change 0 + received.length = firstSize
      rw [taken]
      rfl

/-- A block filled to the brim with less than twice a size of blocks holds no more than that
size. -/
theorem Brimming.length_le {buffer : Buffer} (brimming : buffer.Brimming) {times : Nat}
    (short : buffer.bytes.length < 2 * (firstSize * 2 ^ times)) :
    buffer.bytes.length ≤ firstSize * 2 ^ times := by
  obtain ⟨doublings, size⟩ := brimming.doubled
  obtain full | rfl := brimming.brim
  · rw [← brimming.unused, full, size] at short ⊢
    rw [two_mul_size] at short
    have fewer : 2 ^ doublings < 2 ^ (times + 1) :=
      Nat.lt_of_mul_lt_mul_left short
    have before : doublings < times + 1 := (Nat.pow_lt_pow_iff_right (by decide)).1 fewer
    have bound : 2 ^ doublings ≤ 2 ^ times := Nat.pow_le_pow_right (by decide) (by omega)
    exact Nat.mul_le_mul_left firstSize bound
  · exact Nat.zero_le _

end Buffer

namespace Staged

variable {stage result : Type} {staged : Staged stage result}

/-- No read is made behind one that fails. -/
theorem rooms_fault {current : stage} {buffer : Buffer} {wanted : Nat} {fault : Fault}
    {source rest : Source} (undecided : staged.step current buffer.bytes = .more wanted)
    (received : source.read (buffer.prepare wanted).room = (.error fault, rest)) :
    staged.rooms current buffer source = [(buffer.prepare wanted).room] := by
  rw [rooms]
  split <;> simp_all
  split <;> simp_all

/-- No read is made behind one that brings nothing. -/
theorem rooms_ended {current : stage} {buffer : Buffer} {wanted : Nat} {source rest : Source}
    (undecided : staged.step current buffer.bytes = .more wanted)
    (received : source.read (buffer.prepare wanted).room = (.ok [], rest)) :
    staged.rooms current buffer source = [(buffer.prepare wanted).room] := by
  rw [rooms]
  split <;> simp_all
  split <;> simp_all

/-- After some of the reads that are made, the number of bytes received is between two bounds. -/
def Pauses (staged : Staged stage result) (current : stage) (buffer : Buffer) (source : Source)
    (low high : Nat) : Prop :=
  ∃ earlier later, staged.rooms current buffer source = earlier ++ later ∧
    low < buffer.bytes.length + (source.readEach earlier).1.length ∧
      buffer.bytes.length + (source.readEach earlier).1.length < high

/-- The bytes that are held before any read count. -/
theorem pauses_of_held {current : stage} {buffer : Buffer} {source : Source} {low high : Nat}
    (above : low < buffer.bytes.length) (below : buffer.bytes.length < high) :
    staged.Pauses current buffer source low high :=
  ⟨[], _, rfl, above, below⟩

/-- No read takes bytes away. -/
theorem not_pauses_of_le {current : stage} {buffer : Buffer} {source : Source} {low high : Nat}
    (reached : high ≤ buffer.bytes.length) : ¬staged.Pauses current buffer source low high := by
  rintro ⟨earlier, later, made, above, below⟩
  omega

/-- A read that brings nothing leads to no other number of bytes. -/
theorem not_pauses_of_last {current : stage} {buffer : Buffer} {source : Source} {low high : Nat}
    {room : Nat} (made : staged.rooms current buffer source = [room])
    (nothing : (source.readEach [room]).1 = []) (short : buffer.bytes.length ≤ low) :
    ¬staged.Pauses current buffer source low high := by
  rintro ⟨earlier, later, split, above, below⟩
  rw [made] at split
  cases earlier with
  | nil =>
    simp only [Source.readEach, List.length_nil] at above
    omega
  | cons first earlier =>
    obtain ⟨rfl, empty⟩ := List.cons.inj split
    obtain ⟨rfl, -⟩ := List.append_eq_nil_iff.1 empty.symm
    rw [nothing, List.length_nil] at above
    omega

/-- A read leads to the numbers of bytes that come behind it. -/
theorem pauses_received {current : stage} {buffer : Buffer} {wanted : Nat} {byte : UInt8}
    {bytes : Bytes} {source rest : Source} {low : Nat}
    (undecided : staged.step current buffer.bytes = .more wanted)
    (received : source.read (buffer.prepare wanted).room = (.ok (byte :: bytes), rest))
    (short : buffer.bytes.length ≤ low) (high : Nat) :
    staged.Pauses current buffer source low high ↔
      staged.Pauses current ((buffer.prepare wanted).append (byte :: bytes)) rest low high := by
  have made := rooms_received undecided received
  have held : ∀ earlier, buffer.bytes.length +
      (source.readEach ((buffer.prepare wanted).room :: earlier)).1.length =
        ((buffer.prepare wanted).append (byte :: bytes)).bytes.length +
          (rest.readEach earlier).1.length := by
    intro earlier
    rw [Source.readEach, received, Buffer.bytes_append, Buffer.bytes_prepare, List.length_append,
      List.length_append]
    omega
  constructor
  · rintro ⟨earlier, later, split, above, below⟩
    cases earlier with
    | nil =>
      simp only [Source.readEach, List.length_nil] at above
      omega
    | cons first earlier =>
      rw [made, List.cons_append, List.cons.injEq] at split
      obtain ⟨rfl, onward⟩ := split
      rw [held] at above below
      exact ⟨earlier, later, onward, above, below⟩
  · rintro ⟨earlier, later, split, above, below⟩
    refine ⟨(buffer.prepare wanted).room :: earlier, later, ?_, ?_, ?_⟩
    · rw [made, split, List.cons_append]
    · rw [held]
      exact above
    · rw [held]
      exact below

end Staged
end TunnelBench
