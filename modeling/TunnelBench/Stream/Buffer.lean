import TunnelBench.Bytes

/-!
# Growing buffers

A reader collects bytes in a block of memory. Bytes are taken from the front and
added at the back; when the back is reached, the bytes are moved to the front of the
block if at least half of it is free there, and otherwise the block grows. How much
one read can bring depends on the room left, and nothing else does.
-/
namespace TunnelBench

/-- The bytes that wait in a block of memory. -/
structure Buffer where
  /-- The bytes that are not yet used, in order. -/
  bytes : Bytes
  /-- The place in the block behind the last byte. -/
  filled : Nat
  /-- The size of the block. -/
  size : Nat
  deriving DecidableEq, Repr

namespace Buffer

/-- The size of a reader's first block. -/
def firstSize : Nat := 4096

/-- The room that is made when a full block has to take a read. -/
def leastRoom : Nat := 64

/-- The most room that is made at once for a declared body. -/
def mostRoom : Nat := 65536

/-- An empty buffer with its first block. -/
def empty : Buffer := ⟨[], 0, firstSize⟩

/-- The room behind the last byte. -/
def room (buffer : Buffer) : Nat := buffer.size - buffer.filled

/-- Makes room for a number of bytes. -/
def reserve (wanted : Nat) (buffer : Buffer) : Buffer :=
  let held := buffer.bytes.length
  let used := buffer.filled - held
  if wanted ≤ buffer.room then buffer
  else if wanted ≤ buffer.size - held ∧ held ≤ used then { buffer with filled := held }
  else { buffer with size := max (2 * buffer.size) (buffer.filled + wanted) }

/-- Makes the room wanted, and some in any case. -/
def prepare (wanted : Nat) (buffer : Buffer) : Buffer :=
  let buffer := buffer.reserve wanted
  if buffer.room = 0 then buffer.reserve leastRoom else buffer

/-- Adds received bytes behind the last one. -/
def append (received : Bytes) (buffer : Buffer) : Buffer :=
  { buffer with bytes := buffer.bytes ++ received, filled := buffer.filled + received.length }

/-- Keeps only the given bytes, the last ones. -/
def keep (rest : Bytes) (buffer : Buffer) : Buffer := { buffer with bytes := rest }

/-- Making room changes no byte. -/
@[simp] theorem bytes_reserve (wanted : Nat) (buffer : Buffer) :
    (buffer.reserve wanted).bytes = buffer.bytes := by
  simp only [reserve]
  split
  · rfl
  · split <;> rfl

/-- Making room changes no byte. -/
@[simp] theorem bytes_prepare (wanted : Nat) (buffer : Buffer) :
    (buffer.prepare wanted).bytes = buffer.bytes := by
  simp only [prepare]
  split <;> simp

/-- The room asked for is there. -/
theorem le_room_reserve (wanted : Nat) (buffer : Buffer) :
    wanted ≤ (buffer.reserve wanted).room := by
  simp only [reserve]
  split
  · assumption
  · split
    · simp only [room]; omega
    · simp only [room]; omega

/-- A prepared buffer can take a byte. -/
theorem room_prepare_pos (wanted : Nat) (buffer : Buffer) : 0 < (buffer.prepare wanted).room := by
  simp only [prepare]
  split
  · exact Nat.lt_of_lt_of_le (by decide) (le_room_reserve leastRoom _)
  · omega

/-- Received bytes stand behind the others. -/
@[simp] theorem bytes_append (received : Bytes) (buffer : Buffer) :
    (buffer.append received).bytes = buffer.bytes ++ received := rfl

/-- What is kept is what stays. -/
@[simp] theorem bytes_keep (rest : Bytes) (buffer : Buffer) : (buffer.keep rest).bytes = rest := rfl

end Buffer
end TunnelBench
