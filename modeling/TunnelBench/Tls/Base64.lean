import TunnelBench.Failure

/-!
# Base64

Bytes written with 64 characters, four for every three bytes. Blanks may stand
anywhere. Padding may be left out, and it may stand only at the very end.
-/
namespace TunnelBench.Base64

/-- What a character stands for. -/
inductive Symbol where
  /-- Six bits. -/
  | bits (value : Nat)
  /-- The place of missing bits. -/
  | pad
  deriving DecidableEq, Repr

/-- The characters that do not count. -/
def isBlank (byte : UInt8) : Bool := (9 ≤ byte && byte ≤ 13) || byte == 32

/-- The symbol of a character in the alphabet. -/
def symbol? (byte : UInt8) : Option Symbol :=
  if 65 ≤ byte ∧ byte ≤ 90 then some (.bits (byte.toNat - 65))
  else if 97 ≤ byte ∧ byte ≤ 122 then some (.bits (byte.toNat - 71))
  else if 48 ≤ byte ∧ byte ≤ 57 then some (.bits (byte.toNat + 4))
  else if byte = 43 then some (.bits 62)
  else if byte = 47 then some (.bits 63)
  else if byte = 61 then some .pad
  else none

/-- The first bytes of 24 bits. -/
def bytesOf (count first second third fourth : Nat) : Bytes :=
  let word := ((first * 64 + second) * 64 + third) * 64 + fourth
  [UInt8.ofNat (word / 65536), UInt8.ofNat (word / 256 % 256), UInt8.ofNat (word % 256)].take count

/-- The bytes of a group that other groups follow. -/
def innerGroup : List Symbol → Except ArmourError Bytes
  | [.bits first, .bits second, .bits third, .bits fourth] =>
    .ok (bytesOf 3 first second third fourth)
  | _ => .error .earlyPadding

/-- The bytes of the last group. -/
def lastGroup : List Symbol → Except ArmourError Bytes
  | [] => .ok []
  | [.bits first, .bits second, .bits third, .bits fourth] =>
    .ok (bytesOf 3 first second third fourth)
  | [.bits first, .bits second, .bits third, .pad] => .ok (bytesOf 2 first second third 0)
  | [.bits first, .bits second, .bits third] => .ok (bytesOf 2 first second third 0)
  | [.bits first, .bits second, .pad, .pad] => .ok (bytesOf 1 first second 0 0)
  | [.bits first, .bits second] => .ok (bytesOf 1 first second 0 0)
  | _ => .error .lastGroup

/-- The bytes of a block of two groups that other blocks follow. -/
def innerBlock (block : List Symbol) : Except ArmourError Bytes := do
  let first ← innerGroup (block.take 4)
  let second ← innerGroup (block.drop 4)
  .ok (first ++ second)

/-- The bytes of the last block of at most two groups. -/
def lastBlock (block : List Symbol) : Except ArmourError Bytes := do
  if 4 < block.length then
    let first ← innerGroup (block.take 4)
    let second ← lastGroup (block.drop 4)
    .ok (first ++ second)
  else lastGroup block

/-- Reads on with an open block and the bytes of the earlier ones, both latest first. -/
def decodeFrom (block : List Symbol) (read : Bytes) : Bytes → Except ArmourError Bytes
  | [] => do
    let last ← lastBlock block.reverse
    .ok (read.reverse ++ last)
  | byte :: rest =>
    if isBlank byte then decodeFrom block read rest
    else
      match symbol? byte with
      | none => .error (.character byte)
      | some symbol =>
        if block.length = 8 then
          match innerBlock block.reverse with
          | .ok bytes => decodeFrom [symbol] (bytes.reverse ++ read) rest
          | .error error => .error error
        else decodeFrom (symbol :: block) read rest

/-- The bytes that a text stands for. -/
def decode (text : Bytes) : Except ArmourError Bytes := decodeFrom [] [] text

end TunnelBench.Base64
