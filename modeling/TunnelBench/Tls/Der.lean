import TunnelBench.Bytes

/-!
# Distinguished encoding

Certificates and keys are nested elements, each a tag, a length and a content. Tags
take one byte. Lengths are written in the shortest way and fit two bytes.
-/
namespace TunnelBench.Der

/-- The tag of a truth value. -/
def boolean : UInt8 := 0x01

/-- The tag of a number. -/
def integer : UInt8 := 0x02

/-- The tag of a bit string. -/
def bitString : UInt8 := 0x03

/-- The tag of a byte string. -/
def octetString : UInt8 := 0x04

/-- The tag of a registered name. -/
def objectIdentifier : UInt8 := 0x06

/-- The tag of a sequence of elements. -/
def sequence : UInt8 := 0x30

/-- The tag of a primitive element with a number from its context. -/
def primitive (number : UInt8) : UInt8 := 0x80 + number

/-- The tag of a constructed element with a number from its context. -/
def constructed (number : UInt8) : UInt8 := 0xA0 + number

/-- The number that bytes stand for, the most significant first. -/
def toNat (bytes : Bytes) : Nat := bytes.foldl (fun total byte => total * 256 + byte.toNat) 0

/-- A number in a fixed number of bytes, the most significant first. -/
def ofNat : Nat → Nat → Bytes
  | 0, _ => []
  | width + 1, value => UInt8.ofNat (value / 256 ^ width) :: ofNat width (value % 256 ^ width)

/-- A length and what follows it. -/
def length? : Bytes → Option (Nat × Bytes)
  | [] => none
  | first :: rest =>
    if first < 0x80 then some (first.toNat, rest)
    else
      match first, rest with
      | 0x81, only :: rest => if 0x80 ≤ only then some (only.toNat, rest) else none
      | 0x82, high :: low :: rest =>
        if high ≠ 0 then some (high.toNat * 256 + low.toNat, rest) else none
      | _, _ => none

/-- The first element, as tag and content, and what follows it. -/
def element? : Bytes → Option ((UInt8 × Bytes) × Bytes)
  | [] => none
  | tag :: rest => do
    let (length, rest) ← length? rest
    if tag &&& 0x1F = 0x1F ∨ rest.length < length then none
    else some ((tag, rest.take length), rest.drop length)

/-- The content of the first element, which must have a tag, and what follows it. -/
def expect? (tag : UInt8) (bytes : Bytes) : Option (Bytes × Bytes) := do
  let ((found, content), rest) ← element? bytes
  if found = tag then some (content, rest) else none

/-- What follows a length is no longer. -/
theorem length_length?_le {bytes rest : Bytes} {length : Nat}
    (found : length? bytes = some (length, rest)) : rest.length ≤ bytes.length := by
  unfold length? at found
  split at found
  · cases found
  · split at found
    · cases found
      simp
    · split at found <;> try split at found
      all_goals first | (cases found; simp; try omega) | cases found

/-- What follows an element is shorter. -/
theorem length_element?_lt {bytes content rest : Bytes} {tag : UInt8}
    (found : element? bytes = some ((tag, content), rest)) : rest.length < bytes.length := by
  cases bytes with
  | nil => cases found
  | cons first tail =>
    simp only [element?, Option.bind_eq_bind, Option.bind_eq_some_iff] at found
    obtain ⟨⟨length, after⟩, measured, taken⟩ := found
    have shorter := length_length?_le measured
    split at taken
    · cases taken
    · cases taken
      simp only [List.length_drop, List.length_cons]
      omega

/-- What follows an element with a tag is shorter. -/
theorem length_expect?_lt {tag : UInt8} {bytes content rest : Bytes}
    (found : expect? tag bytes = some (content, rest)) : rest.length < bytes.length := by
  simp only [expect?, Option.bind_eq_bind, Option.bind_eq_some_iff] at found
  obtain ⟨⟨⟨tag, content⟩, after⟩, first, same⟩ := found
  have shorter := length_element?_lt first
  split at same
  · cases same
    exact shorter
  · cases same

/-- The content of the only element, which must have a tag. -/
def only? (tag : UInt8) (bytes : Bytes) : Option Bytes := do
  let (content, rest) ← expect? tag bytes
  if rest.isEmpty then some content else none

/-- Whether the first element has a tag. -/
def startsWith (tag : UInt8) (bytes : Bytes) : Bool := bytes.head? == some tag

/-- The digits of a number that is not negative and is written in the shortest way. -/
def magnitude? : Bytes → Option Bytes
  | [] => none
  | [0] => some [0]
  | first :: second :: rest =>
    if first = 0 then if 0x80 ≤ second then some (second :: rest) else none
    else if first < 0x80 then some (first :: second :: rest)
    else none
  | [only] => if only < 0x80 then some [only] else none

/-- A number that is not negative, and what follows it. -/
def natural? (bytes : Bytes) : Option (Nat × Bytes) := do
  let (content, rest) ← expect? integer bytes
  let digits ← magnitude? content
  some (toNat digits, rest)

/-- A number of one byte, and what follows it. -/
def small? (bytes : Bytes) : Option (Nat × Bytes) := do
  let (value, rest) ← natural? bytes
  if value < 128 then some (value, rest) else none

/-- The bytes of a bit string, which must be whole bytes. -/
def wholeBytes? : Bytes → Option Bytes
  | 0 :: bytes => some bytes
  | _ => none

/-- A bit string of whole bytes with a tag, and what follows it. -/
def bits? (tag : UInt8) (bytes : Bytes) : Option (Bytes × Bytes) := do
  let (content, rest) ← expect? tag bytes
  let bits ← wholeBytes? content
  some (bits, rest)

/-- A length in the shortest way. -/
def lengthBytes (length : Nat) : Bytes :=
  if length < 128 then [UInt8.ofNat length]
  else if length < 256 then [0x81, UInt8.ofNat length]
  else [0x82, UInt8.ofNat (length / 256), UInt8.ofNat (length % 256)]

/-- An element. -/
def encode (tag : UInt8) (content : Bytes) : Bytes :=
  tag :: lengthBytes content.length ++ content

/-- The number of bytes of a number. -/
def byteLength (value : Nat) : Nat := if value = 0 then 1 else Nat.log2 value / 8 + 1

/-- A number that is not negative, in the shortest way. -/
def encodeNatural (value : Nat) : Bytes :=
  let digits := ofNat (byteLength value) value
  encode integer (if digits.head?.any (0x80 ≤ ·) then 0 :: digits else digits)

end TunnelBench.Der
