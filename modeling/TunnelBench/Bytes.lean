/-!
# Byte strings

Everything that travels through a tunnel is a list of bytes. This module holds
the few operations on them that know about ASCII: comparing names without regard
to case, trimming blanks, and moving between bytes and text.
-/
namespace TunnelBench

/-- A finite byte string. -/
abbrev Bytes := List UInt8

namespace Bytes

/-- The UTF-8 encoding of a text. -/
def ofString (text : String) : Bytes := text.toList.flatMap String.utf8EncodeChar

/-- The text whose characters have the given bytes as code points; exact for ASCII. -/
def toAscii (bytes : Bytes) : String := String.ofList (bytes.map fun byte => Char.ofNat byte.toNat)

/-- The line end of every head and every chunk. -/
def lineEnd : Bytes := [13, 10]

/-- Maps `A`–`Z` to `a`–`z` and keeps every other byte. -/
def lowerByte (byte : UInt8) : UInt8 := if 65 ≤ byte ∧ byte ≤ 90 then byte + 32 else byte

/-- The bytes with ASCII letters in lower case. -/
def lower (bytes : Bytes) : Bytes := bytes.map lowerByte

/-- Equality of names that ignores the case of ASCII letters and nothing else. -/
def sameName (left right : Bytes) : Bool := left.lower == right.lower

/-- The five ASCII blanks: tab, line feed, form feed, carriage return and space. -/
def isBlank (byte : UInt8) : Bool :=
  byte == 9 || byte == 10 || byte == 12 || byte == 13 || byte == 32

/-- Removes every trailing byte that satisfies the test. -/
def dropTrailing (test : UInt8 → Bool) (bytes : Bytes) : Bytes :=
  (bytes.reverse.dropWhile test).reverse

/-- Removes ASCII blanks from both ends. -/
def trim (bytes : Bytes) : Bytes := dropTrailing isBlank (bytes.dropWhile isBlank)

/-- What follows the last occurrence of a byte, or everything when there is none. -/
def afterLast (mark : UInt8) (bytes : Bytes) : Bytes :=
  (bytes.reverse.takeWhile (· != mark)).reverse

/-- The decimal digits of a number. -/
def ofNat (value : Nat) : Bytes := (Nat.toDigits 10 value).flatMap String.utf8EncodeChar

/-- Strict lexicographic order by byte value, a proper start being smaller. -/
def before : Bytes → Bytes → Bool
  | [], [] => false
  | [], _ :: _ => true
  | _ :: _, [] => false
  | left :: lefts, right :: rights => left < right || (left == right && before lefts rights)

end Bytes
end TunnelBench
