import TunnelBench.Text.Printable
import TunnelBench.Text.Utf8

/-!
# Quoted text in messages

Messages show text and paths between double quotes. Inside, the quote and the
backslash stand behind a backslash, five control characters have short forms, other
hidden characters are written by code point, and bytes of a path that are no UTF-8
are written one by one.
-/
namespace TunnelBench.Quoted

/-- The digits of a number in lower-case hexadecimal. -/
def hexLower (value : Nat) : List Char := Nat.toDigits 16 value

/-- A byte as two upper-case hexadecimal digits. -/
def hexByte (byte : UInt8) : List Char :=
  [byte.toNat / 16, byte.toNat % 16].map fun digit => (Nat.digitChar digit).toUpper

/-- The form of one character inside quotes. -/
def escape (char : Char) : List Char :=
  if char = '"' ∨ char = '\\' then ['\\', char]
  else if char = '\n' then ['\\', 'n']
  else if char = '\r' then ['\\', 'r']
  else if char = '\t' then ['\\', 't']
  else if char.toNat = 0 then ['\\', '0']
  else if Printable.isHidden char then
    ['\\', 'u', Char.ofNat 0x7B] ++ hexLower char.toNat ++ [Char.ofNat 0x7D]
  else [char]

/-- The form of one segment of a path inside quotes. -/
def escapeSegment : Utf8.Segment → List Char
  | .char value => escape value
  | .broken bytes => bytes.flatMap fun byte => ['\\', 'x'] ++ hexByte byte

/-- Characters between double quotes. -/
def enclose (chars : List Char) : String := String.ofList ('"' :: chars ++ ['"'])

/-- A text in quotes. -/
def text (value : String) : String := enclose (value.toList.flatMap escape)

/-- Bytes in quotes, broken parts having been replaced first. -/
def lossy (bytes : Bytes) : String := text (Utf8.decodeLossy bytes)

/-- A path in quotes, with its broken bytes shown. -/
def path (bytes : Bytes) : String := enclose ((Utf8.segments bytes).flatMap escapeSegment)

end TunnelBench.Quoted
