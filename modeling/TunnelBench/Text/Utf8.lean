import TunnelBench.Bytes

/-!
# Decoding UTF-8

A byte string is cut into characters and broken parts. A broken part is a longest
start of some well-formed encoding that the next byte, or the end, cuts short; a
byte that starts no encoding is broken by itself. Strict decoding asks for no
broken part, lenient decoding writes U+FFFD for each.
-/
namespace TunnelBench.Utf8

/-- One piece of a decoded byte string. -/
inductive Segment where
  /-- A well-formed character. -/
  | char (value : Char)
  /-- Bytes that belong to no character. -/
  | broken (bytes : Bytes)
  deriving DecidableEq, Repr

/-- An encoding whose first bytes have been seen. -/
structure Unfinished where
  /-- The bytes seen so far, in order. -/
  seen : Bytes
  /-- The code point bits collected so far. -/
  bits : Nat
  /-- The number of bytes still to come, less one. -/
  later : Nat
  /-- The least next byte that continues the encoding. -/
  low : UInt8
  /-- The greatest next byte that continues the encoding. -/
  high : UInt8

/-- What a byte in first position means. -/
inductive Lead where
  /-- A whole character by itself. -/
  | single (value : Char)
  /-- The start of a longer encoding. -/
  | opens (unfinished : Unfinished)
  /-- No encoding starts so. -/
  | stray

/-- Classifies a first byte; overlong forms, surrogates and values above U+10FFFF are excluded
through the range of the second byte. -/
def lead (byte : UInt8) : Lead :=
  let unfinished (bits later : Nat) (low high : UInt8) : Lead :=
    .opens ⟨[byte], bits, later, low, high⟩
  if byte < 0x80 then .single (Char.ofNat byte.toNat)
  else if byte < 0xC2 then .stray
  else if byte < 0xE0 then unfinished (byte.toNat - 0xC0) 0 0x80 0xBF
  else if byte == 0xE0 then unfinished 0 1 0xA0 0xBF
  else if byte == 0xED then unfinished 0xD 1 0x80 0x9F
  else if byte < 0xF0 then unfinished (byte.toNat - 0xE0) 1 0x80 0xBF
  else if byte == 0xF0 then unfinished 0 2 0x90 0xBF
  else if byte < 0xF4 then unfinished (byte.toNat - 0xF0) 2 0x80 0xBF
  else if byte == 0xF4 then unfinished 4 2 0x80 0x8F
  else .stray

mutual

/-- Cuts a byte string at a character boundary. -/
def segments : Bytes → List Segment
  | [] => []
  | byte :: rest =>
    match lead byte with
    | .single value => .char value :: segments rest
    | .opens unfinished => continued unfinished rest
    | .stray => .broken [byte] :: segments rest

/-- Cuts what follows the first bytes of an encoding. -/
def continued (unfinished : Unfinished) : Bytes → List Segment
  | [] => [.broken unfinished.seen]
  | byte :: rest =>
    if unfinished.low ≤ byte ∧ byte ≤ unfinished.high then
      let bits := unfinished.bits * 64 + (byte.toNat - 0x80)
      match unfinished.later with
      | 0 => .char (Char.ofNat bits) :: segments rest
      | later + 1 => continued ⟨unfinished.seen ++ [byte], bits, later, 0x80, 0xBF⟩ rest
    else
      .broken unfinished.seen ::
        match lead byte with
        | .single value => .char value :: segments rest
        | .opens unfinished => continued unfinished rest
        | .stray => .broken [byte] :: segments rest

end

/-- The character of a segment, if it has one. -/
def Segment.char? : Segment → Option Char
  | .char value => some value
  | .broken _ => none

/-- The text of a well-formed byte string. -/
def decode? (bytes : Bytes) : Option String :=
  ((segments bytes).mapM Segment.char?).map String.ofList

/-- The text of any byte string, with U+FFFD in place of each broken part. -/
def decodeLossy (bytes : Bytes) : String :=
  String.ofList ((segments bytes).map fun segment => segment.char?.getD '\uFFFD')

end TunnelBench.Utf8
