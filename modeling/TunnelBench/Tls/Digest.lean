import TunnelBench.Tls.Der

/-!
# SHA-512

The digest of 64 bytes. Its constants are the first fraction bits of the square roots
and cube roots of the first primes, and they are computed as such.
-/
namespace TunnelBench.Digest

/-- The primes below a number. -/
def primesBelow (bound : Nat) : List Nat :=
  (List.range bound).filter fun candidate =>
    2 ≤ candidate && (List.range candidate).all fun divisor =>
      divisor < 2 || candidate % divisor != 0

/-- Sets the binary digits of a root from a position down to the lowest, keeping its power
within the value. -/
def rootFrom (degree value : Nat) : Nat → Nat → Nat
  | 0, root => root
  | position + 1, root =>
    let candidate := root + 2 ^ position
    rootFrom degree value position (if candidate ^ degree ≤ value then candidate else root)

/-- The first 64 fraction bits of a root. -/
def rootFraction (degree value : Nat) : UInt64 :=
  UInt64.ofNat (rootFrom degree (value <<< (64 * degree)) 72 0)

/-- The constants of the 80 rounds. -/
def roundConstants : Array UInt64 := ((primesBelow 410).map (rootFraction 3)).toArray

/-- The eight words of a state. -/
structure Words where
  a : UInt64
  b : UInt64
  c : UInt64
  d : UInt64
  e : UInt64
  f : UInt64
  g : UInt64
  h : UInt64
  deriving DecidableEq, Repr

/-- The state before the first block. -/
def start : Words :=
  ⟨rootFraction 2 2, rootFraction 2 3, rootFraction 2 5, rootFraction 2 7, rootFraction 2 11,
    rootFraction 2 13, rootFraction 2 17, rootFraction 2 19⟩

/-- A word with its bits moved to the right around its end. -/
def rotate (word : UInt64) (count : UInt64) : UInt64 :=
  (word >>> count) ||| (word <<< (64 - count))

/-- One round with a message word and a constant. -/
def round (words : Words) (message constant : UInt64) : Words :=
  let high := rotate words.e 14 ^^^ rotate words.e 18 ^^^ rotate words.e 41
  let choice := (words.e &&& words.f) ^^^ ((words.e ^^^ 0xFFFFFFFFFFFFFFFF) &&& words.g)
  let first := words.h + high + choice + constant + message
  let low := rotate words.a 28 ^^^ rotate words.a 34 ^^^ rotate words.a 39
  let majority := (words.a &&& words.b) ^^^ (words.a &&& words.c) ^^^ (words.b &&& words.c)
  ⟨first + (low + majority), words.a, words.b, words.c, words.d + first, words.e, words.f,
    words.g⟩

/-- The next message word from the 16 words before it. -/
def nextWord (window : Array UInt64) : UInt64 :=
  let early := window[1]?.getD 0
  let late := window[14]?.getD 0
  let first := rotate early 1 ^^^ rotate early 8 ^^^ (early >>> 7)
  let second := rotate late 19 ^^^ rotate late 61 ^^^ (late >>> 6)
  second + window[9]?.getD 0 + first + window[0]?.getD 0

/-- The rounds with the given constants, for a window of 16 message words. -/
def rounds (window : Array UInt64) (words : Words) : List UInt64 → Words
  | [] => words
  | constant :: later =>
    let message := window[0]?.getD 0
    rounds ((window.push (nextWord window)).extract 1 17) (round words message constant) later

/-- The state after a block of 16 message words. -/
def block (words : Words) (message : Array UInt64) : Words :=
  let mixed := rounds message words roundConstants.toList
  ⟨words.a + mixed.a, words.b + mixed.b, words.c + mixed.c, words.d + mixed.d,
    words.e + mixed.e, words.f + mixed.f, words.g + mixed.g, words.h + mixed.h⟩

/-- The first words of some bytes. -/
def wordsOf : Nat → Bytes → List UInt64
  | 0, _ => []
  | count + 1, bytes => UInt64.ofNat (Der.toNat (bytes.take 8)) :: wordsOf count (bytes.drop 8)

/-- A message with the mark of its end and its length, in whole blocks. -/
def padded (message : Bytes) : Bytes :=
  let gap := (239 - message.length % 128) % 128
  message ++ 0x80 :: List.replicate gap 0 ++ Der.ofNat 16 (message.length * 8)

/-- The state after all blocks of some bytes. -/
def blocks (words : Words) (bytes : Bytes) : Words :=
  if bytes.isEmpty then words
  else blocks (block words (wordsOf 16 bytes).toArray) (bytes.drop 128)
termination_by bytes.length
decreasing_by
  have := List.length_pos_iff.2 (show bytes ≠ [] by simp_all)
  simp
  omega

/-- The bytes of a state. -/
def Words.bytes (words : Words) : Bytes :=
  [words.a, words.b, words.c, words.d, words.e, words.f, words.g, words.h].flatMap fun word =>
    Der.ofNat 8 word.toNat

/-- The digest of a message. -/
def digest (message : Bytes) : Bytes := (blocks start (padded message)).bytes

end TunnelBench.Digest
