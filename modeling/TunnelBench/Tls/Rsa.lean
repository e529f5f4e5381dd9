import TunnelBench.Tls.Der
import TunnelBench.Tls.Field

/-!
# RSA keys

A private key is two primes and what follows from them. A key is accepted if its
sizes are usual ones and its parts fit each other. That the exponents fit each other
shows only in signing, where every signature is checked before it is given away.
-/
namespace TunnelBench.Rsa

/-- The parts of a private key in the order in which they are written. -/
structure PrivateKey where
  modulus : Nat
  publicExponent : Nat
  privateExponent : Nat
  firstPrime : Nat
  secondPrime : Nat
  /-- The private exponent for the first prime. -/
  firstExponent : Nat
  /-- The private exponent for the second prime. -/
  secondExponent : Nat
  /-- The inverse of the second prime for the first one. -/
  coefficient : Nat
  deriving DecidableEq, Repr

/-- The number of binary digits. -/
def bitLength (value : Nat) : Nat := if value = 0 then 0 else Nat.log2 value + 1

/-- An odd number. -/
def isOdd (value : Nat) : Bool := value % 2 == 1

/-- The fewest bits of a modulus. -/
def leastBits : Nat := 2048

/-- The most bits of a modulus. -/
def mostBits : Nat := 4096

/-- The modulus has a usual size, its last byte being counted whole. -/
def PrivateKey.modulusIsUsual (key : PrivateKey) : Bool :=
  let bits := bitLength key.modulus
  isOdd key.modulus && leastBits ≤ (bits + 7) / 8 * 8 && bits ≤ mostBits

/-- The least public exponent. -/
def leastExponent : Nat := 65537

/-- A public exponent is less than this. -/
def exponentBound : Nat := 0x200000000

/-- The public exponent is odd and of a usual size. -/
def PrivateKey.exponentIsUsual (key : PrivateKey) : Bool :=
  isOdd key.publicExponent && leastExponent ≤ key.publicExponent &&
    key.publicExponent < exponentBound

/-- The primes are odd, have half the bits of the modulus, and their product vanishes modulo
the modulus. -/
def PrivateKey.primesFit (key : PrivateKey) : Bool :=
  let half := (bitLength key.modulus + 1) / 2
  isOdd key.firstPrime && isOdd key.secondPrime && half % 512 == 0 &&
    bitLength key.firstPrime == half && bitLength key.secondPrime == half &&
    key.firstPrime * key.secondPrime % key.modulus == 0

/-- The private exponents are odd and in range, and the coefficient is the inverse. -/
def PrivateKey.exponentsFit (key : PrivateKey) : Bool :=
  isOdd key.privateExponent && key.privateExponent < key.modulus &&
    (bitLength key.modulus + 1) / 2 < bitLength key.privateExponent &&
    isOdd key.firstExponent && key.firstExponent < key.firstPrime &&
    isOdd key.secondExponent && key.secondExponent < key.secondPrime &&
    key.coefficient < key.firstPrime &&
    key.coefficient * key.secondPrime % key.firstPrime == 1

/-- A key that can be used. -/
def PrivateKey.isUsable (key : PrivateKey) : Bool :=
  key.modulusIsUsual && key.exponentIsUsual && key.primesFit && key.exponentsFit

/-- The parts of a key, all of them being read from one sequence. -/
def parts? (content : Bytes) : Option PrivateKey := do
  let (version, rest) ← Der.natural? content
  let (modulus, rest) ← Der.natural? rest
  let (publicExponent, rest) ← Der.natural? rest
  let (privateExponent, rest) ← Der.natural? rest
  let (firstPrime, rest) ← Der.natural? rest
  let (secondPrime, rest) ← Der.natural? rest
  let (firstExponent, rest) ← Der.natural? rest
  let (secondExponent, rest) ← Der.natural? rest
  let (coefficient, rest) ← Der.natural? rest
  if version = 0 ∧ rest.isEmpty then
    some ⟨modulus, publicExponent, privateExponent, firstPrime, secondPrime, firstExponent,
      secondExponent, coefficient⟩
  else none

/-- A usable key in its own format. -/
def read? (bytes : Bytes) : Option PrivateKey := do
  let key ← parts? (← Der.only? Der.sequence bytes)
  if key.isUsable then some key else none

/-- The signature of a number: a power for each prime, put together into one number. -/
def PrivateKey.sign (key : PrivateKey) (number : Nat) : Nat :=
  let first := Field.power key.firstPrime (number % key.firstPrime) key.firstExponent
  let second := Field.power key.secondPrime (number % key.secondPrime) key.secondExponent
  let difference := Field.subtract key.firstPrime first (second % key.firstPrime)
  second + key.secondPrime * (key.coefficient * difference % key.firstPrime)

/-- Whether the public exponent leads from the signature of a number back to the number. -/
def PrivateKey.verifies (key : PrivateKey) (number : Nat) : Bool :=
  Field.power key.modulus (key.sign number) key.publicExponent == number % key.modulus

/-- Numbers that stand for all that is signed. -/
def samples : List Nat := [2, 3, 5, 7]

/-- Whether signatures come true. What is signed is padded at random, so exponents that do not
fit each other never sign. -/
def PrivateKey.signs (key : PrivateKey) : Bool := samples.all key.verifies

/-- The public part of a key. -/
def PrivateKey.publicBytes (key : PrivateKey) : Bytes :=
  Der.encode Der.sequence
    (Der.encodeNatural key.modulus ++ Der.encodeNatural key.publicExponent)

end TunnelBench.Rsa
