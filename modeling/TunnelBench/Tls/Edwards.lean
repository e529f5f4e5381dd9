import TunnelBench.Tls.Digest
import TunnelBench.Tls.Field

/-!
# Keys on the twisted Edwards curve

A private key is a seed of 32 bytes. Its digest gives a factor of the base point, and
the public key is the multiple, written as one coordinate and the parity of the other.
-/
namespace TunnelBench.Edwards

/-- The prime of the field. -/
def prime : Nat := 0x7fffffffffffffffffffffffffffffffffffffffffffffffffffffffffffffed

/-- The coefficient of the curve `y² - x² = 1 + d x² y²`. -/
def coefficient : Nat :=
  Field.subtract prime 0 (121665 * Field.inverse prime 121666 % prime)

/-- The coordinates of the base point. -/
def base : Nat × Nat :=
  (15112221349535400772501151409588531511454012693041857206046113283949847762202,
    46316835694926478169428394003475163141307993866256225615783033603165251855960)

/-- The sum of two points. -/
def add (left right : Nat × Nat) : Nat × Nat :=
  let product := coefficient * (left.1 * right.1 % prime) % prime * (left.2 * right.2 % prime)
    % prime
  let divide (above below : Nat) : Nat := above * Field.inverse prime (below % prime) % prime
  (divide (left.1 * right.2 + left.2 * right.1) (1 + product),
    divide (left.2 * right.2 + left.1 * right.1) (1 + (prime - product)))

/-- The bytes of a number from the least significant on. -/
def toNatLow (bytes : Bytes) : Nat := Der.toNat bytes.reverse

/-- The highest bit of a factor; the bit above it tells a parity. -/
def highBit : Nat := 0x4000000000000000000000000000000000000000000000000000000000000000

/-- The factor that a digest stands for: its highest bit is set and its lowest ones are not. -/
def factorOf (digest : Bytes) : Nat :=
  let value := toNatLow (digest.take 32)
  (value % highBit / 8 * 8) + highBit

/-- The number of bytes of a seed. -/
def seedLength : Nat := 32

/-- The public key of a seed. -/
def publicBytes? (seed : Bytes) : Option Bytes :=
  if seed.length = seedLength then
    let point := Field.multiple add (0, 1) base (factorOf (Digest.digest seed))
    some (Der.ofNat 32 (point.2 + point.1 % 2 * (2 * highBit))).reverse
  else none

end TunnelBench.Edwards
