import TunnelBench.Tls.Der
import TunnelBench.Tls.Field

/-!
# Elliptic curves

The two curves whose keys are accepted. A private key is a factor of the base point,
and the public key is the multiple.
-/
namespace TunnelBench

/-- A curve `y² = x³ - 3 x + b` over a prime field. -/
structure Curve where
  prime : Nat
  constant : Nat
  /-- The coordinates of the base point. -/
  base : Nat × Nat
  /-- The number of multiples of the base point. -/
  order : Nat
  /-- The number of bytes of a coordinate and of a factor. -/
  width : Nat
  /-- The element that names the curve. -/
  identifier : Bytes
  deriving DecidableEq, Repr

namespace Curve

/-- The curve with 256 bits. -/
def p256 : Curve where
  prime := 0xffffffff00000001000000000000000000000000ffffffffffffffffffffffff
  constant := 0x5ac635d8aa3a93e7b3ebbd55769886bc651d06b0cc53b0f63bce3c3e27d2604b
  base :=
    (0x6b17d1f2e12c4247f8bce6e563a440f277037d812deb33a0f4a13945d898c296,
      0x4fe342e2fe1a7f9b8ee7eb4a7c0f9e162bce33576b315ececbb6406837bf51f5)
  order := 0xffffffff00000000ffffffffffffffffbce6faada7179e84f3b9cac2fc632551
  width := 32
  identifier := [0x06, 0x08, 0x2A, 0x86, 0x48, 0xCE, 0x3D, 0x03, 0x01, 0x07]

/-- The curve with 384 bits; each number is written in two halves. -/
def p384 : Curve where
  prime := 0xffffffffffffffffffffffffffffffffffffffffffffffff <<< 192 +
    0xfffffffffffffffeffffffff0000000000000000ffffffff
  constant := 0xb3312fa7e23ee7e4988e056be3f82d19181d9c6efe814112 <<< 192 +
    0x0314088f5013875ac656398d8a2ed19d2a85c8edd3ec2aef
  base :=
    (0xaa87ca22be8b05378eb1c71ef320ad746e1d3b628ba79b98 <<< 192 +
        0x59f741e082542a385502f25dbf55296c3a545e3872760ab7,
      0x3617de4a96262c6f5d9e98bf9292dc29f8f41dbd289a147c <<< 192 +
        0xe9da3113b5f0b8c00a60b1ce1d7e819d7a431d7c90ea0e5f)
  order := 0xffffffffffffffffffffffffffffffffffffffffffffffff <<< 192 +
    0xc7634d81f4372ddf581a0db248b0a77aecec196accc52973
  width := 48
  identifier := [0x06, 0x05, 0x2B, 0x81, 0x04, 0x00, 0x22]

/-- A point with coordinates; the point at infinity has none. -/
abbrev Point := Option (Nat × Nat)

/-- The point where a line of some slope through two points leads to. -/
def third (curve : Curve) (slope : Nat) (left right : Nat × Nat) : Nat × Nat :=
  let minus := Field.subtract curve.prime
  let x := minus (minus (slope * slope % curve.prime) left.1) right.1
  (x, minus (slope * minus left.1 x % curve.prime) left.2)

/-- The sum of two points. -/
def add (curve : Curve) : Point → Point → Point
  | none, right => right
  | left, none => left
  | some left, some right =>
    let minus := Field.subtract curve.prime
    let divide (above below : Nat) : Nat :=
      above * Field.inverse curve.prime below % curve.prime
    if left.1 = right.1 then
      if (left.2 + right.2) % curve.prime = 0 then none
      else
        let slope := divide (3 * minus (left.1 * left.1 % curve.prime) 1) (2 * left.2)
        some (curve.third slope left left)
    else
      some (curve.third (divide (minus right.2 left.2) (minus right.1 left.1)) left right)

/-- A multiple of the base point. -/
def baseMultiple (curve : Curve) (factor : Nat) : Point :=
  Field.multiple curve.add none (some curve.base) factor

/-- A point as it is written: both coordinates in full. -/
def pointBytes (curve : Curve) : Point → Bytes
  | none => [0]
  | some (x, y) => 4 :: (Der.ofNat curve.width x ++ Der.ofNat curve.width y)

/-- The public key of a private key, whose factor must be in range. -/
def publicBytes? (curve : Curve) (factor : Bytes) : Option Bytes :=
  let value := Der.toNat factor
  if factor.length = curve.width ∧ 0 < value ∧ value < curve.order then
    some (curve.pointBytes (curve.baseMultiple value))
  else none

end Curve
end TunnelBench
