import TunnelBench.Tls.Armour
import TunnelBench.Tls.Curve
import TunnelBench.Tls.Edwards
import TunnelBench.Tls.Rsa

/-!
# Private keys

A private key comes in the format of its kind or in the common wrapper of all kinds.
What a certificate must say about it is its public part.
-/
namespace TunnelBench

/-- The kinds of keys. -/
inductive KeyKind where
  | rsa
  | curve
  | edwards
  deriving DecidableEq, Repr

/-- What is public about a key. -/
structure PublicKey where
  kind : KeyKind
  /-- The element that names the kind. -/
  algorithm : Bytes
  bits : Bytes
  deriving DecidableEq, Repr

namespace PublicKey

/-- What a certificate says about the key. -/
def info (key : PublicKey) : Bytes :=
  Der.encode Der.sequence key.algorithm ++ Der.encode Der.bitString (0 :: key.bits)

/-- The name of the kind of RSA keys. -/
def rsaAlgorithm : Bytes :=
  [0x06, 0x09, 0x2A, 0x86, 0x48, 0x86, 0xF7, 0x0D, 0x01, 0x01, 0x01, 0x05, 0x00]

/-- The name of the kind of keys on a curve. -/
def curveAlgorithm (curve : Curve) : Bytes :=
  [0x06, 0x07, 0x2A, 0x86, 0x48, 0xCE, 0x3D, 0x02, 0x01] ++ curve.identifier

/-- The name of the kind of keys on the twisted Edwards curve. -/
def edwardsAlgorithm : Bytes := [0x06, 0x03, 0x2B, 0x65, 0x70]

end PublicKey

/-- What matters about a private key. -/
structure KeyPair where
  publicPart : PublicKey
  /-- Whether the signatures made with the key come true. -/
  signs : Bool
  deriving DecidableEq, Repr

namespace PrivateKey

/-- The content of the common wrapper. -/
structure Wrapped where
  version : Nat
  algorithm : Bytes
  key : Bytes
  /-- The public part that newer wrappers carry. -/
  published : Option Bytes
  deriving DecidableEq, Repr

/-- The public part at the end of a newer wrapper, and what follows it. -/
def published? (bytes : Bytes) : Option (Bytes × Bytes) :=
  if Der.startsWith (Der.constructed 1) bytes then do
    let (content, rest) ← Der.expect? (Der.constructed 1) bytes
    let bits ← Der.only? Der.bitString content
    some (← Der.wholeBytes? bits, rest)
  else Der.bits? (Der.primitive 1) bytes

/-- Reads the common wrapper; attributes in it do not count. -/
def unwrap? (bytes : Bytes) : Option Wrapped := do
  let content ← Der.only? Der.sequence bytes
  let (version, rest) ← Der.small? content
  let (algorithm, rest) ← Der.expect? Der.sequence rest
  let (key, rest) ← Der.expect? Der.octetString rest
  let (_, rest) ←
    if Der.startsWith (Der.constructed 0) rest then Der.expect? (Der.constructed 0) rest
    else some ([], rest)
  let (published, rest) ←
    if version = 1 then (published? rest).map fun found => (some found.1, found.2)
    else some (none, rest)
  if rest.isEmpty ∧ version ≤ 1 then some ⟨version, algorithm, key, published⟩ else none

/-- An RSA key in its own format. -/
def rsa? (bytes : Bytes) : Option KeyPair := do
  let key ← Rsa.read? bytes
  some ⟨⟨.rsa, PublicKey.rsaAlgorithm, key.publicBytes⟩, key.signs⟩

/-- A key on a curve in its own format; its public part must be there and must be right. -/
def curve? (curve : Curve) (bytes : Bytes) : Option KeyPair := do
  let content ← Der.only? Der.sequence bytes
  let (version, rest) ← Der.small? content
  let (factor, rest) ← Der.expect? Der.octetString rest
  let (parameters, rest) ←
    if Der.startsWith (Der.constructed 0) rest then Der.expect? (Der.constructed 0) rest
    else some (curve.identifier, rest)
  let (wrapper, rest) ← Der.expect? (Der.constructed 1) rest
  let written ← (Der.only? Der.bitString wrapper).bind Der.wholeBytes?
  let bits ← curve.publicBytes? factor
  if version = 1 ∧ parameters = curve.identifier ∧ rest.isEmpty ∧ written = bits then
    some ⟨⟨.curve, PublicKey.curveAlgorithm curve, bits⟩, true⟩
  else none

/-- A key on the twisted Edwards curve; a public part that is given must be right. -/
def edwards? (wrapped : Wrapped) : Option KeyPair := do
  let bits ← Edwards.publicBytes? (← Der.only? Der.octetString wrapped.key)
  if wrapped.published.all (· == bits) then
    some ⟨⟨.edwards, PublicKey.edwardsAlgorithm, bits⟩, true⟩
  else none

/-- A key in the common wrapper. -/
def wrapped? (bytes : Bytes) : Option KeyPair := do
  let wrapped ← unwrap? bytes
  if wrapped.algorithm = PublicKey.edwardsAlgorithm then edwards? wrapped
  else if wrapped.version ≠ 0 then none
  else if wrapped.algorithm = PublicKey.rsaAlgorithm then rsa? wrapped.key
  else if wrapped.algorithm = PublicKey.curveAlgorithm .p256 then curve? .p256 wrapped.key
  else if wrapped.algorithm = PublicKey.curveAlgorithm .p384 then curve? .p384 wrapped.key
  else none

/-- The private key in a section. -/
def read? (part : Armour.Section) : Option KeyPair :=
  match part.label with
  | .rsaPrivateKey => rsa? part.content
  | .privateKey => wrapped? part.content
  | .ecPrivateKey => curve? .p256 part.content <|> curve? .p384 part.content
  | _ => none

end PrivateKey
end TunnelBench
