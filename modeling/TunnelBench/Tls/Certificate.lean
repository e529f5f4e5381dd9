import TunnelBench.Failure
import TunnelBench.Tls.Der

/-!
# Certificates

Of a certificate only its form and the public key in it matter; its dates, names and
signature are never checked.
-/
namespace TunnelBench.Certificate

/-- The content of an element of a certificate is shorter than this. -/
def sizeLimit : Nat := 0xFFFF

/-- The content of an element with a tag, and what follows it. -/
def expect (tag : UInt8) (bytes : Bytes) : Except CertificateError (Bytes × Bytes) :=
  match Der.expect? tag bytes with
  | some found => if found.1.length < sizeLimit then .ok found else .error .encoding
  | none => .error .encoding

/-- The content of the only element, which must have a tag. -/
def only (tag : UInt8) (bytes : Bytes) : Except CertificateError Bytes := do
  let (content, rest) ← expect tag bytes
  if rest.isEmpty then .ok content else .error .encoding

/-- The version, which must be the third one, and what follows it. -/
def version (bytes : Bytes) : Except CertificateError Bytes :=
  match Der.expect? (Der.constructed 0) bytes with
  | none => .error .version
  | some (content, rest) => do
    let (written, after) ← expect Der.integer content
    match Der.magnitude? written with
    | some [digit] => if digit = 2 ∧ after.isEmpty then .ok rest else .error .version
    | _ => .error .encoding

/-- Whether an extension must be understood, and what follows. -/
def critical (bytes : Bytes) : Except CertificateError (Bool × Bytes) := do
  if Der.startsWith Der.boolean bytes then
    match ← expect Der.boolean bytes with
    | ([0xFF], rest) => .ok (true, rest)
    | ([0x00], rest) => .ok (false, rest)
    | _ => .error .encoding
  else .ok (false, bytes)

/-- The identifiers of the extensions that are understood: 15 is a bit string, the others are
sequences. -/
def understood : List UInt8 := [15, 17, 19, 30, 31, 37]

/-- The number of an extension that is understood. -/
def understoodNumber? : Bytes → Option UInt8
  | [0x55, 0x1D, number] => if understood.contains number then some number else none
  | _ => none

/-- Takes note of an extension, some others having been seen; the answer names all that were
seen. -/
def note (seen : List UInt8) (identifier : Bytes) (isCritical : Bool) (value : Bytes) :
    Except CertificateError (List UInt8) :=
  match understoodNumber? identifier with
  | none => if isCritical then .error .criticalExtension else .ok seen
  | some number =>
    if seen.contains number then .error .repeatedExtension
    else if number = 15 then .ok (number :: seen)
    else do
      let _ ← only Der.sequence value
      .ok (number :: seen)

/-- One extension, some others having been seen. What it is counts before what stands behind
its value. -/
def extension (seen : List UInt8) (bytes : Bytes) : Except CertificateError (List UInt8) := do
  let (identifier, rest) ← expect Der.objectIdentifier bytes
  let (isCritical, rest) ← critical rest
  let (value, rest) ← expect Der.octetString rest
  let seen ← note seen identifier isCritical value
  if rest.isEmpty then .ok seen else .error .encoding

/-- What follows an element is shorter. -/
theorem length_expect_lt {tag : UInt8} {bytes content rest : Bytes}
    (result : expect tag bytes = .ok (content, rest)) : rest.length < bytes.length := by
  unfold expect at result
  split at result
  · split at result
    · cases result
      exact Der.length_expect?_lt ‹_›
    · cases result
  · cases result

/-- All extensions of a sequence. -/
def extensions (seen : List UInt8) (bytes : Bytes) : Except CertificateError Unit :=
  if bytes.isEmpty then .ok ()
  else
    match _ : expect Der.sequence bytes with
    | .error error => .error error
    | .ok (content, rest) =>
      match extension seen content with
      | .error error => .error error
      | .ok seen => extensions seen rest
termination_by bytes.length
decreasing_by exact length_expect_lt ‹_›

/-- The part of a certificate that is signed, and the name of the signature's kind. -/
def signed (bytes : Bytes) : Except CertificateError (Bytes × Bytes) := do
  let content ← only Der.sequence bytes
  let (part, rest) ← expect Der.sequence content
  let (algorithm, rest) ← expect Der.sequence rest
  let signature ← only Der.bitString rest
  if (Der.wholeBytes? signature).isSome then .ok (part, algorithm) else .error .encoding

/-- What a certificate says about the key that it is for. -/
def keyInfo (bytes : Bytes) : Except CertificateError Bytes := do
  let (part, algorithm) ← signed bytes
  let rest ← version part
  let (_, rest) ← expect Der.integer rest
  let (sameAlgorithm, rest) ← expect Der.sequence rest
  if sameAlgorithm ≠ algorithm then .error .signatureAlgorithm
  else do
    let (_, rest) ← expect Der.sequence rest
    let (_, rest) ← expect Der.sequence rest
    let (_, rest) ← expect Der.sequence rest
    let (info, rest) ← expect Der.sequence rest
    if rest.isEmpty then .ok info
    else do
      let (tagged, rest) ← expect (Der.constructed 3) rest
      let (list, later) ← expect Der.sequence tagged
      extensions [] list
      if later.isEmpty ∧ rest.isEmpty then .ok info else .error .encoding

end TunnelBench.Certificate
