import TunnelBench.Failure
import TunnelBench.Text.Decimal

/-!
# Body framing

The headers of a request say how its body is delimited. A transfer coding decides
alone if there is one; otherwise the declared lengths do, and they have to agree.
-/
namespace TunnelBench

/-- A header line of a request. -/
structure Header where
  name : Bytes
  value : Bytes
  deriving DecidableEq, Repr

/-- How the body of a request is delimited. -/
inductive Framing where
  /-- No body follows. -/
  | none
  /-- A number of bytes follows. -/
  | length (size : Nat)
  /-- Chunks with their own sizes follow. -/
  | chunked
  deriving DecidableEq, Repr

namespace Header

/-- A header has a name if the two are the same but for the case of ASCII letters. -/
def isNamed (name : String) (header : Header) : Bool := header.name.sameName (.ofString name)

end Header

namespace Framing

/-- Lengths and chunk sizes are below this bound. -/
def sizeBound : Nat := UInt64.size

/-- The number that a length header declares. -/
def declaredLength? (value : Bytes) : Option Nat := do
  let text ← Utf8.decode? value
  Decimal.read? sizeBound (Blank.trim text.toList)

/-- The framing that a transfer coding stands for: only its last part matters. -/
def ofTransferEncoding (value : Bytes) : Except Malformed Framing :=
  if (value.afterLast 44).trim.sameName (.ofString "chunked") then .ok .chunked
  else .error (.transferEncoding value)

/-- The length that all values declare, if there are any. -/
def agreedLength : Option Nat → List Bytes → Except Malformed (Option Nat)
  | known, [] => .ok known
  | known, value :: rest =>
    match declaredLength? value with
    | .none => .error (.contentLength value)
    | .some size =>
      match known with
      | .none => agreedLength (.some size) rest
      | .some other => if other = size then agreedLength known rest else .error .conflictingLengths

/-- The framing that headers declare. -/
def ofHeaders (headers : List Header) : Except Malformed Framing :=
  match (headers.filter (·.isNamed "transfer-encoding")).getLast? with
  | .some coding => ofTransferEncoding coding.value
  | .none => do
    match ← agreedLength .none ((headers.filter (·.isNamed "content-length")).map (·.value)) with
    | .none => .ok .none
    | .some size => .ok (.length size)

end Framing
end TunnelBench
