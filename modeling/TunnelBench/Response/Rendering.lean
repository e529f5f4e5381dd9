import TunnelBench.Response.Basic

/-!
# Writing responses

A response is written as a status line, its length, its headers in order, an empty
line and the body. A body that has to be read is read to its end first, and a length
that was declared must be the length of the body.
-/
namespace TunnelBench

/-- Reads a source to its end; interrupted reads are made again. -/
def Source.drain : Source → Except Fault Bytes
  | [] => .ok []
  | .fault (.interrupted _) :: rest => drain rest
  | .fault fault :: _ => .error fault
  | .data [] :: _ => .ok []
  | .data (byte :: bytes) :: rest => do
    let later ← drain rest
    .ok (byte :: bytes ++ later)

namespace Body

/-- The bytes of a body. -/
def content : Body → Except Failure Bytes
  | .fixed data => .ok data
  | .reader source =>
    match source.drain with
    | .ok bytes => .ok bytes
    | .error fault => .error (.io (.stream fault))

/-- The length that a body declares by itself when it is written. -/
def impliedLength : Body → Bytes → Option Nat
  | .fixed _, _ => none
  | .reader _, drained => some drained.length

end Body

namespace Response

/-- The parts of a response as they are written. -/
structure Written where
  version : Version
  status : Status
  reason : String
  /-- The length that the head declares. -/
  declared : Option Nat
  headers : List (String × String)
  body : Bytes

/-- The bytes of a body that may be missing, and the length that goes with them. -/
def measured (response : Response) : Except Failure (Bytes × Option Nat) :=
  match response.body with
  | none => .ok ([], response.contentLength)
  | some body => do
    let bytes ← body.content
    .ok (bytes, response.contentLength <|> body.impliedLength bytes)

/-- The reason that is written: the one given, else the phrase of the status, else nothing. -/
def writtenReason (response : Response) : String :=
  (response.reason <|> response.status.phrase?).getD ""

/-- Settles what is written; a declared length has to be true. -/
def settle (response : Response) : Except Failure Written := do
  let (body, declared) ← response.measured
  let written : Written :=
    ⟨response.version, response.status, response.writtenReason, declared, response.headers, body⟩
  match declared with
  | none => .ok written
  | some length =>
    if length = body.length then .ok written else .error (.lengthMismatch length body.length)

/-- A line and its end. -/
def line (content : Bytes) : Bytes := content ++ Bytes.lineEnd

/-- A header line. -/
def headerLine (name value : Bytes) : Bytes := line (name ++ Bytes.ofString ": " ++ value)

/-- The status line. -/
def Written.statusLine (written : Written) : Bytes :=
  line (Bytes.ofString written.version.text ++ [32] ++ Bytes.ofNat written.status.code ++ [32] ++
    Bytes.ofString written.reason)

/-- The header lines, the declared length before all others. -/
def Written.headerLines (written : Written) : Bytes :=
  (match written.declared with
    | some length => headerLine (Bytes.ofString "Content-Length") (Bytes.ofNat length)
    | none => []) ++
  written.headers.flatMap fun header =>
    headerLine (Bytes.ofString header.1) (Bytes.ofString header.2)

/-- All bytes of a settled response. -/
def Written.bytes (written : Written) : Bytes :=
  written.statusLine ++ written.headerLines ++ Bytes.lineEnd ++ written.body

/-- Writes a response. -/
def render (response : Response) : Except Failure Bytes := do
  let written ← response.settle
  .ok written.bytes

/-- A response is written as it is settled. -/
theorem render_of_settle {response : Response} {written : Written}
    (settled : response.settle = .ok written) : response.render = .ok written.bytes := by
  rw [render, settled]
  rfl

end Response
end TunnelBench
