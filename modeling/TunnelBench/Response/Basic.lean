import TunnelBench.Response.Status
import TunnelBench.Stream.Source

/-!
# Responses

A response is described step by step and then written once. Its headers keep the
order in which their names were first set, and a name is set again whatever the case
of its letters. Setting a body of bytes declares its length.
-/
namespace TunnelBench

/-- The versions that a status line can name. -/
inductive Version where
  | http09
  | http10
  | http11
  | http2
  | http3
  deriving DecidableEq, Repr

/-- The text of a version. -/
def Version.text : Version → String
  | .http09 => "HTTP/0.9"
  | .http10 => "HTTP/1.0"
  | .http11 => "HTTP/1.1"
  | .http2 => "HTTP/2.0"
  | .http3 => "HTTP/3.0"

/-- The body of a response. -/
inductive Body where
  /-- Bytes at hand. -/
  | fixed (data : Bytes)
  /-- Bytes that are read when the response is written. -/
  | reader (source : Source)
  deriving DecidableEq, Repr

/-- A response before it is written. -/
structure Response where
  status : Status
  /-- A reason in place of the registered phrase. -/
  reason : Option String := none
  version : Version := .http10
  /-- Header names and values in the order in which the names were first set. -/
  headers : List (String × String) := []
  body : Option Body := none
  /-- The declared length of the body. -/
  contentLength : Option Nat := none
  deriving DecidableEq

namespace Response

/-- A response with a status and nothing else. -/
def new (status : Status) : Response := { status }

/-- A successful response. -/
def ok : Response := new .ok

/-- The length declaration in place of an earlier one. -/
def withLength (length : Option Nat) (response : Response) : Response :=
  { response with contentLength := length }

/-- The answer for a resource that does not exist, with an empty body declared. -/
def notFound : Response := (new .notFound).withLength (some 0)

/-- The version in place of an earlier one. -/
def withVersion (version : Version) (response : Response) : Response := { response with version }

/-- The reason in place of an earlier one or of the registered phrase. -/
def withReason (reason : String) (response : Response) : Response :=
  { response with reason := some reason }

/-- Two header names are one if they differ at most in the case of ASCII letters. -/
def sameHeader (left right : String) : Bool := (Bytes.ofString left).sameName (.ofString right)

/-- Sets the value of a name, in its place or at the end. -/
def setHeader (name value : String) : List (String × String) → List (String × String)
  | [] => [(name, value)]
  | (present, old) :: rest =>
    if sameHeader present name then (present, value) :: rest
    else (present, old) :: setHeader name value rest

/-- A header in place of one with the same name. -/
def withHeader (name value : String) (response : Response) : Response :=
  { response with headers := setHeader name value response.headers }

/-- A body of bytes and its length. -/
def withBody (bytes : Bytes) (response : Response) : Response :=
  { response with body := some (.fixed bytes), contentLength := some bytes.length }

/-- A body that is still to be read; the declared length stays as it is. -/
def withReader (source : Source) (response : Response) : Response :=
  { response with body := some (.reader source) }

/-- Whether a body was set. -/
def hasBody (response : Response) : Bool := response.body.isSome

end Response
end TunnelBench
