import TunnelBench.Request.Head

/-!
# Decoding heads from a growing buffer

A decoder works on bytes that its user collects. It takes a whole head from the
front, or leaves every byte where it is.
-/
namespace TunnelBench.HeadDecoder

/-- A head and the bytes after it, or no head and all bytes. -/
def decode (bytes : Bytes) : Except Failure (Option RequestHead) × Bytes :=
  match RequestHead.parse bytes with
  | .done head rest => (.ok (some head), rest)
  | .failed reason => (.error (.malformed reason), bytes)
  | .more => (.ok none, bytes)

/-- The same on a stream that has ended: then the start of a head is an error. -/
def decodeLast (bytes : Bytes) : Except Failure (Option RequestHead) × Bytes :=
  match decode bytes with
  | (.ok none, byte :: rest) => (.error (.io .leftover), byte :: rest)
  | decided => decided

end TunnelBench.HeadDecoder
