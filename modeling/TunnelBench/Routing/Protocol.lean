import TunnelBench.Text.Quoted

/-!
# Protocols and descriptors

A transport says of each request which protocol it speaks, by a tag, and which path
it asks for. Two tags have a meaning of their own, in any case of their letters; every
other tag stands for itself.
-/
namespace TunnelBench

/-- What a request speaks. -/
inductive Protocol where
  | raw
  | http
  /-- A protocol known by its tag only. -/
  | other (tag : String)
  deriving DecidableEq, Repr

namespace Protocol

/-- The protocol that a tag names. -/
def ofTag (tag : String) : Protocol :=
  match (Bytes.ofString tag).lower with
  | [114, 97, 119] => .raw
  | [116, 99, 112] => .raw
  | [104, 116, 116, 112] => .http
  | _ => .other tag

/-- The tag of a protocol. -/
def tag : Protocol → String
  | .raw => "raw"
  | .http => "http"
  | .other tag => tag

/-- A protocol shown for inspection. -/
def describe : Protocol → String
  | .raw => "Raw"
  | .http => "Http"
  | .other tag => "Other(" ++ Quoted.text tag ++ ")"

end Protocol

/-- What a transport says about a request. -/
structure Descriptor where
  protocol : Protocol
  /-- The path asked for, empty where the protocol has none. -/
  path : String
  deriving DecidableEq, Repr

namespace Descriptor

/-- A request for a path. -/
def http (path : String) : Descriptor := ⟨.http, path⟩

/-- A stream of raw bytes. -/
def raw : Descriptor := ⟨.raw, ""⟩

/-- The text of a descriptor in messages. -/
def text (descriptor : Descriptor) : String :=
  if descriptor.path.isEmpty then descriptor.protocol.tag
  else descriptor.protocol.tag ++ " " ++ descriptor.path

end Descriptor
end TunnelBench
