import TunnelBench.Proofs.Request.ChunkGrammar
import TunnelBench.Request.Reader

/-!
# Requests as clients write them

A draft holds all that a client decides about a request: the words of the request line,
the headers, and the body with the form in which it is sent. Rendering writes the draft as
bytes. What a draft may hold is part of its type, so every draft can be written.
-/
namespace TunnelBench

/-- The number that digits stand for, the first digit being the most significant. -/
def positional (base : Nat) (digits : List Nat) : Nat :=
  digits.foldl (fun total digit => total * base + digit) 0

namespace Header

/-- A header that fits in a line: the name is a token, and the value is visible ASCII text with no
blank at its ends. -/
structure Plain (header : Header) : Prop where
  named : header.name ≠ []
  token : ∀ byte ∈ header.name, RequestHead.isTokenByte byte = true
  visible : ∀ byte ∈ header.value, 32 ≤ byte ∧ byte ≤ 126
  opens : header.value.head? ≠ some 32
  closes : header.value.getLast? ≠ some 32

/-- Whether a header fits in a line can be checked. -/
instance (header : Header) : Decidable header.Plain :=
  decidable_of_iff (header.name ≠ [] ∧ header.name.all RequestHead.isTokenByte = true ∧
      header.value.all (fun byte => 32 ≤ byte ∧ byte ≤ 126) = true ∧
      header.value.head? ≠ some 32 ∧ header.value.getLast? ≠ some 32)
    ⟨fun ⟨named, token, visible, opens, closes⟩ => ⟨named, List.all_eq_true.1 token,
        fun byte member => of_decide_eq_true (List.all_eq_true.1 visible byte member), opens,
        closes⟩,
      fun plain => ⟨plain.named, List.all_eq_true.2 plain.token,
        List.all_eq_true.2 fun byte member => decide_eq_true (plain.visible byte member),
        plain.opens, plain.closes⟩⟩

/-- A header that says nothing about the body. -/
def IsFree (header : Header) : Prop :=
  header.isNamed "content-length" = false ∧ header.isNamed "transfer-encoding" = false
  deriving Decidable

/-- The line of a header. -/
def line (header : Header) : Bytes :=
  header.name ++ (.ofString ": " ++ (header.value ++ Bytes.lineEnd))

end Header

namespace Draft

/-- A body behind a declared length, which may be written with zeros in front. -/
structure Measured where
  digits : List (Fin 10)
  data : Bytes
  given : digits ≠ []
  declares : positional 10 (digits.map Fin.val) = data.length
  /-- Lengths are machine words. -/
  fits : data.length < UInt64.size

/-- A decimal digit. -/
def decimalDigit (digit : Fin 10) : UInt8 := 48 + digit.val.toUInt8

/-- The value of the header that declares the length. -/
def Measured.value (body : Measured) : Bytes := body.digits.map decimalDigit

/-- A hexadecimal digit of a value, in upper or in lower case. -/
def hexDigit (digit : Fin 16 × Bool) : UInt8 :=
  if digit.1 < 10 then 48 + digit.1.val.toUInt8
  else if digit.2 then 55 + digit.1.val.toUInt8 else 87 + digit.1.val.toUInt8

/-- A size line. -/
structure SizeLine where
  /-- The digits of the size; the flags tell which are in upper case. -/
  digits : List (Fin 16 × Bool)
  /-- What stands behind a semicolon, if there is one. -/
  extension : Option Bytes
  short : digits.length ≤ Chunk.digitLimit
  printable : ∀ text ∈ extension, ∀ byte ∈ text, 32 ≤ byte ∧ byte ≤ 126

namespace SizeLine

/-- The size that a line declares. -/
def size (line : SizeLine) : Nat := positional 16 (line.digits.map fun digit => digit.1.val)

/-- An extension with the semicolon in front of it. -/
def tail (line : SizeLine) : Bytes :=
  match line.extension with
  | none => []
  | some text => 59 :: text

/-- A size line as it is sent. -/
def bytes (line : SizeLine) : Bytes := line.digits.map hexDigit ++ (line.tail ++ Bytes.lineEnd)

end SizeLine

/-- A chunk that is not empty. -/
structure Portion where
  line : SizeLine
  data : Bytes
  declares : line.size = data.length
  given : data ≠ []
  /-- A chunk is a machine word long at most, with its line end. -/
  fits : data.length ≤ UInt64.size - 3

/-- A chunk as it is sent. -/
def Portion.bytes (portion : Portion) : Bytes :=
  portion.line.bytes ++ (portion.data ++ Bytes.lineEnd)

/-- A trailer line. -/
structure Trailer where
  text : Bytes
  given : text ≠ []
  single : ∀ byte ∈ text, byte ≠ 13 ∧ byte ≠ 10

/-- A trailer line as it is sent. -/
def Trailer.bytes (trailer : Trailer) : Bytes := trailer.text ++ Bytes.lineEnd

/-- A body in chunks. -/
structure Chunked where
  portions : List Portion
  /-- The size line that ends the chunks. -/
  last : SizeLine
  ends : last.size = 0
  trailers : List Trailer

namespace Chunked

/-- A body in chunks as it is sent. -/
def bytes (body : Chunked) : Bytes :=
  body.portions.flatMap Portion.bytes ++ (body.last.bytes ++ (body.trailers.flatMap Trailer.bytes ++
    Bytes.lineEnd))

/-- The body that the chunks make up. -/
def data (body : Chunked) : Bytes := body.portions.flatMap Portion.data

end Chunked

/-- The form in which a body is sent. -/
inductive Content where
  /-- There is no body. -/
  | absent
  | measured (body : Measured)
  | chunked (body : Chunked)

namespace Content

/-- The header that declares the body, if there is one. -/
def declaration : Content → List Header
  | absent => []
  | measured body => [⟨.ofString "Content-Length", body.value⟩]
  | chunked _ => [⟨.ofString "Transfer-Encoding", .ofString "chunked"⟩]

/-- What the head says about the body. -/
def framing : Content → Framing
  | absent => .none
  | measured body => .length body.data.length
  | chunked _ => .chunked

/-- What is sent behind the head. -/
def bytes : Content → Bytes
  | absent => []
  | measured body => body.data
  | chunked body => body.bytes

/-- The body, if there is one. -/
def body : Content → Option Bytes
  | absent => none
  | measured body => some body.data
  | chunked body => some body.data

end Content

/-- The characters of paths: letters, digits and `-._~/?=&%`. -/
def isPathChar (char : Char) : Bool := char.isAlphanum || "-._~/?=&%".toList.contains char

end Draft

/-- All that a client decides about a request. -/
structure Draft where
  method : Bytes
  path : String
  minor : Fin 2
  /-- The headers in front of the one that declares the body. -/
  before : List Header
  /-- The headers behind it. -/
  after : List Header
  content : Draft.Content
  methodGiven : method ≠ []
  methodToken : ∀ byte ∈ method, RequestHead.isTokenByte byte = true
  pathGiven : path ≠ ""
  pathPlain : ∀ char ∈ path.toList, Draft.isPathChar char = true
  plain : ∀ header ∈ before ++ after, header.Plain
  free : ∀ header ∈ before ++ after, header.IsFree
  few : (before ++ (content.declaration ++ after)).length ≤ RequestHead.headerLimit

namespace Draft

/-- All headers in their order. -/
def headers (draft : Draft) : List Header :=
  draft.before ++ (draft.content.declaration ++ draft.after)

/-- The byte that stands for a minor version. -/
def minorDigit (minor : Fin 2) : UInt8 := 48 + minor.val.toUInt8

/-- The request line. -/
def requestLine (draft : Draft) : Bytes :=
  draft.method ++ [32] ++ (Bytes.ofString draft.path ++ [32] ++
    (Bytes.ofString "HTTP/1." ++ [minorDigit draft.minor] ++ Bytes.lineEnd))

/-- The head, with the empty line that ends it. -/
def headBytes (draft : Draft) : Bytes :=
  draft.requestLine ++ (draft.headers.flatMap Header.line ++ Bytes.lineEnd)

/-- The request as it is sent. -/
def render (draft : Draft) : Bytes := draft.headBytes ++ draft.content.bytes

/-- The head that the client means. -/
def head (draft : Draft) : RequestHead :=
  ⟨draft.method, draft.path, draft.minor, draft.headers, draft.content.framing⟩

/-- The request that the client means. -/
def request (draft : Draft) : Request := ⟨draft.head, draft.content.body⟩

/-- What a test of each byte finds holds of each byte. -/
theorem forall_of_all {holds : UInt8 → Prop} [DecidablePred holds] {bytes : Bytes}
    (passed : bytes.all (fun byte => holds byte) = true) : ∀ byte ∈ bytes, holds byte :=
  fun byte member => of_decide_eq_true (List.all_eq_true.1 passed byte member)

/-- An upload in one chunk that looks like the end of a request and the start of another, with an
extension, a trailer and an empty header value. -/
def lookalikeUpload : Draft where
  method := .ofString "PUT"
  path := "/a?b=c"
  minor := 1
  before := [⟨.ofString "Host", .ofString "x y"⟩]
  after := [⟨.ofString "X-Empty", []⟩]
  content := .chunked
    { portions :=
        [{ line :=
            { digits := [(0, false), (10, true)]
              extension := some (.ofString "n=1")
              short := by decide
              printable := by
                rintro text ⟨⟩
                exact forall_of_all (by decide +kernel) }
           data := .ofString "0\r\n\r\nGET /"
           declares := by decide +kernel
           given := by decide +kernel
           fits := by decide +kernel }]
      last :=
        { digits := [(0, false)]
          extension := none
          short := by decide
          printable := by simp }
      ends := by decide
      trailers :=
        [{ text := .ofString "T: u"
           given := by decide +kernel
           single := forall_of_all (by decide +kernel) }] }
  methodGiven := by decide +kernel
  methodToken := List.all_eq_true.1 (by decide +kernel)
  pathGiven := by decide +kernel
  pathPlain := List.all_eq_true.1 (by decide +kernel)
  plain := by decide +kernel
  free := by decide +kernel
  few := by decide +kernel

end Draft
end TunnelBench
