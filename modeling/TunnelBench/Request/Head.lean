import TunnelBench.Request.Framing
import TunnelBench.Stream.Parser

/-!
# Request heads

A head is a request line and header lines up to an empty line. Blank lines before it
are skipped. Every line may end with a line feed alone. The parser decides as early
as the bytes allow, and a head that is still open past the size limit is refused.
-/
namespace TunnelBench

/-- The request line and the headers of a request. -/
structure RequestHead where
  /-- The method, a token. -/
  method : Bytes
  /-- The request target as it was sent. -/
  target : String
  /-- The minor version, 0 or 1. -/
  version : Nat
  /-- The headers in the order in which they were sent. -/
  headers : List Header
  /-- What the headers say about the body. -/
  framing : Framing
  deriving DecidableEq, Repr

namespace RequestHead

/-- The most bytes after which an open head is still waited for. -/
def sizeLimit : Nat := 65536

/-- The most headers in a head. -/
def headerLimit : Nat := 64

/-- The value of the first header with a name. -/
def header? (head : RequestHead) (name : String) : Option Bytes :=
  (head.headers.find? (·.isNamed name)).map (·.value)

/-- The bytes of methods and header names. -/
def isTokenByte (byte : UInt8) : Bool :=
  (48 ≤ byte && byte ≤ 57) || (65 ≤ byte && byte ≤ 90) || (94 ≤ byte && byte ≤ 122) ||
    byte == 33 || (35 ≤ byte && byte ≤ 39) || byte == 42 || byte == 43 || byte == 45 ||
    byte == 46 || byte == 124 || byte == 126

/-- The bytes of request targets. -/
def isTargetByte (byte : UInt8) : Bool := (33 ≤ byte && byte ≤ 126) || 128 ≤ byte

/-- Spaces and tabs. -/
def isGap (byte : UInt8) : Bool := byte == 32 || byte == 9

/-- The bytes of header values. -/
def isValueByte (byte : UInt8) : Bool := byte == 9 || (32 ≤ byte && byte ≤ 126) || 128 ≤ byte

/-- Skips empty lines. -/
def emptyLines : Parser Unit
  | [] => .more
  | byte :: rest =>
    if byte == 10 then emptyLines rest
    else if byte == 13 then
      match rest with
      | [] => .more
      | second :: later => if second == 10 then emptyLines later else .failed .newLine
    else .done () (byte :: rest)

/-- A method and the space after it. -/
def methodPart : Parser Bytes := do
  let name ← Parser.many isTokenByte
  let _ ← Parser.byte (· == 32) .token
  Parser.require (name ≠ []) .token
  pure name

/-- A target and the space after it. -/
def targetPart : Parser String := do
  let bytes ← Parser.many isTargetByte
  let _ ← Parser.byte (· == 32) .token
  match Utf8.decode? bytes with
  | some text => if bytes ≠ [] then pure text else Parser.fail .token
  | none => Parser.fail .token

/-- One of the two versions. -/
def versionPart : Parser Nat := do
  Parser.literal .version (.ofString "HTTP/1.")
  let digit ← Parser.byte (fun byte => byte == 48 || byte == 49) .version
  pure (digit.toNat - 48)

/-- One header line; gaps around the value do not belong to it. -/
def headerLine : Parser Header := do
  let name ← Parser.many isTokenByte
  let _ ← Parser.byte (· == 58) .headerName
  Parser.require (name ≠ []) .headerName
  let _ ← Parser.many isGap
  let value ← Parser.many isValueByte
  Parser.newLine .headerValue
  pure ⟨name, Bytes.dropTrailing isGap value⟩

/-- The empty line that ends the headers, or else another header. -/
def emptyLineOr (another : Parser (List Header)) : Parser (List Header) := do
  let first ← Parser.peek
  if first == 10 || first == 13 then
    Parser.newLine .newLine
    pure []
  else another

/-- Header lines up to the empty line, with a number of headers still allowed. -/
def headerLines : Nat → Parser (List Header)
  | 0 => emptyLineOr do
    let _ ← headerLine
    Parser.fail .tooManyHeaders
  | allowed + 1 => emptyLineOr do
    let header ← headerLine
    let rest ← headerLines allowed
    pure (header :: rest)

/-- A whole head. -/
def wholeHead : Parser RequestHead := do
  emptyLines
  let method ← methodPart
  let target ← targetPart
  let version ← versionPart
  Parser.newLine .newLine
  let headers ← headerLines headerLimit
  match Framing.ofHeaders headers with
  | .ok framing => pure ⟨method, target, version, headers, framing⟩
  | .error reason => Parser.fail reason

/-- A head at the start of the bytes received so far. -/
def parse : Parser RequestHead := fun bytes =>
  match wholeHead bytes with
  | .done head rest => .done head rest
  | .failed reason => .failed reason
  | .more => if sizeLimit < bytes.length then .failed (.headTooLong sizeLimit) else .more

/-- Skipping empty lines gives no byte back. -/
theorem keeps_emptyLines : emptyLines.Keeps := by
  intro bytes value rest result
  fun_induction emptyLines bytes with
  | case1 => contradiction
  | case2 byte bytes _ ih => exact Nat.le_succ_of_le (ih result)
  | case3 => contradiction
  | case4 byte _ second later _ _ ih =>
    exact Nat.le_succ_of_le (Nat.le_succ_of_le (ih result))
  | case5 => contradiction
  | case6 =>
    simp only [Progress.done.injEq] at result
    simp [← result.2]

/-- A method that is read uses up bytes. -/
theorem consumes_methodPart : methodPart.Consumes :=
  (Parser.keeps_many _).bind_consumes fun _ =>
    (Parser.consumes_byte _ _).bind fun _ =>
      (Parser.keeps_require _ _).bind fun _ => Parser.keeps_pure _

/-- A target that is read gives no byte back. -/
theorem keeps_targetPart : targetPart.Keeps :=
  (Parser.keeps_many _).bind fun bytes =>
    (Parser.consumes_byte _ _).keeps.bind fun _ => by
      cases Utf8.decode? bytes with
      | none => exact Parser.keeps_fail _
      | some text =>
        change Parser.Keeps (if bytes ≠ [] then _ else _)
        split
        · exact Parser.keeps_pure _
        · exact Parser.keeps_fail _

/-- A version that is read gives no byte back. -/
theorem keeps_versionPart : versionPart.Keeps :=
  (Parser.keeps_literal _ _).bind fun _ =>
    (Parser.consumes_byte _ _).keeps.bind fun _ => Parser.keeps_pure _

/-- A header line that is read gives no byte back. -/
theorem keeps_headerLine : headerLine.Keeps :=
  (Parser.keeps_many _).bind fun _ =>
    (Parser.consumes_byte _ _).keeps.bind fun _ =>
      (Parser.keeps_require _ _).bind fun _ =>
        (Parser.keeps_many _).bind fun _ =>
          (Parser.keeps_many _).bind fun _ =>
            (Parser.keeps_newLine _).bind fun _ => Parser.keeps_pure _

/-- The choice gives no byte back if the other parser gives none back. -/
theorem keeps_emptyLineOr {another : Parser (List Header)} (keeps : another.Keeps) :
    (emptyLineOr another).Keeps :=
  Parser.keeps_peek.bind fun first => by
    split
    · exact (Parser.keeps_newLine _).bind fun _ => Parser.keeps_pure _
    · exact keeps

/-- Header lines that are read give no byte back. -/
theorem keeps_headerLines (allowed : Nat) : (headerLines allowed).Keeps := by
  induction allowed with
  | zero => exact keeps_emptyLineOr (keeps_headerLine.bind fun _ => Parser.keeps_fail _)
  | succ allowed ih =>
    exact keeps_emptyLineOr
      (keeps_headerLine.bind fun _ => ih.bind fun _ => Parser.keeps_pure _)

/-- A whole head that is read uses up bytes. -/
theorem consumes_wholeHead : wholeHead.Consumes :=
  keeps_emptyLines.bind_consumes fun _ =>
    consumes_methodPart.bind fun _ =>
      keeps_targetPart.bind fun _ =>
        keeps_versionPart.bind fun _ =>
          (Parser.keeps_newLine _).bind fun _ =>
            (keeps_headerLines _).bind fun headers => by
              split
              · exact Parser.keeps_pure _
              · exact Parser.keeps_fail _

/-- A head that is read uses up bytes. -/
theorem consumes_parse : parse.Consumes := by
  intro bytes head rest result
  simp only [parse] at result
  split at result
  · simp only [Progress.done.injEq] at result
    obtain ⟨rfl, rfl⟩ := result
    exact consumes_wholeHead ‹_›
  · contradiction
  · split at result <;> contradiction

end RequestHead
end TunnelBench
