import TunnelBench.Request.Framing
import TunnelBench.Stream.Parser

/-!
# Chunks

A chunked body is a list of chunks, each a size line, that many bytes and a line end,
closed by a size line of zero and trailer lines up to an empty one. Size lines may
carry an extension, which is skipped. The digits of a size may be missing, which
stands for zero.
-/
namespace TunnelBench.Chunk

/-- The most hexadecimal digits of a size. -/
def digitLimit : Nat := 16

/-- The value of a hexadecimal digit of either case. -/
def digit? (byte : UInt8) : Option Nat :=
  if 48 ≤ byte ∧ byte ≤ 57 then some (byte.toNat - 48)
  else if 65 ≤ byte ∧ byte ≤ 70 then some (byte.toNat - 55)
  else if 97 ≤ byte ∧ byte ≤ 102 then some (byte.toNat - 87)
  else none

/-- Digits with a number of them still allowed, the value of the earlier ones being given. -/
def digits : Nat → Nat → Parser Nat
  | _, _, [] => .more
  | allowed, total, byte :: rest =>
    match digit? byte with
    | none => .done total (byte :: rest)
    | some digit =>
      match allowed with
      | 0 => .failed .chunkSize
      | allowed + 1 => digits allowed (total * 16 + digit) rest

/-- Spaces and tabs. -/
def isGap (byte : UInt8) : Bool := byte == 32 || byte == 9

/-- A size line: digits, gaps, perhaps an extension behind a semicolon, and a line end. -/
def sizeLine : Parser Nat := do
  let size ← digits digitLimit 0
  let _ ← Parser.many isGap
  let mark ← Parser.byte (fun byte => byte == 13 || byte == 59) .chunkSize
  if mark == 59 then
    let _ ← Parser.many (· != 13)
    let _ ← Parser.byte (· == 13) .chunkSize
  let _ ← Parser.byte (· == 10) .chunkSize
  pure size

/-- The size of the next chunk; a chunk must fit a machine word with its line end. -/
def size : Parser Nat := do
  let size ← sizeLine
  Parser.require (size + 2 < Framing.sizeBound) (.chunkTooLarge size)
  pure size

/-- The data of a chunk and its line end, decided once both are there. -/
def data (size : Nat) : Parser Bytes := do
  let block ← Parser.block (size + 2)
  Parser.require (block.drop size == Bytes.lineEnd) .chunkEnd
  pure (block.take size)

/-- Skips to behind the next line end and tells whether nothing stood before it. -/
def lineFrom (empty : Bool) : Parser Bool
  | [] => .more
  | byte :: rest =>
    if byte == 13 && rest.head? == some 10 then .done empty rest.tail else lineFrom false rest

/-- A trailer line, or the empty line that ends the trailers. -/
def trailerLine : Parser Bool := lineFrom true

/-- Digits that are read give no byte back. -/
theorem keeps_digits (allowed total : Nat) : (digits allowed total).Keeps := by
  intro bytes value rest result
  fun_induction digits allowed total bytes with
  | case1 => contradiction
  | case2 =>
    simp only [Progress.done.injEq] at result
    simp [← result.2]
  | case3 => contradiction
  | case4 _ _ _ _ _ _ ih => exact Nat.le_succ_of_le (ih result)

/-- A size line that is read uses up bytes. -/
theorem consumes_sizeLine : sizeLine.Consumes :=
  (keeps_digits _ _).bind_consumes fun _ =>
    (Parser.keeps_many _).bind_consumes fun _ =>
      (Parser.consumes_byte _ _).bind fun mark => by
        have ending : ∀ size : Nat,
            (Parser.byte (· == 10) .chunkSize >>= fun _ => pure size : Parser Nat).Keeps :=
          fun _ => (Parser.consumes_byte _ _).keeps.bind fun _ => Parser.keeps_pure _
        split
        · exact (Parser.keeps_many _).bind fun _ =>
            (Parser.consumes_byte _ _).keeps.bind fun _ => ending _
        · exact ending _

/-- A size that is read uses up bytes. -/
theorem consumes_size : size.Consumes :=
  consumes_sizeLine.bind fun _ => (Parser.keeps_require _ _).bind fun _ => Parser.keeps_pure _

/-- Chunk data that is read uses up bytes. -/
theorem consumes_data (size : Nat) : (data size).Consumes :=
  (Parser.consumes_block (Nat.succ_pos _)).bind fun _ =>
    (Parser.keeps_require _ _).bind fun _ => Parser.keeps_pure _

/-- A trailer line that is read uses up bytes. -/
theorem consumes_lineFrom (empty : Bool) : (lineFrom empty).Consumes := by
  intro bytes value rest result
  fun_induction lineFrom empty bytes with
  | case1 => contradiction
  | case2 _ _ tail _ =>
    simp only [Progress.done.injEq] at result
    simp only [← result.2, List.length_cons, List.length_tail]
    omega
  | case3 _ _ _ _ ih => exact Nat.lt_succ_of_lt (ih result)

end TunnelBench.Chunk
