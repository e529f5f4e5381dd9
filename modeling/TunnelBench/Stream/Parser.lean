import TunnelBench.Failure

/-!
# Parsers that may ask for more

A parser looks at the bytes received so far. It ends with a value and the bytes
after it, fails for good, or finds that more bytes are needed to decide. Parsers are
built from a few steps that read from left to right, so that a decision, once made,
stands whatever bytes follow.
-/
namespace TunnelBench

/-- What a parser makes of the bytes received so far. -/
inductive Progress (α : Type) where
  /-- A value and the bytes after it. -/
  | done (value : α) (rest : Bytes)
  /-- No continuation of the bytes is accepted. -/
  | failed (reason : Malformed)
  /-- The bytes end too early to decide. -/
  | more
  deriving DecidableEq, Repr

/-- A reading of the front of a byte string. -/
def Parser (α : Type) : Type := Bytes → Progress α

namespace Parser

variable {α β : Type}

/-- Accepts without looking. -/
protected def pure (value : α) : Parser α := fun bytes => .done value bytes

/-- One parser after another. -/
protected def bind (first : Parser α) (next : α → Parser β) : Parser β := fun bytes =>
  match first bytes with
  | .done value rest => next value rest
  | .failed reason => .failed reason
  | .more => .more

/-- Parsers run one after another. -/
instance : Monad Parser where
  pure := Parser.pure
  bind := Parser.bind

/-- Refuses without looking. -/
def fail (reason : Malformed) : Parser α := fun _ => .failed reason

/-- Refuses unless a condition holds. -/
def require (condition : Bool) (reason : Malformed) : Parser Unit :=
  if condition then Parser.pure () else fail reason

/-- The next byte, which stays unread. -/
def peek : Parser UInt8
  | [] => .more
  | byte :: rest => .done byte (byte :: rest)

/-- One byte that passes a test. -/
def byte (test : UInt8 → Bool) (reason : Malformed) : Parser UInt8
  | [] => .more
  | byte :: rest => if test byte then .done byte rest else .failed reason

/-- The longest run of bytes that pass a test, known to be over once another byte follows. -/
def many (test : UInt8 → Bool) : Parser Bytes := fun bytes =>
  match bytes.dropWhile test with
  | [] => .more
  | byte :: rest => .done (bytes.takeWhile test) (byte :: rest)

/-- Exactly the given bytes. -/
def literal (reason : Malformed) : Bytes → Parser Unit
  | [] => Parser.pure ()
  | expected :: rest => do
    let _ ← byte (· == expected) reason
    literal reason rest

/-- A fixed number of bytes. -/
def block (size : Nat) : Parser Bytes := fun bytes =>
  if bytes.length < size then .more else .done (bytes.take size) (bytes.drop size)

/-- A line end: a line feed, with or without a carriage return before it. -/
def newLine (reason : Malformed) : Parser Unit := do
  let first ← byte (fun byte => byte == 10 || byte == 13) reason
  if first == 13 then
    let _ ← byte (· == 10) reason
  Parser.pure ()

/-- A parser that, when it ends, has used at least one byte. -/
def Consumes (parser : Parser α) : Prop :=
  ∀ ⦃bytes value rest⦄, parser bytes = .done value rest → rest.length < bytes.length

/-- A parser that never gives back more bytes than it got. -/
def Keeps (parser : Parser α) : Prop :=
  ∀ ⦃bytes value rest⦄, parser bytes = .done value rest → rest.length ≤ bytes.length

/-- A parser that uses up bytes gives none back. -/
theorem Consumes.keeps {parser : Parser α} (consumes : parser.Consumes) : parser.Keeps :=
  fun _ _ _ result => Nat.le_of_lt (consumes result)

/-- A bind that ends is a first part that ends and a second part that ends. -/
theorem bind_eq_done {first : Parser α} {next : α → Parser β} {bytes rest : Bytes} {value : β} :
    (first >>= next) bytes = .done value rest ↔
      ∃ middle suffix, first bytes = .done middle suffix ∧
        next middle suffix = .done value rest := by
  change Parser.bind first next bytes = _ ↔ _
  unfold Parser.bind
  constructor
  · intro result
    split at result
    · exact ⟨_, _, ‹_›, result⟩
    · contradiction
    · contradiction
  · rintro ⟨middle, suffix, firstResult, nextResult⟩
    simp [firstResult, nextResult]

/-- Accepting without looking gives no byte back. -/
theorem keeps_pure (value : α) : (pure value : Parser α).Keeps := by
  intro bytes got rest result
  change Progress.done value bytes = _ at result
  simp_all

/-- Refusing gives no byte back. -/
theorem keeps_fail (reason : Malformed) : (fail reason : Parser α).Keeps := by
  intro bytes value rest result
  simp [fail] at result

/-- A condition gives no byte back. -/
theorem keeps_require (condition : Bool) (reason : Malformed) :
    (require condition reason).Keeps := by
  intro bytes value rest result
  unfold require at result
  split at result
  · exact keeps_pure () result
  · simp [fail] at result

/-- Peeking gives no byte back. -/
theorem keeps_peek : peek.Keeps := by
  intro bytes value rest result
  cases bytes with
  | nil => simp [peek] at result
  | cons head tail =>
    simp only [peek, Progress.done.injEq] at result
    simp [← result.2]

/-- A byte that is read is used up. -/
theorem consumes_byte (test : UInt8 → Bool) (reason : Malformed) :
    (byte test reason).Consumes := by
  intro bytes value rest result
  cases bytes with
  | nil => simp [byte] at result
  | cons head tail =>
    simp only [byte] at result
    split at result <;> simp_all

/-- A run of bytes that is read gives no byte back. -/
theorem keeps_many (test : UInt8 → Bool) : (many test).Keeps := by
  intro bytes value rest result
  unfold many at result
  split at result
  · contradiction
  · rename_i head tail dropped
    simp only [Progress.done.injEq] at result
    have whole := congrArg List.length (List.takeWhile_append_dropWhile (p := test) (l := bytes))
    rw [dropped, result.2] at whole
    simp only [List.length_append] at whole
    omega

/-- A block that is not empty is used up. -/
theorem consumes_block {size : Nat} (positive : 0 < size) : (block size).Consumes := by
  intro bytes value rest result
  unfold block at result
  split at result
  · contradiction
  · simp only [Progress.done.injEq] at result
    simp [← result.2]
    omega

/-- Two parsers that give no byte back give none back together. -/
theorem Keeps.bind {first : Parser α} {next : α → Parser β} (firstKeeps : first.Keeps)
    (nextKeeps : ∀ value, (next value).Keeps) : (first >>= next).Keeps := by
  intro bytes value rest result
  obtain ⟨middle, suffix, firstResult, nextResult⟩ := bind_eq_done.1 result
  exact Nat.le_trans (nextKeeps middle nextResult) (firstKeeps firstResult)

/-- It is enough that the first of two parsers uses up bytes. -/
theorem Consumes.bind {first : Parser α} {next : α → Parser β} (consumes : first.Consumes)
    (nextKeeps : ∀ value, (next value).Keeps) : (first >>= next).Consumes := by
  intro bytes value rest result
  obtain ⟨middle, suffix, firstResult, nextResult⟩ := bind_eq_done.1 result
  exact Nat.lt_of_le_of_lt (nextKeeps middle nextResult) (consumes firstResult)

/-- It is enough that the second of two parsers uses up bytes. -/
theorem Keeps.bind_consumes {first : Parser α} {next : α → Parser β} (firstKeeps : first.Keeps)
    (consumes : ∀ value, (next value).Consumes) : (first >>= next).Consumes := by
  intro bytes value rest result
  obtain ⟨middle, suffix, firstResult, nextResult⟩ := bind_eq_done.1 result
  exact Nat.lt_of_lt_of_le (consumes middle nextResult) (firstKeeps firstResult)

/-- Fixed bytes that are read give no byte back. -/
theorem keeps_literal (reason : Malformed) (expected : Bytes) :
    (literal reason expected).Keeps := by
  induction expected with
  | nil => exact keeps_pure ()
  | cons head tail ih => exact (consumes_byte _ _).keeps.bind fun _ => ih

/-- A line end that is read uses up bytes. -/
theorem consumes_newLine (reason : Malformed) : (newLine reason).Consumes :=
  (consumes_byte _ _).bind fun first => by
    split
    · exact (consumes_byte _ _).keeps.bind fun _ => keeps_pure ()
    · exact keeps_pure ()

/-- A line end that is read gives no byte back. -/
theorem keeps_newLine (reason : Malformed) : (newLine reason).Keeps :=
  (consumes_newLine reason).keeps

end Parser
end TunnelBench
