import TunnelBench.Request.Chunk
import TunnelBench.Request.Head
import TunnelBench.Stream.Reader

/-!
# Reading requests

A request is read in stages: the head, and then the declared bytes or the chunks and
trailers. Peeking at the target of a request reads its head and leaves everything
received in the buffer.
-/
namespace TunnelBench

/-- A request with its whole body. -/
structure Request where
  head : RequestHead
  /-- The body, chunks joined, if the head declares one. -/
  body : Option Bytes
  deriving DecidableEq, Repr

namespace Request

/-- Where the reading of a request stands. -/
inductive Stage where
  /-- Before the head. -/
  | start
  /-- Before a body of declared length. -/
  | sized (head : RequestHead) (length : Nat)
  /-- Before a size line, with the data of earlier chunks, latest first. -/
  | chunkSize (head : RequestHead) (chunks : List Bytes)
  /-- Before the data of a chunk. -/
  | chunkData (head : RequestHead) (chunks : List Bytes) (size : Nat)
  /-- Before a trailer line. -/
  | trailer (head : RequestHead) (chunks : List Bytes)

/-- The request that collected chunks make. -/
def ofChunks (head : RequestHead) (chunks : List Bytes) : Request :=
  ⟨head, some chunks.reverse.flatten⟩

/-- The room wanted for bytes that complete a declared size. -/
def wantedFor (size held : Nat) : Nat := min (size - held) Buffer.mostRoom

/-- What a stage makes of the waiting bytes. -/
def Stage.step : Stage → Bytes → Step Stage Request
  | .start, bytes =>
    match RequestHead.parse bytes with
    | .done head rest =>
      match head.framing with
      | .none => .finish ⟨head, none⟩ rest
      | .length length => .next (.sized head length) rest
      | .chunked => .next (.chunkSize head []) rest
    | .failed reason => .failed reason
    | .more => .more 0
  | .sized head length, bytes =>
    match Parser.block length bytes with
    | .done body rest => .finish ⟨head, some body⟩ rest
    | .failed reason => .failed reason
    | .more => .more (wantedFor length bytes.length)
  | .chunkSize head chunks, bytes =>
    match Chunk.size bytes with
    | .done size rest =>
      if size = 0 then .next (.trailer head chunks) rest
      else .next (.chunkData head chunks size) rest
    | .failed reason => .failed reason
    | .more => .more 0
  | .chunkData head chunks size, bytes =>
    match Chunk.data size bytes with
    | .done data rest => .next (.chunkSize head (data :: chunks)) rest
    | .failed reason => .failed reason
    | .more => .more (wantedFor (size + 2) bytes.length)
  | .trailer head chunks, bytes =>
    match Chunk.trailerLine bytes with
    | .done empty rest =>
      if empty then .finish (ofChunks head chunks) rest else .next (.trailer head chunks) rest
    | .failed reason => .failed reason
    | .more => .more 0

/-- Every stage that hands over uses up bytes. -/
theorem Stage.length_lt_of_step_eq_next {stage later : Stage} {bytes rest : Bytes}
    (decided : stage.step bytes = .next later rest) : rest.length < bytes.length := by
  cases stage with
  | start =>
    simp only [step] at decided
    split at decided
    · rename_i parsed
      split at decided
      · contradiction
      all_goals
        simp only [Step.next.injEq] at decided
        exact decided.2 ▸ RequestHead.consumes_parse parsed
    all_goals contradiction
  | sized head length =>
    simp only [step] at decided
    split at decided <;> contradiction
  | chunkSize head chunks =>
    simp only [step] at decided
    split at decided
    · rename_i parsed
      split at decided
      all_goals
        simp only [Step.next.injEq] at decided
        exact decided.2 ▸ Chunk.consumes_size parsed
    all_goals contradiction
  | chunkData head chunks size =>
    simp only [step] at decided
    split at decided
    · rename_i parsed
      simp only [Step.next.injEq] at decided
      exact decided.2 ▸ Chunk.consumes_data size parsed
    all_goals contradiction
  | trailer head chunks =>
    simp only [step] at decided
    split at decided
    · rename_i parsed
      split at decided
      · contradiction
      · simp only [Step.next.injEq] at decided
        exact decided.2 ▸ Chunk.consumes_lineFrom true parsed
    all_goals contradiction

/-- Requests as staged messages. -/
def staged : Staged Stage Request := ⟨Stage.step, Stage.length_lt_of_step_eq_next⟩

/-- Reads one request from a source. -/
def read (source : Source) : Reading Request := staged.read .start .empty source

/-- Looks at the head of a request and takes nothing out of the buffer. -/
def peekStep (_ : Unit) (bytes : Bytes) : Step Unit String :=
  match RequestHead.parse bytes with
  | .done head _ => .finish head.target bytes
  | .failed reason => .failed reason
  | .more => .more 0

/-- Peeking never hands over to another stage. -/
theorem peekStep_ne_next {bytes rest : Bytes} {stage later : Unit} :
    peekStep stage bytes ≠ .next later rest := by
  unfold peekStep
  split <;> simp

/-- Targets as messages of a single stage. -/
def peeked : Staged Unit String := ⟨peekStep, fun decided => absurd decided peekStep_ne_next⟩

/-- Reads the target of a request; everything received waits to be read again. -/
def readTarget (source : Source) : Reading String := peeked.read () .empty source

end Request
end TunnelBench
