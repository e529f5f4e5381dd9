import TunnelBench.Stream.Buffer
import TunnelBench.Stream.Parser
import TunnelBench.Stream.Source

/-!
# Reading in steps

A message is read in stages. Each stage looks at the bytes that wait in a buffer: it
finishes, hands a shorter rest to another stage, refuses, or asks for more bytes,
which then come from a source. Reading reads no more than the stages ask for, and it
always ends: a stage uses up waiting bytes, a read uses up the source.
-/
namespace TunnelBench

/-- What one look at the waiting bytes leads to. -/
inductive Step (stage result : Type) where
  /-- The message is complete, the rest waits on. -/
  | finish (value : result) (rest : Bytes)
  /-- Another stage goes on with the rest. -/
  | next (later : stage) (rest : Bytes)
  /-- No message starts so. -/
  | failed (reason : Malformed)
  /-- More bytes are needed; the next read should have this much room. -/
  | more (wanted : Nat)

/-- The stages of a message. -/
structure Staged (stage result : Type) where
  /-- What a stage makes of the waiting bytes. -/
  step : stage → Bytes → Step stage result
  /-- Handing over to another stage uses up bytes. -/
  shrinks : ∀ {current bytes later rest},
    step current bytes = .next later rest → rest.length < bytes.length

/-- How reading ended. -/
structure Reading (result : Type) where
  /-- The message or the reason why there is none. -/
  outcome : Except Failure result
  /-- The bytes that were received and not used. -/
  waiting : Bytes
  /-- The reads that were not made. -/
  source : Source

/-- Reads one message from the buffer and the source. -/
def Staged.read {stage result : Type} (staged : Staged stage result) (current : stage)
    (buffer : Buffer) (source : Source) : Reading result :=
  match _ : staged.step current buffer.bytes with
  | .finish value rest => ⟨.ok value, rest, source⟩
  | .next later rest => staged.read later (buffer.keep rest) source
  | .failed reason => ⟨.error (.malformed reason), buffer.bytes, source⟩
  | .more wanted =>
    let prepared := buffer.prepare wanted
    match _ : source.read prepared.room with
    | (.error fault, rest) => ⟨.error (.io (.stream fault)), prepared.bytes, rest⟩
    | (.ok [], rest) => ⟨.error .incompleteRequest, prepared.bytes, rest⟩
    | (.ok (byte :: bytes), rest) =>
      staged.read current (prepared.append (byte :: bytes)) rest
termination_by (source.weight, buffer.bytes.length)
decreasing_by
  · exact Prod.Lex.right _ (by simpa using staged.shrinks ‹_›)
  · exact Prod.Lex.left _ _ (Source.weight_read_ok_lt ‹_› (by simp)).2

end TunnelBench
