import TunnelBench.Proofs.Stream.Receiving

/-!
# What stops a reader

A reader that gets no message was refused one by the bytes, or was stopped by its source:
by the end of it, or by a read that fails before. Which of these stops it is known from the
source alone, whatever room its reads have. A message that it gets is the one that stands at
the front of all the bytes, even where the source would have failed behind it.
-/
namespace TunnelBench

namespace Source

/-- The fault that ends the bytes of a source, unless its end does. -/
def breaks : Source → Option Fault
  | [] => none
  | .fault fault :: _ => some fault
  | .data [] :: _ => none
  | .data (_ :: _) :: rest => breaks rest

/-- A read that brings bytes leaves what ends them. -/
theorem breaks_of_read_ok {room : Nat} {source rest : Source} {byte : UInt8} {bytes : Bytes}
    (result : read room source = (.ok (byte :: bytes), rest)) : rest.breaks = source.breaks := by
  obtain ⟨nothing, -, -⟩ | ⟨-, rfl⟩ | ⟨_, _, _, -, rfl, rfl⟩ := piece_of_read result
  · exact absurd nothing (List.cons_ne_nil byte bytes)
  · rfl
  · rfl

/-- A read that fails meets the fault that ends the bytes. -/
theorem breaks_of_read_error {room : Nat} {source rest : Source} {fault : Fault}
    (result : read room source = (.error fault, rest)) : source.breaks = some fault := by
  rw [fault_of_read result, breaks]

/-- A read with room that brings nothing meets the end. -/
theorem breaks_of_read_nothing {room : Nat} (positive : 0 < room) {source rest : Source}
    (result : read room source = (.ok [], rest)) : source.breaks = none := by
  obtain ⟨-, rfl, -⟩ | ⟨-, rfl⟩ | ⟨_, _, _, narrow, -, -⟩ := piece_of_read result
  · rfl
  · rfl
  · exact absurd narrow (Nat.ne_of_lt positive)

/-- The failures of a reader that a source accounts for. -/
inductive Explains (source : Source) : Failure → Prop
  /-- The bytes were refused. -/
  | malformed (reason : Malformed) : Explains source (.malformed reason)
  /-- The source ended too early. -/
  | incomplete (ends : source.breaks = none) : Explains source .incompleteRequest
  /-- A read failed. -/
  | broken {fault : Fault} (breaks : source.breaks = some fault) :
    Explains source (.io (.stream fault))

/-- What explains a failure behind a read explains it before the read. -/
theorem Explains.of_breaks {source rest : Source} {failure : Failure}
    (explains : rest.Explains failure) (same : rest.breaks = source.breaks) :
    source.Explains failure := by
  cases explains with
  | malformed reason => exact .malformed reason
  | incomplete ends => exact .incomplete (same.symm.trans ends)
  | broken breaks => exact .broken (same.symm.trans breaks)

end Source

namespace Staged

variable {stage result : Type} {staged : Staged stage result}

/-- A reader fails for a reason that its source accounts for. -/
theorem explains_of_error {current : stage} {buffer : Buffer} {source : Source} {failure : Failure}
    (failed : (staged.read current buffer source).outcome = .error failure) :
    source.Explains failure := by
  fun_induction Staged.read staged current buffer source with
  | case1 => contradiction
  | case2 current buffer source later rest decided ih => exact ih failed
  | case3 current buffer source reason decided =>
    rw [← Except.error.inj failed]
    exact .malformed reason
  | case4 current buffer source wanted undecided prepared fault rest received =>
    rw [← Except.error.inj failed]
    exact .broken (Source.breaks_of_read_error received)
  | case5 current buffer source wanted undecided prepared rest received =>
    have positive : 0 < prepared.room := buffer.room_prepare_pos wanted
    rw [← Except.error.inj failed]
    exact .incomplete (Source.breaks_of_read_nothing positive received)
  | case6 current buffer source wanted undecided prepared byte bytes rest received ih =>
    exact (ih failed).of_breaks (Source.breaks_of_read_ok received)

/-- A message that is read from any source is the one that decoding finds in all of the bytes. -/
theorem Forward.decode_of_read (forward : staged.Forward) {current : stage} {buffer : Buffer}
    {source : Source} {value : result}
    (accepted : (staged.read current buffer source).outcome = .ok value) :
    ∃ rest, staged.decode current (buffer.bytes ++ source.content) = (.ok value, rest) := by
  fun_induction Staged.read staged current buffer source with
  | case1 current buffer source found rest decided =>
    rw [← Except.ok.inj accepted]
    exact ⟨_, decode_finish (forward.finish source.content decided)⟩
  | case2 current buffer source later rest decided ih =>
    rw [decode_next (forward.next source.content decided)]
    exact ih accepted
  | case3 => contradiction
  | case4 => contradiction
  | case5 => contradiction
  | case6 current buffer source wanted undecided prepared byte bytes rest received ih =>
    have decoded := ih accepted
    have held : prepared.bytes = buffer.bytes := buffer.bytes_prepare wanted
    rw [Buffer.bytes_append, held, List.append_assoc] at decoded
    rw [Source.content_of_read_ok received]
    exact decoded

end Staged
end TunnelBench
