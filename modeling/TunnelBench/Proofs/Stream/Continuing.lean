import TunnelBench.Proofs.Stream.Ending

/-!
# What pieces settle

Reading looks at pieces as they come. Some pieces settle how reading ends, whatever comes
after them; with all others reading has taken every byte and goes on from there. So what
has been found on the way is never taken back.
-/
namespace TunnelBench.Staged

variable {stage result : Type} {staged : Staged stage result}

/-- What reading makes of some pieces, for all that can come after them. -/
inductive Foresees (staged : Staged stage result) (current : stage) (buffer : Buffer)
    (pieces : Source) : Prop
  /-- Reading ends with a message, or refuses one. -/
  | settled (outcome : Except Failure result) (waiting : Bytes) (left : Source) (full : left.Full)
      (reasoned : ∀ failure, outcome = .error failure → ∃ reason, failure = .malformed reason)
      (ends : ∀ after, staged.read current buffer (pieces ++ after) =
        ⟨outcome, waiting, left ++ after⟩)
  /-- Reading has taken all bytes and asks for more. -/
  | starved (later : stage) (held : Buffer) (wanted : Nat)
      (undecided : staged.step later held.bytes = .more wanted)
      (goesOn : ∀ after, staged.read current buffer (pieces ++ after) =
        staged.read later held after)

/-- Pieces settle the reading, or it goes on behind them. -/
theorem foresees (staged : Staged stage result) (current : stage) (buffer : Buffer)
    {pieces : Source} (full : pieces.Full) : staged.Foresees current buffer pieces := by
  cases decided : staged.step current buffer.bytes with
  | finish value rest =>
    exact .settled _ _ pieces full (by simp) fun after => read_finish decided _
  | next middle rest =>
    have onward : ∀ after, staged.read current buffer (pieces ++ after) =
        staged.read middle (buffer.keep rest) (pieces ++ after) := fun after => read_next decided _
    cases foresees staged middle (buffer.keep rest) full with
    | settled outcome waiting left leftFull reasoned ends =>
      exact .settled outcome waiting left leftFull reasoned fun after =>
        (onward after).trans (ends after)
    | starved later held wanted undecided goesOn =>
      exact .starved later held wanted undecided fun after =>
        (onward after).trans (goesOn after)
  | failed reason =>
    refine .settled _ _ pieces full ?_ fun after => read_failed decided _
    intro failure same
    cases same
    exact ⟨reason, rfl⟩
  | more wanted =>
    by_cases present : pieces = []
    · subst present
      exact .starved current buffer wanted decided fun after => rfl
    · obtain ⟨byte, received, left, leftFull, split, result⟩ :=
        full.read_append present (buffer.room_prepare_pos wanted)
      have onward : ∀ after, staged.read current buffer (pieces ++ after) =
          staged.read current ((buffer.prepare wanted).append (byte :: received)) (left ++ after) :=
        fun after => read_received decided (result after)
      cases foresees staged current ((buffer.prepare wanted).append (byte :: received))
        leftFull with
      | settled outcome waiting rest restFull reasoned ends =>
        exact .settled outcome waiting rest restFull reasoned fun after =>
          (onward after).trans (ends after)
      | starved later held least undecided goesOn =>
        exact .starved later held least undecided fun after => (onward after).trans (goesOn after)
termination_by (pieces.content.length, buffer.bytes.length)
decreasing_by
  · exact Prod.Lex.right _ (staged.shrinks decided)
  · refine Prod.Lex.left _ _ ?_
    rw [split, List.length_append, List.length_cons]
    omega

end TunnelBench.Staged
