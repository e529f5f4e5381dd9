import TunnelBench.Proofs.Stream.Delivery
import TunnelBench.Stream.Reader

/-!
# How reading ends

Reading in stages looks at what has arrived, again and again. Decoding looks at all
bytes at once. Where looking at more bytes confirms what a stage finished or handed over,
reading follows the stages of decoding, and ends in one of three ways: a look finishes, a
look refuses, or all pieces have arrived and the last look still asks for more.
-/
namespace TunnelBench.Staged

variable {stage result : Type}

/-- The stages that decoding goes through, each with the bytes left for it. -/
inductive Reaches (staged : Staged stage result) : stage → Bytes → stage → Bytes → Prop
  /-- Decoding starts here. -/
  | start {current : stage} {whole : Bytes} : Reaches staged current whole current whole
  /-- A stage hands over to the next. -/
  | next {current middle later : stage} {whole rest last : Bytes}
      (decided : staged.step current whole = .next middle rest)
      (reached : Reaches staged middle rest later last) : Reaches staged current whole later last

/-- Reads one message that is there as a whole, and gives the bytes behind it. -/
def decode (staged : Staged stage result) (current : stage) (bytes : Bytes) :
    Except Failure result × Bytes :=
  match _ : staged.step current bytes with
  | .finish value rest => (.ok value, rest)
  | .next later rest => staged.decode later rest
  | .failed reason => (.error (.malformed reason), bytes)
  | .more _ => (.error .incompleteRequest, bytes)
termination_by bytes.length
decreasing_by exact staged.shrinks ‹_›

/-- What stages finish and hand over stands whatever bytes follow. -/
structure Forward (staged : Staged stage result) : Prop where
  /-- A finished message stands. -/
  finish : ∀ {current part value rest} (later : Bytes),
    staged.step current part = .finish value rest →
      staged.step current (part ++ later) = .finish value (rest ++ later)
  /-- Handing over stands. -/
  next : ∀ {current part middle rest} (later : Bytes),
    staged.step current part = .next middle rest →
      staged.step current (part ++ later) = .next middle (rest ++ later)

variable {staged : Staged stage result}

/-- Decoding ends where a stage finishes. -/
theorem decode_finish {current : stage} {bytes rest : Bytes} {value : result}
    (decided : staged.step current bytes = .finish value rest) :
    staged.decode current bytes = (.ok value, rest) := by
  rw [decode]
  split <;> simp_all

/-- Decoding goes on where a stage hands over. -/
theorem decode_next {current middle : stage} {bytes rest : Bytes}
    (decided : staged.step current bytes = .next middle rest) :
    staged.decode current bytes = staged.decode middle rest := by
  rw [decode]
  split <;> simp_all

/-- Decoding ends where a stage refuses. -/
theorem decode_failed {current : stage} {bytes : Bytes} {reason : Malformed}
    (decided : staged.step current bytes = .failed reason) :
    staged.decode current bytes = (.error (.malformed reason), bytes) := by
  rw [decode]
  split <;> simp_all

/-- Decoding ends where a stage asks for bytes that there are not. -/
theorem decode_more {current : stage} {bytes : Bytes} {wanted : Nat}
    (undecided : staged.step current bytes = .more wanted) :
    staged.decode current bytes = (.error .incompleteRequest, bytes) := by
  rw [decode]
  split <;> simp_all

/-- Decoding finds a message where a stage finishes it, or where the next stage does. -/
theorem decode_eq_ok {current : stage} {bytes rest : Bytes} {value : result} :
    staged.decode current bytes = (.ok value, rest) ↔
      staged.step current bytes = .finish value rest ∨ ∃ middle behind,
        staged.step current bytes = .next middle behind ∧
          staged.decode middle behind = (.ok value, rest) := by
  cases decided : staged.step current bytes with
  | finish found left => simp [decode_finish decided]
  | next middle left =>
    rw [decode_next decided]
    constructor
    · intro decoded
      exact .inr ⟨middle, left, rfl, decoded⟩
    · rintro (finished | ⟨_, _, same, decoded⟩)
      · contradiction
      · cases same
        exact decoded
  | failed reason => simp [decode_failed decided]
  | more wanted => simp [decode_more decided]

/-- Decoding fails because bytes are missing or because a stage refuses. -/
theorem decode_eq_error {current : stage} {bytes rest : Bytes} {failure : Failure}
    (decoded : staged.decode current bytes = (.error failure, rest)) :
    failure = .incompleteRequest ∨ ∃ reason, failure = .malformed reason := by
  fun_induction decode staged current bytes with
  | case1 => simp at decoded
  | case2 current bytes middle behind decided ih => exact ih decoded
  | case3 current bytes reason decided =>
    cases decoded
    exact .inr ⟨reason, rfl⟩
  | case4 current bytes wanted undecided =>
    cases decoded
    exact .inl rfl

/-- Decoding from a stage on its way gives the same. -/
theorem Reaches.decode_eq {current later : stage} {whole last : Bytes}
    (reached : staged.Reaches current whole later last) :
    staged.decode current whole = staged.decode later last := by
  induction reached with
  | start => rfl
  | next decided _ ih => rw [decode_next decided, ih]

/-- What is decoded from the front of some bytes is decoded from all of them. -/
theorem Forward.decode_append (forward : staged.Forward) {current : stage} {bytes rest : Bytes}
    {value : result} (decoded : staged.decode current bytes = (.ok value, rest)) (later : Bytes) :
    staged.decode current (bytes ++ later) = (.ok value, rest ++ later) := by
  fun_induction decode staged current bytes with
  | case1 current bytes value rest decided =>
    simp only [Prod.mk.injEq, Except.ok.injEq] at decoded
    obtain ⟨rfl, rfl⟩ := decoded
    exact decode_finish (forward.finish later decided)
  | case2 current bytes middle rest decided ih =>
    rw [decode_next (forward.next later decided)]
    exact ih decoded
  | case3 => simp at decoded
  | case4 => simp at decoded

/-- A stage that is reached is reached whatever bytes follow. -/
theorem Reaches.append (forward : staged.Forward) {current later : stage} {whole last : Bytes}
    (reached : staged.Reaches current whole later last) (more : Bytes) :
    staged.Reaches current (whole ++ more) later (last ++ more) := by
  induction reached with
  | start => exact .start
  | next decided _ ih => exact .next (forward.next more decided) ih

/-- Reading ends where a stage finishes. -/
theorem read_finish {current : stage} {buffer : Buffer} {value : result} {rest : Bytes}
    (decided : staged.step current buffer.bytes = .finish value rest) (source : Source) :
    staged.read current buffer source = ⟨.ok value, rest, source⟩ := by
  rw [read]
  split <;> simp_all

/-- Reading goes on where a stage hands over. -/
theorem read_next {current middle : stage} {buffer : Buffer} {rest : Bytes}
    (decided : staged.step current buffer.bytes = .next middle rest) (source : Source) :
    staged.read current buffer source = staged.read middle (buffer.keep rest) source := by
  rw [read]
  split <;> simp_all

/-- Reading ends where a stage refuses. -/
theorem read_failed {current : stage} {buffer : Buffer} {reason : Malformed}
    (decided : staged.step current buffer.bytes = .failed reason) (source : Source) :
    staged.read current buffer source = ⟨.error (.malformed reason), buffer.bytes, source⟩ := by
  rw [read]
  split <;> simp_all

/-- Reading looks again at the bytes that a read brings. -/
theorem read_received {current : stage} {buffer : Buffer} {wanted : Nat} {byte : UInt8}
    {bytes : Bytes} {source rest : Source}
    (undecided : staged.step current buffer.bytes = .more wanted)
    (received : source.read (buffer.prepare wanted).room = (.ok (byte :: bytes), rest)) :
    staged.read current buffer source =
      staged.read current ((buffer.prepare wanted).append (byte :: bytes)) rest := by
  rw [read]
  split <;> simp_all
  split <;> simp_all

/-- Reading ends where a read brings nothing. -/
theorem read_ended {current : stage} {buffer : Buffer} {wanted : Nat} {source rest : Source}
    (undecided : staged.step current buffer.bytes = .more wanted)
    (received : source.read (buffer.prepare wanted).room = (.ok [], rest)) :
    staged.read current buffer source = ⟨.error .incompleteRequest, buffer.bytes, rest⟩ := by
  rw [read]
  split <;> simp_all
  split <;> simp_all

/-- Reading ends where a read fails. -/
theorem read_fault {current : stage} {buffer : Buffer} {wanted : Nat} {fault : Fault}
    {source rest : Source} (undecided : staged.step current buffer.bytes = .more wanted)
    (received : source.read (buffer.prepare wanted).room = (.error fault, rest)) :
    staged.read current buffer source = ⟨.error (.io (.stream fault)), buffer.bytes, rest⟩ := by
  rw [read]
  split <;> simp_all
  split <;> simp_all

/-- Reading cannot go on at the end of its source. -/
theorem read_nil {current : stage} {buffer : Buffer} {wanted : Nat}
    (undecided : staged.step current buffer.bytes = .more wanted) :
    staged.read current buffer [] = ⟨.error .incompleteRequest, buffer.bytes, []⟩ :=
  read_ended undecided rfl

/-- The ways in which reading ends on a delivery of bytes with something after it. -/
inductive Ending (staged : Staged stage result) (current : stage) (whole : Bytes)
    (after : Source) : Reading result → Prop
  /-- A look finished; the pieces not read are still there. -/
  | finished {later : stage} {part rest : Bytes} {value : result} {left : Source}
      (reached : staged.Reaches current whole later (part ++ left.content)) (full : left.Full)
      (decided : staged.step later part = .finish value rest) :
      Ending staged current whole after ⟨.ok value, rest, left ++ after⟩
  /-- A look refused; the pieces not read are still there. -/
  | refused {later : stage} {part : Bytes} {reason : Malformed} {left : Source}
      (reached : staged.Reaches current whole later (part ++ left.content)) (full : left.Full)
      (decided : staged.step later part = .failed reason) :
      Ending staged current whole after ⟨.error (.malformed reason), part, left ++ after⟩
  /-- All bytes have arrived, and reading turns to what comes after them. -/
  | starved {later : stage} {buffer : Buffer} {wanted : Nat}
      (reached : staged.Reaches current whole later buffer.bytes)
      (undecided : staged.step later buffer.bytes = .more wanted) :
      Ending staged current whole after (staged.read later buffer after)

/-- Handing over on the way puts one more stage in front of an ending. -/
theorem Ending.of_next {current middle : stage} {whole rest : Bytes} {after : Source}
    {reading : Reading result} (decided : staged.step current whole = .next middle rest)
    (ending : staged.Ending middle rest after reading) :
    staged.Ending current whole after reading := by
  cases ending with
  | finished reached full finishes => exact .finished (.next decided reached) full finishes
  | refused reached full refuses => exact .refused (.next decided reached) full refuses
  | starved reached undecided => exact .starved (.next decided reached) undecided

/-- Reading from a delivery ends in one of the three ways. -/
theorem Forward.read_ending (forward : staged.Forward) (current : stage) (buffer : Buffer)
    {pieces : Source} (full : pieces.Full) (after : Source) :
    staged.Ending current (buffer.bytes ++ pieces.content) after
      (staged.read current buffer (pieces ++ after)) := by
  cases decided : staged.step current buffer.bytes with
  | finish value rest =>
    rw [read_finish decided]
    exact .finished .start full decided
  | next middle rest =>
    rw [read_next decided]
    exact .of_next (forward.next _ decided)
      (forward.read_ending middle (buffer.keep rest) full after)
  | failed reason =>
    rw [read_failed decided]
    exact .refused .start full decided
  | more wanted =>
    by_cases present : pieces = []
    · subst present
      rw [Source.content_nil, List.append_nil, List.nil_append]
      exact .starved .start decided
    · obtain ⟨byte, received, left, result, leftFull, split⟩ :=
        full.read_eq present (buffer.room_prepare_pos wanted) after
      rw [read_received decided result, split, ← List.append_assoc]
      have ending := forward.read_ending current
        ((buffer.prepare wanted).append (byte :: received)) leftFull after
      simpa only [Buffer.bytes_append, Buffer.bytes_prepare] using ending
termination_by (pieces.content.length, buffer.bytes.length)
decreasing_by
  · exact Prod.Lex.right _ (staged.shrinks decided)
  · refine Prod.Lex.left _ _ ?_
    rw [split, List.length_append, List.length_cons]
    omega

/-- Whoever refuses for a reason on the way through some bytes still does on all of them. -/
def Confirms (staged : Staged stage result) (current : stage) (whole : Bytes)
    (reason : Malformed) : Prop :=
  ∀ ⦃later part rest⦄, staged.Reaches current whole later (part ++ rest) →
    staged.step later part = .failed reason → staged.step later (part ++ rest) = .failed reason

/-- A message that is read is the one that decoding finds, and nothing of the rest is lost. -/
theorem Ending.decode_of_ok (forward : staged.Forward) {current : stage} {whole : Bytes}
    {reading : Reading result} (ending : staged.Ending current whole [] reading) {value : result}
    (found : reading.outcome = .ok value) :
    staged.decode current whole = (.ok value, reading.waiting ++ reading.source.content) := by
  cases ending with
  | finished reached full decided =>
    simp only [Except.ok.injEq] at found
    rw [reached.decode_eq, decode_finish (forward.finish _ decided), found]
    simp only [List.append_nil]
  | refused => simp at found
  | starved reached undecided => simp [read_nil undecided] at found

/-- What reading leaves of a delivery is a way of delivering the rest. -/
theorem Ending.full_source {current : stage} {whole : Bytes} {reading : Reading result}
    (ending : staged.Ending current whole [] reading) : reading.source.Full := by
  cases ending with
  | finished reached full decided =>
    rw [List.append_nil]
    exact full
  | refused reached full decided =>
    rw [List.append_nil]
    exact full
  | starved reached undecided =>
    rw [read_nil undecided]
    exact Source.full_nil

/-- A message that decoding finds is read, unless a refusal on the way is not confirmed. -/
theorem Ending.of_decode_ok (forward : staged.Forward) {current : stage} {whole rest : Bytes}
    {after : Source} {reading : Reading result} (ending : staged.Ending current whole after reading)
    (confirms : ∀ reason, reading.outcome = .error (.malformed reason) →
      staged.Confirms current whole reason)
    {value : result} (decoded : staged.decode current whole = (.ok value, rest)) :
    ∃ waiting left, reading = ⟨.ok value, waiting, left ++ after⟩ ∧ left.Full ∧
      waiting ++ left.content = rest := by
  cases ending with
  | @finished later part waiting value left reached full decided =>
    rw [reached.decode_eq, decode_finish (forward.finish _ decided)] at decoded
    simp only [Prod.mk.injEq, Except.ok.injEq] at decoded
    obtain ⟨rfl, rfl⟩ := decoded
    exact ⟨waiting, left, rfl, full, rfl⟩
  | @refused later part reason left reached full decided =>
    rw [reached.decode_eq, decode_failed (confirms reason rfl reached decided)] at decoded
    simp at decoded
  | starved reached undecided =>
    rw [reached.decode_eq, decode_more undecided] at decoded
    simp at decoded

/-- Reading a delivery gives what decoding gives, unless a refusal on the way is not confirmed. -/
theorem Ending.outcome_eq_decode (forward : staged.Forward) {current : stage} {whole : Bytes}
    {reading : Reading result} (ending : staged.Ending current whole [] reading)
    (confirms : ∀ reason, reading.outcome = .error (.malformed reason) →
      staged.Confirms current whole reason) :
    reading.outcome = (staged.decode current whole).1 := by
  cases ending with
  | finished reached full decided =>
    rw [reached.decode_eq, decode_finish (forward.finish _ decided)]
  | refused reached full decided =>
    rw [reached.decode_eq, decode_failed (confirms _ rfl reached decided)]
  | starved reached undecided =>
    rw [reached.decode_eq, decode_more undecided, read_nil undecided]

/-- A message that misses some of its last bytes is waited for to the end. -/
theorem Ending.outcome_of_missing (forward : staged.Forward) {current : stage}
    {whole missing : Bytes} {reading : Reading result}
    (ending : staged.Ending current whole [] reading)
    (confirms : ∀ reason, staged.Confirms current (whole ++ missing) reason) {value : result}
    (decoded : staged.decode current (whole ++ missing) = (.ok value, [])) (given : missing ≠ []) :
    reading.outcome = .error .incompleteRequest := by
  cases ending with
  | @finished later part rest early left reached full decided =>
    have onward := reached.append forward missing
    rw [List.append_assoc] at onward
    rw [onward.decode_eq, decode_finish (forward.finish _ decided)] at decoded
    simp only [Prod.mk.injEq, List.append_eq_nil_iff] at decoded
    exact absurd decoded.2.2.2 given
  | @refused later part reason left reached full decided =>
    have onward := reached.append forward missing
    rw [List.append_assoc] at onward
    rw [onward.decode_eq, decode_failed (confirms reason onward decided)] at decoded
    simp at decoded
  | starved reached undecided => rw [read_nil undecided]

end TunnelBench.Staged
