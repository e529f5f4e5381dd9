import TunnelBench.Proofs.Stream.Ending

/-!
# Which reads are made

Reading a message makes reads one after another, each with the room that its buffer has.
The list of these rooms is the whole interplay between a reader and its source: the
source that reading leaves is the one that reads of these rooms leave. No read is made
once the bytes of a message that can be decoded have all been received.
-/
namespace TunnelBench

/-- What reads of some rooms bring, one after another, and what they leave. -/
def Source.readEach : List Nat → Source → Bytes × Source
  | [], source => ([], source)
  | room :: rooms, source =>
    match source.read room with
    | (.error _, rest) => rest.readEach rooms
    | (.ok bytes, rest) => (bytes ++ (rest.readEach rooms).1, (rest.readEach rooms).2)

namespace Staged

variable {stage result : Type}

/-- The rooms of the reads that reading a message makes, in their order. -/
def rooms (staged : Staged stage result) (current : stage) (buffer : Buffer) (source : Source) :
    List Nat :=
  match _ : staged.step current buffer.bytes with
  | .finish _ _ => []
  | .next later rest => staged.rooms later (buffer.keep rest) source
  | .failed _ => []
  | .more wanted =>
    let prepared := buffer.prepare wanted
    match _ : source.read prepared.room with
    | (.error _, _) => [prepared.room]
    | (.ok [], _) => [prepared.room]
    | (.ok (byte :: bytes), rest) =>
      prepared.room :: staged.rooms current (prepared.append (byte :: bytes)) rest
termination_by (source.weight, buffer.bytes.length)
decreasing_by
  · exact Prod.Lex.right _ (by simpa using staged.shrinks ‹_›)
  · exact Prod.Lex.left _ _ (Source.weight_read_ok_lt ‹_› (by simp)).2

variable {staged : Staged stage result}

/-- Reading leaves its source as the listed reads leave it. -/
theorem source_read (staged : Staged stage result) (current : stage) (buffer : Buffer)
    (source : Source) : (staged.read current buffer source).source =
      (source.readEach (staged.rooms current buffer source)).2 := by
  fun_induction staged.rooms current buffer source with
  | case1 current buffer source value rest decided =>
    rw [read_finish decided]
    rfl
  | case2 current buffer source middle rest decided ih => rw [read_next decided, ih]
  | case3 current buffer source reason decided =>
    rw [read_failed decided]
    rfl
  | case4 current buffer source wanted undecided prepared fault rest received =>
    rw [read_fault undecided received, Source.readEach, received]
    rfl
  | case5 current buffer source wanted undecided prepared rest received =>
    rw [read_ended undecided received, Source.readEach, received]
    rfl
  | case6 current buffer source wanted undecided prepared byte bytes rest received ih =>
    rw [read_received undecided received, ih, Source.readEach, received]

/-- No read is made where a stage finishes. -/
theorem rooms_finish {current : stage} {buffer : Buffer} {value : result} {rest : Bytes}
    (decided : staged.step current buffer.bytes = .finish value rest) (source : Source) :
    staged.rooms current buffer source = [] := by
  rw [rooms]
  split <;> simp_all

/-- Handing over makes no read. -/
theorem rooms_next {current middle : stage} {buffer : Buffer} {rest : Bytes}
    (decided : staged.step current buffer.bytes = .next middle rest) (source : Source) :
    staged.rooms current buffer source = staged.rooms middle (buffer.keep rest) source := by
  rw [rooms]
  split <;> simp_all

/-- No read is made where a stage refuses. -/
theorem rooms_failed {current : stage} {buffer : Buffer} {reason : Malformed}
    (decided : staged.step current buffer.bytes = .failed reason) (source : Source) :
    staged.rooms current buffer source = [] := by
  rw [rooms]
  split <;> simp_all

/-- A stage that asks for more makes a read, and perhaps others with what it brings. -/
theorem rooms_received {current : stage} {buffer : Buffer} {wanted : Nat} {byte : UInt8}
    {bytes : Bytes} {source rest : Source}
    (undecided : staged.step current buffer.bytes = .more wanted)
    (received : source.read (buffer.prepare wanted).room = (.ok (byte :: bytes), rest)) :
    staged.rooms current buffer source = (buffer.prepare wanted).room ::
      staged.rooms current ((buffer.prepare wanted).append (byte :: bytes)) rest := by
  rw [rooms]
  split <;> simp_all
  split <;> simp_all

/-- Where a stage hands over, what is needed for a message shrinks by what the stage used. -/
theorem Forward.exists_needed (forward : staged.Forward) {current middle : stage}
    {part rest needed behind : Bytes} {value : result}
    (decided : staged.step current part = .next middle rest)
    (decoded : staged.decode current needed = (.ok value, []))
    (begins : needed <+: part ++ behind) :
    ∃ left, staged.decode middle left = (.ok value, []) ∧ left <+: rest ++ behind ∧
      left.length + part.length = needed.length + rest.length := by
  obtain ⟨later, rfl⟩ | ⟨extra, rfl⟩ :=
    List.prefix_or_prefix_of_prefix (List.prefix_append part behind) begins
  · rw [decode_next (forward.next later decided)] at decoded
    refine ⟨rest ++ later, decoded, ?_, by simp only [List.length_append]; omega⟩
    rw [List.prefix_append_right_inj] at begins ⊢
    exact begins
  · cases look : staged.step current needed with
    | finish found left =>
      rw [forward.finish extra look] at decided
      contradiction
    | next found left =>
      have stands := forward.next extra look
      rw [decided, Step.next.injEq] at stands
      obtain ⟨rfl, rfl⟩ := stands
      rw [decode_next look] at decoded
      refine ⟨left, decoded, ?_, by simp only [List.length_append]; omega⟩
      rw [List.append_assoc]
      exact List.prefix_append _ _
    | failed reason => simp [decode_failed look] at decoded
    | more wanted => simp [decode_more look] at decoded

/-- A message whose bytes have all been received is not asked for. -/
theorem Forward.length_lt_of_more (forward : staged.Forward) {current : stage}
    {part needed behind : Bytes} {value : result} {wanted : Nat}
    (undecided : staged.step current part = .more wanted)
    (decoded : staged.decode current needed = (.ok value, []))
    (begins : needed <+: part ++ behind) : part.length < needed.length := by
  by_cases received : needed.length ≤ part.length
  · obtain ⟨extra, rfl⟩ :=
      List.prefix_of_prefix_length_le begins (List.prefix_append part behind) received
    have stands := forward.decode_append decoded extra
    rw [decode_more undecided] at stands
    simp at stands
  · omega

/-- Every read of a message is made before the last of its bytes has been received. -/
theorem Forward.received_lt (forward : staged.Forward) {current : stage} {buffer : Buffer}
    {pieces after : Source} (full : pieces.Full) {needed : Bytes} {value : result}
    (decoded : staged.decode current needed = (.ok value, []))
    (begins : needed <+: buffer.bytes ++ pieces.content) {earlier later : List Nat} {room : Nat}
    (made : staged.rooms current buffer (pieces ++ after) = earlier ++ room :: later) :
    buffer.bytes.length + ((pieces ++ after).readEach earlier).1.length < needed.length := by
  cases decided : staged.step current buffer.bytes with
  | finish value rest =>
    rw [rooms_finish decided] at made
    simp at made
  | next middle rest =>
    obtain ⟨left, leftDecoded, leftBegins, lengths⟩ :=
      forward.exists_needed decided decoded begins
    rw [rooms_next decided] at made
    have bound := forward.received_lt full leftDecoded leftBegins made
    rw [Buffer.bytes_keep] at bound
    omega
  | failed reason =>
    rw [rooms_failed decided] at made
    simp at made
  | more wanted =>
    have missing := forward.length_lt_of_more decided decoded begins
    have present : pieces ≠ [] := by
      rintro rfl
      have length := begins.length_le
      rw [Source.content_nil, List.append_nil] at length
      omega
    obtain ⟨byte, received, left, result, leftFull, split⟩ :=
      full.read_eq present (buffer.room_prepare_pos wanted) after
    rw [rooms_received decided result] at made
    cases earlier with
    | nil => exact missing
    | cons first earlier =>
      rw [List.cons_append, List.cons.injEq] at made
      obtain ⟨rfl, made⟩ := made
      rw [split, ← List.append_assoc] at begins
      have bound := forward.received_lt leftFull decoded
        (by simpa only [Buffer.bytes_append, Buffer.bytes_prepare] using begins) made
      rw [Buffer.bytes_append, Buffer.bytes_prepare, List.length_append] at bound
      rw [Source.readEach, result, List.length_append]
      omega
termination_by (pieces.content.length, buffer.bytes.length)
decreasing_by
  · exact Prod.Lex.right _ (staged.shrinks decided)
  · refine Prod.Lex.left _ _ ?_
    rw [split, List.length_append, List.length_cons]
    omega

end Staged
end TunnelBench
