import TunnelBench.Proofs.Request.Peeking
import TunnelBench.Proofs.Stream.Receiving

/-!
# Looking for a head

A request and its target are both read by looking for a head first. As long as the head is
open, all that can go wrong is that the source fails or ends, or that a look finds more
bytes than the limit allows for an open head. Which of these happens, and whether the head
is found, depends on the head and on the reads alone, and not on what is read behind it.
-/
namespace TunnelBench

namespace Parser

variable {α β : Type}

/-- A parser that never refuses for a reason. -/
def Spares (reason : Malformed) (parser : Parser α) : Prop :=
  ∀ bytes, parser bytes ≠ .failed reason

/-- Accepting without looking refuses nothing. -/
theorem spares_pure (reason : Malformed) (value : α) : (pure value : Parser α).Spares reason :=
  fun _ => nofun

/-- A condition refuses for its own reason only. -/
theorem spares_require {condition : Bool} {own reason : Malformed} (other : own ≠ reason) :
    (require condition own).Spares reason := by
  intro bytes refused
  cases condition with
  | true => contradiction
  | false =>
    simp only [require, fail, Bool.false_eq_true, ↓reduceIte, Progress.failed.injEq] at refused
    exact other refused

/-- A byte is refused for the reason given with it only. -/
theorem spares_byte (test : UInt8 → Bool) {own reason : Malformed} (other : own ≠ reason) :
    (byte test own).Spares reason := by
  intro bytes refused
  cases bytes with
  | nil => contradiction
  | cons head tail =>
    simp only [byte] at refused
    split at refused
    · contradiction
    · exact other (Progress.failed.inj refused)

/-- A run of bytes is never refused. -/
theorem spares_many (test : UInt8 → Bool) (reason : Malformed) : (many test).Spares reason := by
  intro bytes refused
  unfold many at refused
  split at refused <;> contradiction

/-- A block of bytes is never refused. -/
theorem spares_block (size : Nat) (reason : Malformed) : (block size).Spares reason := by
  intro bytes refused
  unfold block at refused
  split at refused <;> contradiction

/-- Two parsers in order refuse for their own reasons only. -/
theorem Spares.bind {first : Parser α} {next : α → Parser β} {reason : Malformed}
    (firstSpares : first.Spares reason) (nextSpares : ∀ value, (next value).Spares reason) :
    (first >>= next).Spares reason := by
  intro bytes refused
  cases result : first bytes with
  | done middle suffix =>
    rw [bind_of_done result] at refused
    exact nextSpares middle suffix refused
  | failed own =>
    rw [bind_of_failed result, Progress.failed.injEq] at refused
    rw [refused] at result
    exact firstSpares bytes result
  | more =>
    rw [bind_of_more result] at refused
    contradiction

end Parser

namespace Chunk

/-- Digits are refused for being too many. -/
theorem spares_digits (allowed total : Nat) {reason : Malformed} (other : .chunkSize ≠ reason) :
    (digits allowed total).Spares reason := by
  intro bytes refused
  fun_induction digits allowed total bytes with
  | case1 => contradiction
  | case2 => contradiction
  | case3 => exact other (Progress.failed.inj refused)
  | case4 _ _ _ _ _ _ ih => exact ih refused

/-- A size line is refused as such. -/
theorem spares_sizeLine {reason : Malformed} (other : .chunkSize ≠ reason) :
    sizeLine.Spares reason :=
  (spares_digits _ _ other).bind fun _ =>
    (Parser.spares_many _ _).bind fun _ =>
      (Parser.spares_byte _ other).bind fun mark => by
        have ending : ∀ size : Nat,
            (Parser.byte (· == 10) .chunkSize >>= fun _ => pure size : Parser Nat).Spares reason :=
          fun _ => (Parser.spares_byte _ other).bind fun _ => Parser.spares_pure _ _
        split
        · exact (Parser.spares_many _ _).bind fun _ =>
            (Parser.spares_byte _ other).bind fun _ => ending _
        · exact ending _

/-- A line is never refused. -/
theorem spares_lineFrom (empty : Bool) (reason : Malformed) : (lineFrom empty).Spares reason := by
  intro bytes refused
  fun_induction lineFrom empty bytes with
  | case1 => contradiction
  | case2 => contradiction
  | case3 _ _ _ _ ih => exact ih refused

/-- No size of a chunk is refused for the size of the head. -/
theorem size_spares_head (limit : Nat) : size.Spares (.headTooLong limit) :=
  (spares_sizeLine (by simp)).bind fun _ =>
    (Parser.spares_require (by simp)).bind fun _ => Parser.spares_pure _ _

/-- No data are refused for the size of the head. -/
theorem data_spares_head (length limit : Nat) : (data length).Spares (.headTooLong limit) :=
  (Parser.spares_block _ _).bind fun _ =>
    (Parser.spares_require (by simp)).bind fun _ => Parser.spares_pure _ _

end Chunk

namespace RequestHead

/-- The refusal of a head that is open past the limit. -/
def overlong : Failure := .malformed (.headTooLong sizeLimit)

/-- Bytes that start like a whole head hold it, or hold a part of it that is open. -/
theorem front_cases {start part later : Bytes} {head : RequestHead}
    (found : parse start = .done head []) (begins : start <+: part ++ later) :
    (start.length ≤ part.length ∧ ∃ rest, part = start ++ rest ∧ parse part = .done head rest) ∨
      (part.length < start.length ∧ wholeHead part = .more) := by
  by_cases short : start.length ≤ part.length
  · obtain ⟨rest, rfl⟩ :=
      List.prefix_of_prefix_length_le begins (List.prefix_append part later) short
    exact .inl ⟨short, rest, rfl, parse_append_of_done found rest⟩
  · obtain ⟨missing, rfl⟩ :=
      List.prefix_of_prefix_length_le (List.prefix_append part later) begins (by omega)
    rw [List.length_append] at short ⊢
    refine .inr ⟨by omega, ?_⟩
    have whole := parse_eq_done.1 found
    cases looked : wholeHead part with
    | done early rest =>
      rw [steady_wholeHead.done looked missing, Progress.done.injEq,
        List.append_eq_nil_iff] at whole
      rw [whole.2.2, List.length_nil] at short
      omega
    | failed reason =>
      rw [steady_wholeHead.failed looked missing] at whole
      contradiction
    | more => rfl

end RequestHead

namespace Request

open RequestHead (parse sizeLimit overlong)

/-- The head that a stage stands behind. -/
def Stage.head? : Stage → Option RequestHead
  | .start => none
  | .sized head _ | .chunkSize head _ | .chunkData head _ _ | .trailer head _ => some head

/-- What a look behind a head may lead to. -/
def Stage.Follows (head : RequestHead) : Step Stage Request → Prop
  | .finish request _ => request.head = head
  | .next later _ => later.head? = some head
  | .failed reason => reason ≠ .headTooLong sizeLimit
  | .more _ => True

/-- A value that may follow the head leaves its stage to what may follow the head. -/
theorem Stage.follows_settle {α : Type} {head : RequestHead} {found : Progress α} {wanted : Nat}
    {next : α → Bytes → Step Stage Request} (onward : ∀ value rest, Follows head (next value rest))
    (spared : found ≠ .failed (.headTooLong sizeLimit)) :
    Follows head (found.settle wanted next) := by
  cases found with
  | done value rest => exact onward value rest
  | failed reason =>
    rintro rfl
    exact spared rfl
  | more => trivial

/-- Behind a head every look keeps it. -/
theorem Stage.follows_step {current : Stage} {head : RequestHead}
    (behind : current.head? = some head) (bytes : Bytes) : Follows head (current.step bytes) := by
  cases current with
  | start => contradiction
  | sized found length =>
    cases behind
    rw [step_sized]
    exact follows_settle (fun _ _ => rfl) (Parser.spares_block _ _ bytes)
  | chunkSize found chunks =>
    cases behind
    rw [step_chunkSize]
    refine follows_settle (fun size rest => ?_) (Chunk.size_spares_head _ bytes)
    by_cases last : size = 0
    · rw [if_pos last]
      rfl
    · rw [if_neg last]
      rfl
  | chunkData found chunks size =>
    cases behind
    rw [step_chunkData]
    exact follows_settle (fun _ _ => rfl) (Chunk.data_spares_head _ _ bytes)
  | trailer found chunks =>
    cases behind
    rw [step_trailer]
    refine follows_settle (fun empty rest => ?_) (Chunk.spares_lineFrom _ _ bytes)
    cases empty <;> rfl

end Request

/-- What is read behind a head has the head, and is not refused for the size of the head. -/
structure RequestHead.Heads {result : Type} (has : result → RequestHead → Prop)
    (head : RequestHead) (outcome : Except Failure result) : Prop where
  keeps : ∀ value, outcome = .ok value → has value head
  spares : outcome ≠ .error overlong

namespace Request

open RequestHead (parse sizeLimit overlong Heads)

/-- Reading on behind a head keeps it. -/
theorem heads_read {current : Stage} {head : RequestHead} (behind : current.head? = some head)
    (buffer : Buffer) (source : Source) :
    Heads (·.head = ·) head (staged.read current buffer source).outcome := by
  fun_induction Staged.read staged current buffer source with
  | case1 current buffer source request rest decided =>
    have follows := Stage.follows_step behind buffer.bytes
    change current.step buffer.bytes = _ at decided
    rw [decided] at follows
    refine ⟨fun value same => ?_, nofun⟩
    rw [← Except.ok.inj same]
    exact follows
  | case2 current buffer source later rest decided ih =>
    have follows := Stage.follows_step behind buffer.bytes
    change current.step buffer.bytes = _ at decided
    rw [decided] at follows
    exact ih follows
  | case3 current buffer source reason decided =>
    have follows := Stage.follows_step behind buffer.bytes
    change current.step buffer.bytes = _ at decided
    rw [decided] at follows
    refine ⟨nofun, fun refused => follows ?_⟩
    exact Failure.malformed.inj (Except.error.inj refused)
  | case4 => exact ⟨nofun, nofun⟩
  | case5 => exact ⟨nofun, nofun⟩
  | case6 current buffer source wanted undecided prepared byte bytes rest received ih =>
    exact ih behind

end Request

open RequestHead (parse sizeLimit overlong Heads)

/-- A message that is read by looking for a head first. -/
structure Staged.SeeksHead {stage result : Type} (staged : Staged stage result) (first : stage)
    (has : result → RequestHead → Prop) : Prop where
  /-- An open head is waited for. -/
  more : ∀ {bytes}, parse bytes = .more → staged.step first bytes = .more 0
  /-- A refused head is refused. -/
  failed : ∀ {bytes reason}, parse bytes = .failed reason → staged.step first bytes = .failed reason
  /-- Behind a head no size is refused, and the message has the head. -/
  done : ∀ {buffer : Buffer} {head rest}, parse buffer.bytes = .done head rest → ∀ source,
    Heads has head (staged.read first buffer source).outcome

/-- Reading a request looks for its head first. -/
theorem Request.seeksHead_staged : staged.SeeksHead .start (·.head = ·) where
  more := by
    intro bytes undecided
    change Stage.start.step bytes = _
    rw [Stage.step_start, undecided]
    rfl
  failed := by
    intro bytes reason refused
    change Stage.start.step bytes = _
    rw [Stage.step_start, refused]
    rfl
  done := by
    intro buffer head rest found source
    have look : staged.step .start buffer.bytes = Stage.behind head rest := by
      change Stage.start.step buffer.bytes = _
      rw [Stage.step_start, found]
      rfl
    unfold Stage.behind at look
    split at look
    · rw [Staged.read_finish look]
      refine ⟨fun value same => ?_, nofun⟩
      rw [← Except.ok.inj same]
    · rw [Staged.read_next look]
      exact heads_read rfl _ _
    · rw [Staged.read_next look]
      exact heads_read rfl _ _

/-- Reading a target looks for its head first. -/
theorem Request.seeksHead_peeked :
    peeked.SeeksHead () (fun target head => head.target = target) where
  more := by
    intro bytes undecided
    change peekStep () bytes = _
    rw [peekStep, undecided]
  failed := by
    intro bytes reason refused
    change peekStep () bytes = _
    rw [peekStep, refused]
  done := by
    intro buffer head rest found source
    have look : peeked.step () buffer.bytes = .finish head.target buffer.bytes :=
      peekStep_eq_finish.2 ⟨⟨head, rest, found, rfl⟩, rfl⟩
    rw [Staged.read_finish look]
    exact ⟨fun value same => Except.ok.inj same, by simp⟩

/-- The ways in which looking for a head at the front of some bytes goes. -/
inductive Staged.Seeking {stage result : Type} (staged : Staged stage result) (first : stage)
    (start : Bytes) (buffer : Buffer) (source : Source) : Prop
  /-- A look finds the head open past the limit. -/
  | refused (pauses : staged.Pauses first buffer source sizeLimit start.length)
      (refusal : (staged.read first buffer source).outcome = .error overlong)
  /-- A look finds the whole head. -/
  | found (held : Buffer) (left : Source) (behind : Bytes)
      (passes : ¬staged.Pauses first buffer source sizeLimit start.length)
      (bounded : held.bytes.length ≤ 2 * sizeLimit) (arrived : held.bytes = start ++ behind)
      (goesOn : staged.read first buffer source = staged.read first held left)
  /-- The source fails or ends before the whole head has arrived. -/
  | cut (passes : ¬staged.Pauses first buffer source sizeLimit start.length)
      (early : ∀ pieces after, pieces.Full → source = pieces ++ after →
        ¬start <+: buffer.bytes ++ pieces.content)
      (failure : Failure) (broken : failure = .incompleteRequest ∨
        ∃ fault, failure = .io (.stream fault))
      (failed : (staged.read first buffer source).outcome = .error failure)

namespace Staged

variable {stage result : Type} {staged : Staged stage result} {first : stage}
  {has : result → RequestHead → Prop}

/-- A last read that brings nothing cuts the head off. -/
theorem Seeking.of_last {start : Bytes} {buffer : Buffer} {source : Source} {room : Nat}
    {failure : Failure} (made : staged.rooms first buffer source = [room]) (positive : 0 < room)
    (nothing : ∀ byte received, (source.read room).1 ≠ .ok (byte :: received))
    (short : buffer.bytes.length ≤ sizeLimit) (missing : buffer.bytes.length < start.length)
    (failed : (staged.read first buffer source).outcome = .error failure)
    (broken : failure = .incompleteRequest ∨ ∃ fault, failure = .io (.stream fault)) :
    staged.Seeking first start buffer source := by
  have silent : (source.readEach [room]).1 = [] := by
    rw [Source.readEach]
    cases received : source.read room with
    | mk outcome rest =>
      cases outcome with
      | error fault => rfl
      | ok bytes =>
        cases bytes with
        | nil => rfl
        | cons byte bytes => exact absurd (by rw [received]) (nothing byte bytes)
  refine .cut (not_pauses_of_last made silent short) ?_ failure broken failed
  intro pieces after full split begins
  by_cases present : pieces = []
  · have length := begins.length_le
    rw [present, Source.content_nil, List.append_nil] at length
    omega
  · obtain ⟨byte, received, left, result, -, -⟩ := full.read_eq present positive after
    rw [← split] at result
    exact nothing byte received (by rw [result])

/-- Looking for a head goes as it goes behind the next read. -/
theorem Seeking.of_received {start : Bytes} {buffer : Buffer} {source rest : Source} {byte : UInt8}
    {bytes : Bytes} (asks : staged.step first buffer.bytes = .more 0)
    (received : source.read (buffer.prepare 0).room = (.ok (byte :: bytes), rest))
    (short : buffer.bytes.length ≤ sizeLimit) (missing : buffer.bytes.length < start.length)
    (later : staged.Seeking first start ((buffer.prepare 0).append (byte :: bytes)) rest) :
    staged.Seeking first start buffer source := by
  have onward := read_received asks received
  have pauses := pauses_received asks received short start.length
  cases later with
  | refused laterPauses refusal =>
    refine .refused (pauses.2 laterPauses) ?_
    rw [onward, refusal]
  | found held left behind passes bounded arrived goesOn =>
    refine .found held left behind (fun early => passes (pauses.1 early)) bounded arrived ?_
    rw [onward, goesOn]
  | cut passes early failure broken failed =>
    have failedHere : (staged.read first buffer source).outcome = .error failure := by
      rw [onward, failed]
    refine .cut (fun earlier => passes (pauses.1 earlier)) ?_ failure broken failedHere
    intro pieces after full split begins
    by_cases present : pieces = []
    · have length := begins.length_le
      rw [present, Source.content_nil, List.append_nil] at length
      omega
    · obtain ⟨head, tail, left, result, leftFull, parts⟩ :=
        full.read_eq present (buffer.room_prepare_pos 0) after
      rw [← split, received, Prod.mk.injEq, Except.ok.injEq] at result
      rw [parts, ← result.1, ← List.append_assoc] at begins
      refine early left after leftFull result.2 ?_
      rw [Buffer.bytes_append, Buffer.bytes_prepare]
      exact begins

/-- Looking for a head that is at the front of the bytes to come goes in one of three ways. -/
theorem SeeksHead.seeking (seeks : staged.SeeksHead first has) {start : Bytes} {head : RequestHead}
    (found : parse start = .done head []) {buffer : Buffer} {source : Source}
    (collects : buffer.Collects (2 * sizeLimit)) (least : Buffer.leastRoom ≤ buffer.size)
    (begins : start <+: buffer.bytes ++ source.content) :
    staged.Seeking first start buffer source := by
  obtain ⟨enough, behind, whole, -⟩ | ⟨missing, undecided⟩ :=
    RequestHead.front_cases found begins
  · exact .found buffer source behind (not_pauses_of_le enough) collects.length_le whole rfl
  by_cases long : sizeLimit < buffer.bytes.length
  · have refused := seeks.failed (RequestHead.parse_eq_failed.2 (.inr ⟨undecided, long, rfl⟩))
    refine .refused (pauses_of_held long missing) ?_
    rw [read_failed refused]
    rfl
  have short : buffer.bytes.length ≤ sizeLimit := by omega
  have asks := seeks.more (RequestHead.parse_eq_more.2 ⟨undecided, short⟩)
  have positive := buffer.room_prepare_pos 0
  match received : source.read (buffer.prepare 0).room with
  | (.error fault, rest) =>
    exact .of_last (rooms_fault asks received) positive (by simp [received]) short missing
      (by rw [read_fault asks received]) (.inr ⟨fault, rfl⟩)
  | (.ok [], rest) =>
    exact .of_last (rooms_ended asks received) positive (by simp [received]) short missing
      (by rw [read_ended asks received]) (.inl rfl)
  | (.ok (byte :: bytes), rest) =>
    obtain ⟨prepared, preparedLeast⟩ := collects.prepare least short
    have grown := prepared.append (Source.length_le_of_read received)
    rw [Source.content_of_read_ok received, ← List.append_assoc] at begins
    have held : ((buffer.prepare 0).append (byte :: bytes)).bytes =
        buffer.bytes ++ byte :: bytes := by
      rw [Buffer.bytes_append, Buffer.bytes_prepare]
    rw [← held] at begins
    exact .of_received asks received short missing (seeking seeks found grown preparedLeast begins)
termination_by source.weight
decreasing_by exact (Source.weight_read_ok_lt received (by simp)).2

end Staged
end TunnelBench
