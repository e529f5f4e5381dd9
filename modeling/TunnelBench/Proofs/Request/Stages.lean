import TunnelBench.Proofs.Request.ChunkDecision
import TunnelBench.Proofs.Request.HeadDecision
import TunnelBench.Proofs.Stream.Ending
import TunnelBench.Request.Reader

/-!
# The stages of a request

Every stage of a request stands by what it decides, but for the refusal of a head whose
end is still to come. Reading a request therefore gives what decoding all of its bytes
gives, wherever the head is decided within the limit on its size.
-/
namespace TunnelBench

/-- What a look leads to, with more bytes received behind those looked at. -/
def Step.extend {stage result : Type} (later : Bytes) : Step stage result → Step stage result
  | .finish value rest => .finish value (rest ++ later)
  | .next stage rest => .next stage (rest ++ later)
  | .failed reason => .failed reason
  | .more wanted => .more wanted

/-- What a stage makes of a parser's progress: a value leads on, and too few bytes are asked for. -/
def Progress.settle {α stage result : Type} (wanted : Nat) (next : α → Bytes → Step stage result) :
    Progress α → Step stage result
  | .done value rest => next value rest
  | .failed reason => .failed reason
  | .more => .more wanted

/-- Progress is settled as finished where a value leads to the end. -/
theorem Progress.settle_eq_finish {α stage result : Type} {found : Progress α} {wanted : Nat}
    {next : α → Bytes → Step stage result} {message : result} {rest : Bytes} :
    found.settle wanted next = .finish message rest ↔
      ∃ value left, found = .done value left ∧ next value left = .finish message rest := by
  constructor
  · intro look
    cases found with
    | done value left => exact ⟨value, left, rfl, look⟩
    | failed reason => contradiction
    | more => contradiction
  · rintro ⟨value, left, rfl, look⟩
    exact look

/-- Progress is settled as handed over where a value leads to another stage. -/
theorem Progress.settle_eq_next {α stage result : Type} {found : Progress α} {wanted : Nat}
    {next : α → Bytes → Step stage result} {later : stage} {rest : Bytes} :
    found.settle wanted next = .next later rest ↔
      ∃ value left, found = .done value left ∧ next value left = .next later rest := by
  constructor
  · intro look
    cases found with
    | done value left => exact ⟨value, left, rfl, look⟩
    | failed reason => contradiction
    | more => contradiction
  · rintro ⟨value, left, rfl, look⟩
    exact look

/-- A stage stands by what it decides if its parser does, and if what a value leads to stands. -/
theorem Progress.settle_extend {α stage result : Type} {found whole : Progress α} {later : Bytes}
    {wanted other : Nat} {next : α → Bytes → Step stage result}
    (stands : found ≠ .more → whole = found.extend later)
    (decided : ∀ size, found.settle wanted next ≠ .more size)
    (onward : ∀ value rest, next value (rest ++ later) = (next value rest).extend later) :
    whole.settle other next = (found.settle wanted next).extend later := by
  cases found with
  | done value rest =>
    rw [stands (by simp)]
    exact onward value rest
  | failed reason =>
    rw [stands (by simp)]
    rfl
  | more => exact absurd rfl (decided wanted)

namespace Request

/-- Behind a head stands what its framing says. -/
def Stage.behind (head : RequestHead) (rest : Bytes) : Step Stage Request :=
  match head.framing with
  | .none => .finish ⟨head, none⟩ rest
  | .length length => .next (.sized head length) rest
  | .chunked => .next (.chunkSize head []) rest

/-- The first stage reads the head. -/
theorem Stage.step_start (bytes : Bytes) :
    Stage.start.step bytes = (RequestHead.parse bytes).settle 0 Stage.behind := by
  simp only [step]
  cases RequestHead.parse bytes <;> rfl

/-- A declared body is read as one block. -/
theorem Stage.step_sized (head : RequestHead) (length : Nat) (bytes : Bytes) :
    (sized head length).step bytes =
      (Parser.block length bytes).settle (wantedFor length bytes.length)
        fun body rest => .finish ⟨head, some body⟩ rest := by
  simp only [step]
  cases Parser.block length bytes <;> rfl

/-- A size of zero leads to the trailers, and every other to the data. -/
theorem Stage.step_chunkSize (head : RequestHead) (chunks : List Bytes) (bytes : Bytes) :
    (chunkSize head chunks).step bytes = (Chunk.size bytes).settle 0 fun size rest =>
      if size = 0 then .next (.trailer head chunks) rest
      else .next (.chunkData head chunks size) rest := by
  simp only [step]
  cases Chunk.size bytes <;> rfl

/-- Data are collected, and another size follows. -/
theorem Stage.step_chunkData (head : RequestHead) (chunks : List Bytes) (size : Nat)
    (bytes : Bytes) : (chunkData head chunks size).step bytes =
      (Chunk.data size bytes).settle (wantedFor (size + 2) bytes.length)
        fun data rest => .next (.chunkSize head (data :: chunks)) rest := by
  simp only [step]
  cases Chunk.data size bytes <;> rfl

/-- A trailer line is skipped, and the empty one completes the request. -/
theorem Stage.step_trailer (head : RequestHead) (chunks : List Bytes) (bytes : Bytes) :
    (trailer head chunks).step bytes = (Chunk.trailerLine bytes).settle 0 fun empty rest =>
      if empty then .finish (ofChunks head chunks) rest
      else .next (.trailer head chunks) rest := by
  simp only [step]
  cases Chunk.trailerLine bytes <;> rfl

/-- A stage that has decided stands by it, the first one as far as the head does. -/
theorem Stage.step_append {current : Stage} {part : Bytes} (later : Bytes)
    (decided : ∀ wanted, current.step part ≠ .more wanted)
    (head : current = .start → RequestHead.parse part ≠ .more →
      RequestHead.parse (part ++ later) = (RequestHead.parse part).extend later) :
    current.step (part ++ later) = (current.step part).extend later := by
  cases current with
  | start =>
    simp only [step_start] at decided ⊢
    refine Progress.settle_extend (head rfl) decided fun found rest => ?_
    unfold behind
    cases found.framing <;> rfl
  | sized found length =>
    simp only [step_sized] at decided ⊢
    exact Progress.settle_extend (Parser.steady_block length part later) decided fun _ _ => rfl
  | chunkSize found chunks =>
    simp only [step_chunkSize] at decided ⊢
    refine Progress.settle_extend (Chunk.steady_size part later) decided fun size rest => ?_
    split <;> rfl
  | chunkData found chunks size =>
    simp only [step_chunkData] at decided ⊢
    exact Progress.settle_extend (Chunk.steady_data size part later) decided fun _ _ => rfl
  | trailer found chunks =>
    simp only [step_trailer] at decided ⊢
    refine Progress.settle_extend (Chunk.steady_trailerLine part later) decided fun empty rest => ?_
    split <;> rfl

/-- A head that the first stage does not refuse stands. -/
theorem Stage.parse_append_of_accepted {part : Bytes} (later : Bytes)
    (accepted : ∀ reason, Stage.start.step part ≠ .failed reason)
    (decided : RequestHead.parse part ≠ .more) :
    RequestHead.parse (part ++ later) = (RequestHead.parse part).extend later := by
  cases parsed : RequestHead.parse part with
  | done head rest => exact RequestHead.parse_append_of_done parsed later
  | failed reason =>
    have refuses : Stage.start.step part = .failed reason := by simp only [step, parsed]
    exact absurd refuses (accepted reason)
  | more => exact absurd parsed decided

/-- A decision of a stage stands, that of the first one as far as the head does. -/
theorem Stage.step_append_of_eq {current : Stage} {part : Bytes} {look : Step Stage Request}
    (later : Bytes) (decided : current.step part = look) (settled : ∀ wanted, look ≠ .more wanted)
    (head : current = .start → RequestHead.parse part ≠ .more →
      RequestHead.parse (part ++ later) = (RequestHead.parse part).extend later) :
    current.step (part ++ later) = look.extend later := by
  rw [Stage.step_append later (by rwa [decided]) head, decided]

/-- What a stage accepts stands. -/
theorem Stage.step_append_of_accepted {current : Stage} {part : Bytes} {look : Step Stage Request}
    (later : Bytes) (decided : current.step part = look) (settled : ∀ wanted, look ≠ .more wanted)
    (accepted : ∀ reason, look ≠ .failed reason) :
    current.step (part ++ later) = look.extend later := by
  refine Stage.step_append_of_eq later decided settled fun first => ?_
  apply Stage.parse_append_of_accepted
  intro reason refused
  rw [first, refused] at decided
  exact accepted reason decided.symm

/-- What the stages of a request finish and hand over stands. -/
theorem forward_staged : staged.Forward where
  finish := fun later decided =>
    Stage.step_append_of_accepted later decided (by simp) (by simp)
  next := fun later decided =>
    Stage.step_append_of_accepted later decided (by simp) (by simp)

/-- No stage hands over to the first one. -/
theorem Stage.step_ne_next_start {current : Stage} {bytes rest : Bytes} :
    current.step bytes ≠ .next .start rest := by
  cases current with
  | start =>
    simp only [step]
    split
    · split <;> simp
    all_goals simp
  | sized head length =>
    simp only [step]
    split <;> simp
  | chunkSize head chunks =>
    simp only [step]
    split
    · split <;> simp
    all_goals simp
  | chunkData head chunks size =>
    simp only [step]
    split <;> simp
  | trailer head chunks =>
    simp only [step]
    split
    · split <;> simp
    all_goals simp

/-- Only at the very start is the first stage reached, with all bytes left for it. -/
theorem eq_of_reaches_start {current later : Stage} {whole last : Bytes}
    (reached : staged.Reaches current whole later last) (first : later = .start) :
    current = .start ∧ last = whole := by
  induction reached with
  | start => exact ⟨first, rfl⟩
  | next decided _ ih =>
    obtain ⟨rfl, _⟩ := ih first
    exact absurd decided Stage.step_ne_next_start

/-- Where the head is decided within the limit, every refusal is confirmed. -/
theorem confirms_of_decidedInLimit {whole : Bytes} (within : RequestHead.DecidedInLimit whole)
    (reason : Malformed) : staged.Confirms .start whole reason := by
  intro later part rest reached refused
  refine Stage.step_append_of_eq rest refused (by simp) fun first decided => ?_
  obtain ⟨_, rfl⟩ := eq_of_reaches_start reached first
  exact within.parse_eq_extend decided

/-- A refusal that is not about the size of the head is confirmed. -/
theorem confirms_of_ne_headTooLong (whole : Bytes) {reason : Malformed}
    (unsized : reason ≠ .headTooLong RequestHead.sizeLimit) :
    staged.Confirms .start whole reason := by
  intro later part rest reached refused
  refine Stage.step_append_of_eq rest refused (by simp) fun first decided => ?_
  change later.step part = _ at refused
  subst first
  cases parsed : RequestHead.parse part with
  | done head rest => exact RequestHead.parse_append_of_done parsed _
  | failed cause =>
    simp only [Stage.step, parsed, Step.failed.injEq] at refused
    subst refused
    obtain malformed | ⟨_, _, sized⟩ := RequestHead.parse_eq_failed.1 parsed
    · exact RequestHead.parse_eq_failed.2
        (.inl (RequestHead.steady_wholeHead.failed malformed rest))
    · exact absurd sized unsized
  | more => exact absurd parsed decided

/-- The request that is read on a delivery is the one that decoding finds. -/
theorem decode_of_read_ok {source : Source} {bytes : Bytes} (delivers : source.Delivers bytes)
    {request : Request} (found : (read source).outcome = .ok request) :
    staged.decode .start bytes =
      (.ok request, (read source).waiting ++ (read source).source.content) := by
  obtain ⟨full, rfl⟩ := delivers
  have ending := forward_staged.read_ending .start .empty full []
  rw [List.append_nil] at ending
  exact ending.decode_of_ok forward_staged found

/-- A delivery of bytes whose head is decided within the limit is read as it is decoded. -/
theorem read_outcome_eq_decode {source : Source} {bytes : Bytes}
    (within : RequestHead.DecidedInLimit bytes) (delivers : source.Delivers bytes) :
    (read source).outcome = (staged.decode .start bytes).1 := by
  obtain ⟨full, rfl⟩ := delivers
  have ending := forward_staged.read_ending .start .empty full []
  rw [List.append_nil] at ending
  exact ending.outcome_eq_decode forward_staged fun reason _ =>
    confirms_of_decidedInLimit within reason

/-- A request that decoding finds in the front pieces is read, unless its head is refused for its
size, and the later pieces stay. -/
theorem read_of_decode_ok {pieces : Source} (full : pieces.Full) (after : Source)
    (admitted : RequestHead.DecidedInLimit pieces.content ∨ (read (pieces ++ after)).outcome ≠
      .error (.malformed (.headTooLong RequestHead.sizeLimit)))
    {request : Request} {rest : Bytes}
    (decoded : staged.decode .start pieces.content = (.ok request, rest)) :
    ∃ waiting left, read (pieces ++ after) = ⟨.ok request, waiting, left ++ after⟩ ∧
      left.Full ∧ waiting ++ left.content = rest := by
  have ending := forward_staged.read_ending .start .empty full after
  refine ending.of_decode_ok forward_staged ?_ decoded
  intro reason refused
  obtain within | unsized := admitted
  · exact confirms_of_decidedInLimit within reason
  · apply confirms_of_ne_headTooLong
    rintro rfl
    exact unsized refused

end Request
end TunnelBench
