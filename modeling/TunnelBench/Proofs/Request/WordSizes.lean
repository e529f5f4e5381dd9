import TunnelBench.Proofs.Request.ChunkEnding
import TunnelBench.Proofs.Request.DeclaredLength
import TunnelBench.Proofs.Stream.Passes
import TunnelBench.Proofs.Stream.Stopping

/-!
# Sizes in machine words

Whoever sends a request chooses the sizes in it, up to the largest machine word. What a stage of
reading computes with them is written here a second time, with a check of every number that has to
fit a word, every difference, and every range of the waiting bytes. No check fails at any pass of
any reader: a length is a word where a head is accepted, a chunk is refused before its size is added
to, and nothing is cut before all of it waits.
-/
namespace TunnelBench

namespace Word

/-- A number if it fits a machine word. -/
def fit? (number : Nat) : Option Nat := if number < UInt64.size then some number else none

/-- A sum of words if it does not wrap. -/
def add? (left right : Nat) : Option Nat := fit? (left + right)

/-- A difference of words if it does not wrap. -/
def sub? (left right : Nat) : Option Nat := if right ≤ left then some (left - right) else none

end Word

namespace Bytes

/-- The bytes of a range if it lies within them. -/
def slice? (start stop : Nat) (bytes : Bytes) : Option Bytes :=
  if start ≤ stop ∧ stop ≤ bytes.length then some ((bytes.take stop).drop start) else none

/-- The first bytes, and those behind them, if there are so many. -/
def splitTo? (count : Nat) (bytes : Bytes) : Option (Bytes × Bytes) :=
  if count ≤ bytes.length then some (bytes.take count, bytes.drop count) else none

/-- The bytes behind the first ones, if there are so many. -/
def advance? (count : Nat) (bytes : Bytes) : Option Bytes :=
  if count ≤ bytes.length then some (bytes.drop count) else none

/-- The bytes behind those that a parser has used, which are as many as are missing in its rest. -/
def advanceTo? (bytes rest : Bytes) : Option Bytes := do
  let used ← Word.sub? bytes.length rest.length
  bytes.advance? used

/-- The number of the bytes before the first line end. -/
def lineEndAt? : Bytes → Option Nat
  | [] => none
  | byte :: rest =>
    if byte == 13 && rest.head? == some 10 then some 0 else (lineEndAt? rest).map (· + 1)

/-- A parser that has used the front of some bytes leaves the others. -/
theorem advanceTo?_append (used rest : Bytes) : advanceTo? (used ++ rest) rest = some rest := by
  have more : rest.length ≤ (used ++ rest).length := by
    rw [List.length_append]
    omega
  have count : (used ++ rest).length - rest.length = used.length := by
    rw [List.length_append, Nat.add_sub_cancel]
  have within : used.length ≤ (used ++ rest).length := by
    rw [List.length_append]
    omega
  rw [advanceTo?, Word.sub?, if_pos more, count]
  change advance? used.length (used ++ rest) = some rest
  rw [advance?, if_pos within, List.drop_left]

/-- A line end that is found lies within the bytes. -/
theorem length_of_lineEndAt? {bytes : Bytes} {before : Nat}
    (found : lineEndAt? bytes = some before) : before + 2 ≤ bytes.length := by
  fun_induction lineEndAt? bytes generalizing before with
  | case1 => contradiction
  | case2 byte rest ends =>
    cases rest with
    | nil => simp at ends
    | cons next rest =>
      rw [← Option.some.inj found, List.length_cons, List.length_cons]
      omega
  | case3 byte rest goesOn ih =>
    rw [Option.map_eq_some_iff] at found
    obtain ⟨shorter, inner, rfl⟩ := found
    have bound := ih inner
    rw [List.length_cons]
    omega

end Bytes

namespace Chunk

/-- A line is skipped up to the first line end. -/
theorem lineFrom_eq (empty : Bool) (bytes : Bytes) : lineFrom empty bytes =
    match bytes.lineEndAt? with
    | none => .more
    | some before => .done (empty && before == 0) (bytes.drop (before + 2)) := by
  fun_induction lineFrom empty bytes with
  | case1 => rfl
  | case2 empty byte rest ends =>
    rw [Bytes.lineEndAt?, if_pos ends]
    simp
  | case3 empty byte rest goesOn ih =>
    rw [Bytes.lineEndAt?, if_neg goesOn, ih]
    cases Bytes.lineEndAt? rest with
    | none => rfl
    | some before => simp

/-- A hexadecimal digit stands for a number below sixteen. -/
theorem digit_lt (byte : UInt8) : (digit? byte).getD 0 < 16 := by
  revert byte
  apply forall_byte
  decide +kernel

/-- Each digit of a number makes it sixteen times larger at most. -/
theorem numberFrom_lt (total : Nat) (run : Bytes) :
    numberFrom total run < (total + 1) * 16 ^ run.length := by
  induction run generalizing total with
  | nil =>
    rw [numberFrom, List.foldl_nil, List.length_nil]
    omega
  | cons byte run ih =>
    have digit := digit_lt byte
    calc numberFrom total (byte :: run)
        = numberFrom (total * 16 + (digit? byte).getD 0) run := rfl
      _ < (total * 16 + (digit? byte).getD 0 + 1) * 16 ^ run.length := ih _
      _ ≤ ((total + 1) * 16) * 16 ^ run.length := Nat.mul_le_mul_right _ (by omega)
      _ = (total + 1) * 16 ^ (byte :: run).length := by
        rw [List.length_cons, Nat.pow_succ, Nat.mul_assoc, Nat.mul_comm 16]

/-- The size that a line declares is a machine word. -/
theorem lt_of_sizeLine {bytes rest : Bytes} {size : Nat} (read : sizeLine bytes = .done size rest) :
    size < UInt64.size := by
  obtain ⟨spelling, -, rfl⟩ := sizeLine_eq_done.1 read
  calc spelling.size < (0 + 1) * 16 ^ spelling.digits.length := numberFrom_lt 0 spelling.digits
    _ ≤ (0 + 1) * 16 ^ digitLimit :=
      Nat.mul_le_mul_left _ (Nat.pow_le_pow_right (by decide) spelling.short)
    _ = UInt64.size := by decide

/-- The size that a line declares is taken if it is a machine word together with a line end. -/
theorem size_of_sizeLine {bytes rest : Bytes} {declared : Nat}
    (read : sizeLine bytes = .done declared rest) :
    size bytes = if declared + 2 < UInt64.size then .done declared rest
      else .failed (.chunkTooLarge declared) := by
  rw [size, Parser.bind_of_done read, Parser.require, Framing.sizeBound]
  by_cases fits : declared + 2 < UInt64.size
  · rw [if_pos fits, decide_eq_true fits]
    rfl
  · rw [if_neg fits, decide_eq_false fits]
    rfl

/-- Bytes in front of which the size of a chunk is too large, and the reason for which they are
refused. -/
inductive Oversized : Bytes → Malformed → Prop
  /-- The chunk does not fit a machine word together with its line end. -/
  | large (spelling : Spelling) (above : UInt64.size - 3 < spelling.size) (rest : Bytes) :
    Oversized (spelling.bytes ++ rest) (.chunkTooLarge spelling.size)
  /-- The size has more digits than a machine word. -/
  | long (run rest : Bytes) (hexadecimal : ∀ byte ∈ run, byte ∈ hexadecimals)
    (above : digitLimit < run.length) : Oversized (run ++ rest) .chunkSize

/-- Digits beyond the allowed number are refused. -/
theorem digits_of_long {run : Bytes} (hexadecimal : ∀ byte ∈ run, byte ∈ hexadecimals)
    {allowed : Nat} (above : allowed < run.length) (total : Nat) (rest : Bytes) :
    digits allowed total (run ++ rest) = .failed .chunkSize := by
  induction run generalizing allowed total with
  | nil => exact absurd above (Nat.not_lt_zero allowed)
  | cons byte run ih =>
    rw [List.forall_mem_cons, mem_hexadecimals, Option.isSome_iff_exists] at hexadecimal
    obtain ⟨⟨value, known⟩, onward⟩ := hexadecimal
    rw [List.cons_append, digits, known]
    cases allowed with
    | zero => rfl
    | succ allowed => exact ih onward (Nat.lt_of_succ_lt_succ above) _

/-- A size that is too large is refused. -/
theorem Oversized.size {bytes : Bytes} {reason : Malformed} (oversized : Oversized bytes reason) :
    Chunk.size bytes = .failed reason := by
  cases oversized with
  | large spelling above rest =>
    have read : sizeLine (spelling.bytes ++ rest) = .done spelling.size rest :=
      sizeLine_eq_done.2 ⟨spelling, rfl, rfl⟩
    have exceeds : ¬spelling.size + 2 < UInt64.size := by omega
    rw [size_of_sizeLine read, if_neg exceeds]
  | long run rest hexadecimal above =>
    have refused : sizeLine (run ++ rest) = .failed .chunkSize :=
      Parser.bind_of_failed (digits_of_long hexadecimal above 0 rest)
    exact Parser.bind_of_failed refused

end Chunk

/-- The length that a head declares is a machine word. -/
theorem RequestHead.length_lt {bytes rest : Bytes} {head : RequestHead} {length : Nat}
    (found : parse bytes = .done head rest) (measured : head.framing = .length length) :
    length < UInt64.size := by
  obtain ⟨given, declared⟩ := lengths_of_parse found measured
  obtain ⟨value, member⟩ := List.exists_mem_of_ne_nil _ given
  obtain ⟨numeral, -, rfl⟩ := Framing.declaredLength?_eq_some.1 (declared value member)
  exact numeral.fits

namespace Request

/-- What a stage makes of the waiting bytes if all numbers are machine words and all ranges lie
within the bytes, and nothing if one is not or does not. -/
def Stage.checkedStep : Stage → Bytes → Option (Step Stage Request)
  | .start, bytes =>
    match RequestHead.parse bytes with
    | .done head rest => do
      let rest ← bytes.advanceTo? rest
      some (behind head rest)
    | .failed reason => some (.failed reason)
    | .more => some (.more 0)
  | .sized head length, bytes => do
    let length ← Word.fit? length
    if bytes.length < length then
      let missing ← Word.sub? length bytes.length
      some (.more (min missing Buffer.mostRoom))
    else
      let (body, rest) ← bytes.splitTo? length
      some (.finish ⟨head, some body⟩ rest)
  | .chunkSize head chunks, bytes =>
    match Chunk.sizeLine bytes with
    | .done size rest => do
      let size ← Word.fit? size
      let rest ← bytes.advanceTo? rest
      if size = 0 then some (.next (.trailer head chunks) rest)
      else
        -- A sum that wraps is no fault here, because the reader looks whether it does.
        match Word.add? size 2 with
        | some _ => some (.next (.chunkData head chunks size) rest)
        | none => some (.failed (.chunkTooLarge size))
    | .failed reason => some (.failed reason)
    | .more => some (.more 0)
  | .chunkData head chunks size, bytes => do
    let whole ← Word.add? size 2
    if bytes.length < whole then
      let missing ← Word.sub? whole bytes.length
      some (.more (min missing Buffer.mostRoom))
    else
      let data ← bytes.slice? 0 size
      let ending ← bytes.slice? size whole
      if ending == Bytes.lineEnd then
        let rest ← bytes.advance? whole
        some (.next (.chunkSize head (data :: chunks)) rest)
      else some (.failed .chunkEnd)
  | .trailer head chunks, bytes =>
    match bytes.lineEndAt? with
    | none => some (.more 0)
    | some before =>
      if before = 0 then do
        let rest ← bytes.advance? 2
        some (.finish (ofChunks head chunks) rest)
      else do
        let used ← Word.add? before 2
        let rest ← bytes.advance? used
        some (.next (.trailer head chunks) rest)

/-- A stage whose sizes are machine words, that of a chunk together with its line end. -/
def Stage.Fits : Stage → Prop
  | .sized _ length => length < UInt64.size
  | .chunkData _ _ size => size + 2 < UInt64.size
  | _ => True

/-- Every stage that is handed over to has sizes that are machine words. -/
theorem Stage.fits_of_next {current later : Stage} {bytes rest : Bytes}
    (decided : current.step bytes = .next later rest) : later.Fits := by
  cases current with
  | start =>
    rw [step_start, Progress.settle_eq_next] at decided
    obtain ⟨head, left, found, onward⟩ := decided
    rw [behind] at onward
    cases framing : head.framing with
    | none => simp [framing] at onward
    | length length =>
      simp only [framing, Step.next.injEq] at onward
      rw [← onward.1]
      exact RequestHead.length_lt found framing
    | chunked =>
      simp only [framing, Step.next.injEq] at onward
      rw [← onward.1]
      trivial
  | sized head length =>
    rw [step_sized, Progress.settle_eq_next] at decided
    obtain ⟨body, left, -, onward⟩ := decided
    contradiction
  | chunkSize head chunks =>
    rw [step_chunkSize_eq_next] at decided
    obtain ⟨size, read, ⟨-, rfl⟩ | ⟨-, rfl⟩⟩ := decided
    · trivial
    · obtain ⟨line, -, -, small⟩ := Chunk.size_eq_done.1 read
      have bound : size + 2 < UInt64.size := by
        have positive : 3 ≤ UInt64.size := by decide
        omega
      exact bound
  | chunkData head chunks size =>
    rw [step_chunkData, Progress.settle_eq_next] at decided
    obtain ⟨data, left, -, onward⟩ := decided
    rw [← (Step.next.inj onward).1]
    trivial
  | trailer head chunks =>
    rw [step_trailer_eq_next] at decided
    rw [← decided.2]
    trivial

/-- No check of the first stage fails. -/
theorem Stage.checkedStep_start (bytes : Bytes) :
    Stage.start.checkedStep bytes = some (Stage.start.step bytes) := by
  rw [step_start, checkedStep]
  cases found : RequestHead.parse bytes with
  | done head rest =>
    obtain ⟨used, rfl, -⟩ := RequestHead.exact_parse found
    simp only [Bytes.advanceTo?_append]
    rfl
  | failed reason => rfl
  | more => rfl

/-- No check fails before a body of a length that fits. -/
theorem Stage.checkedStep_sized (head : RequestHead) {length : Nat} (fits : length < UInt64.size)
    (bytes : Bytes) :
    (sized head length).checkedStep bytes = some ((sized head length).step bytes) := by
  have word : Word.fit? length = some length := if_pos fits
  rw [step_sized, Parser.block, checkedStep, word]
  by_cases short : bytes.length < length
  · have missing : Word.sub? length bytes.length = some (length - bytes.length) :=
      if_pos (Nat.le_of_lt short)
    simp only [bind, Option.bind, if_pos short, missing]
    rfl
  · have whole : bytes.splitTo? length = some (bytes.take length, bytes.drop length) :=
      if_pos (Nat.le_of_not_lt short)
    simp only [bind, Option.bind, if_neg short, whole]
    rfl

/-- No check fails before a size line. -/
theorem Stage.checkedStep_chunkSize (head : RequestHead) (chunks : List Bytes) (bytes : Bytes) :
    (chunkSize head chunks).checkedStep bytes = some ((chunkSize head chunks).step bytes) := by
  rw [step_chunkSize, checkedStep]
  cases read : Chunk.sizeLine bytes with
  | done size rest =>
    obtain ⟨spelling, rfl, -⟩ := Chunk.sizeLine_eq_done.1 read
    have word : Word.fit? size = some size := if_pos (Chunk.lt_of_sizeLine read)
    rw [Chunk.size_of_sizeLine read]
    simp only [bind, Option.bind, word, Bytes.advanceTo?_append]
    by_cases zero : size = 0
    · subst zero
      rfl
    · by_cases fits : size + 2 < UInt64.size
      · have sum : Word.add? size 2 = some (size + 2) := if_pos fits
        simp only [if_neg zero, if_pos fits, sum, Progress.settle]
      · have wraps : Word.add? size 2 = none := if_neg fits
        simp only [if_neg zero, if_neg fits, wraps, Progress.settle]
  | failed reason =>
    have refused : Chunk.size bytes = .failed reason := Parser.bind_of_failed read
    rw [refused]
    rfl
  | more =>
    have asks : Chunk.size bytes = .more := Parser.bind_of_more read
    rw [asks]
    rfl

/-- No check fails before the data of a chunk that fits. -/
theorem Stage.checkedStep_chunkData (head : RequestHead) (chunks : List Bytes) {size : Nat}
    (fits : size + 2 < UInt64.size) (bytes : Bytes) :
    (chunkData head chunks size).checkedStep bytes =
      some ((chunkData head chunks size).step bytes) := by
  have word : Word.add? size 2 = some (size + 2) := if_pos fits
  rw [step_chunkData, checkedStep, word]
  by_cases short : bytes.length < size + 2
  · have asks : Chunk.data size bytes = .more := Parser.bind_of_more (if_pos short)
    have missing : Word.sub? (size + 2) bytes.length = some (size + 2 - bytes.length) :=
      if_pos (Nat.le_of_lt short)
    simp only [bind, Option.bind, if_pos short, missing, asks]
    rfl
  · have whole : size + 2 ≤ bytes.length := Nat.le_of_not_lt short
    have block : Parser.block (size + 2) bytes =
        .done (bytes.take (size + 2)) (bytes.drop (size + 2)) := if_neg short
    have front : bytes.slice? 0 size = some (bytes.take size) :=
      if_pos ⟨Nat.zero_le _, Nat.le_of_add_right_le whole⟩
    have ending : bytes.slice? size (size + 2) = some ((bytes.take (size + 2)).drop size) :=
      if_pos ⟨Nat.le_add_right size 2, whole⟩
    have rest : bytes.advance? (size + 2) = some (bytes.drop (size + 2)) := if_pos whole
    have data : (bytes.take (size + 2)).take size = bytes.take size := by
      rw [List.take_take, Nat.min_eq_left (Nat.le_add_right size 2)]
    rw [Chunk.data, Parser.bind_of_done block, data]
    simp only [bind, Option.bind, if_neg short, front, ending, rest]
    cases (bytes.take (size + 2)).drop size == Bytes.lineEnd <;> rfl

/-- No check fails before a trailer line, because the number of waiting bytes is a word. -/
theorem Stage.checkedStep_trailer (head : RequestHead) (chunks : List Bytes) {bytes : Bytes}
    (held : bytes.length < UInt64.size) :
    (trailer head chunks).checkedStep bytes = some ((trailer head chunks).step bytes) := by
  rw [step_trailer, checkedStep, Chunk.trailerLine, Chunk.lineFrom_eq]
  cases found : Bytes.lineEndAt? bytes with
  | none => rfl
  | some before =>
    have within := Bytes.length_of_lineEndAt? found
    have word : Word.add? before 2 = some (before + 2) := if_pos (Nat.lt_of_le_of_lt within held)
    have rest : bytes.advance? (before + 2) = some (bytes.drop (before + 2)) := if_pos within
    by_cases empty : before = 0
    · subst empty
      simp only [bind, Option.bind, if_true, rest]
      rfl
    · have filled : (true && before == 0) = false := by simpa using empty
      simp only [bind, Option.bind, if_neg empty, word, rest, filled]
      rfl

/-- No check of a stage with sizes that fit fails. -/
theorem Stage.checkedStep_eq {current : Stage} (fits : current.Fits) {bytes : Bytes}
    (held : bytes.length < UInt64.size) :
    current.checkedStep bytes = some (current.step bytes) := by
  cases current with
  | start => exact checkedStep_start bytes
  | sized head length => exact checkedStep_sized head fits bytes
  | chunkSize head chunks => exact checkedStep_chunkSize head chunks bytes
  | chunkData head chunks size => exact checkedStep_chunkData head chunks fits bytes
  | trailer head chunks => exact checkedStep_trailer head chunks held

-- Without its refusal a chunk whose size does not fit would lead to a sum that wraps.
example (head : RequestHead) (chunks : List Bytes) {size : Nat} (above : UInt64.size ≤ size + 2)
    (bytes : Bytes) : (Stage.chunkData head chunks size).checkedStep bytes = none := by
  have wraps : Word.add? size 2 = none := if_neg (Nat.not_lt_of_le above)
  rw [Stage.checkedStep, wraps]
  rfl

/-- In front of a size that is too large the reader stops with the reason for it. -/
theorem read_of_oversized {source : Source} {standing : Standing Stage}
    (member : standing ∈ staged.standings ⟨.start, .empty, source⟩) {head : RequestHead}
    {chunks : List Bytes} {reason : Malformed} (before : standing.current = .chunkSize head chunks)
    (oversized : Chunk.Oversized standing.buffer.bytes reason) :
    (read source).outcome = .error (.malformed reason) := by
  have refused : staged.step standing.current standing.buffer.bytes = .failed reason := by
    rw [before]
    exact Stage.step_chunkSize_of_failed oversized.size head chunks
  have same : staged.readFrom standing = read source := Staged.readFrom_of_mem_standings member
  rw [← same, Staged.readFrom, Staged.read_failed refused]

/-- Behind a head that declares chunks a reader goes on before a size line. -/
theorem pass_of_chunked {start behind : Bytes} {head : RequestHead}
    (found : RequestHead.parse start = .done head []) (declared : head.framing = .chunked)
    {buffer : Buffer} (held : buffer.bytes = start ++ behind) (source : Source) :
    staged.pass ⟨.start, buffer, source⟩ =
      .inl ⟨.chunkSize head [], buffer.keep behind, source⟩ := by
  have decided : staged.step .start buffer.bytes = .next (.chunkSize head []) behind := by
    rw [held]
    exact Stage.step_start_chunked found declared behind
  exact Staged.pass_next decided

/-- Whatever sizes a source declares, no number of a reader wraps and no range leaves the waiting
bytes at any of its passes, as long as their number is a machine word itself. Every pass leaves,
uses up waiting bytes or receives new ones, so that there are no more of them than twice the bytes
of the source and one. The last one leaves with a request, or with a failure that the source
accounts for. A chunk that does not fit a machine word together with its line end is refused for its
size, wherever the reader meets it and however its bytes are delivered. -/
theorem sizes_are_safe (source : Source) :
    (∀ standing ∈ staged.standings ⟨.start, .empty, source⟩,
      (standing.buffer.bytes.length < UInt64.size →
        standing.current.checkedStep standing.buffer.bytes =
          some (standing.current.step standing.buffer.bytes)) ∧
      staged.Proceeds standing ∧
      ∀ (head : RequestHead) (chunks : List Bytes) (reason : Malformed),
        standing.current = .chunkSize head chunks →
        Chunk.Oversized standing.buffer.bytes reason →
        (read source).outcome = .error (.malformed reason)) ∧
    (staged.standings ⟨.start, .empty, source⟩).length ≤ 2 * source.content.length + 1 ∧
    (∃ last ∈ staged.standings ⟨.start, .empty, source⟩, staged.pass last = .inr (read source)) ∧
    ((∃ request, (read source).outcome = .ok request) ∨
      ∃ failure, (read source).outcome = .error failure ∧ source.Explains failure) ∧
    ∀ (start behind : Bytes) (head : RequestHead) (chunks : List Chunk.Sized) (reason : Malformed)
      (pieces after : Source), source = pieces ++ after →
      RequestHead.parse start = .done head [] → head.framing = .chunked →
      Chunk.Oversized behind reason →
      pieces.Delivers (start ++ (chunks.flatMap Chunk.Sized.bytes ++ behind)) →
      (start.length ≤ RequestHead.sizeLimit ∨ (read source).outcome ≠
        .error (.malformed (.headTooLong RequestHead.sizeLimit))) →
      (read source).outcome = .error (.malformed reason) := by
  have fits : ∀ standing ∈ staged.standings ⟨.start, .empty, source⟩, standing.current.Fits :=
    Staged.forall_stages Stage.fits_of_next trivial
  refine ⟨?_, staged.length_standings_le _, staged.exists_last_pass _, ?_, ?_⟩
  · intro standing member
    refine ⟨Stage.checkedStep_eq (fits standing member), staged.proceeds standing, ?_⟩
    intro head chunks reason before oversized
    exact read_of_oversized member before oversized
  · cases ended : (read source).outcome with
    | ok request => exact .inl ⟨request, rfl⟩
    | error failure => exact .inr ⟨failure, rfl, Staged.explains_of_error ended⟩
  · rintro start behind head chunks reason pieces after rfl found declared oversized delivers
      admitted
    have refused := decode_refused found declared chunks oversized.size
    have within := admitted.imp_left fun short => RequestHead.decidedInLimit_append found short
      (chunks.flatMap Chunk.Sized.bytes ++ behind)
    have settled : (staged.decode .start
        (start ++ (chunks.flatMap Chunk.Sized.bytes ++ behind))).1 ≠ .error .incompleteRequest := by
      rw [refused]
      simp
    rw [outcome_of_decided delivers within (.inl settled), refused]

/-- The size line of a chunk that is one byte too large for its line end. -/
def largest : Chunk.Spelling where
  digits := .ofString "fFFFFFFFFFFFFFFE"
  gap := .ofString " "
  extension := some (.ofString "name=value")
  hexadecimal := by decide +kernel
  short := by decide +kernel
  blank := by decide +kernel
  single := by decide +kernel

/-- The size line of such a chunk, and some of its data. -/
def largestChunk : Bytes := largest.bytes ++ .ofString "data"

/-- An upload of such a chunk. -/
def largestUpload : Source := [.data (uploadHead ++ largestChunk)]

/-- The buffer in which the upload has been received. -/
def largestReceived : Buffer := (Buffer.empty.prepare 0).append (uploadHead ++ largestChunk)

/-- The upload is refused where its size line waits, as a size with too many digits is behind
another chunk. -/
theorem largestUpload_is_safe :
    (∃ standing ∈ staged.standings ⟨.start, .empty, largestUpload⟩,
      standing.current = .chunkSize uploadLines [] ∧
      standing.current.checkedStep standing.buffer.bytes =
        some (.failed (.chunkTooLarge (UInt64.size - 2)))) ∧
      (read largestUpload).outcome = .error (.malformed (.chunkTooLarge (UInt64.size - 2))) ∧
      (read [.data (uploadHead ++ (threeBytes.bytes ++ .ofString "00000000000000005")),
        .fault .silent]).outcome = .error (.malformed .chunkSize) := by
  have arrives : staged.pass ⟨.start, .empty, largestUpload⟩ =
      .inl ⟨.start, largestReceived, []⟩ := rfl
  have held : largestReceived.bytes = uploadHead ++ largestChunk := by
    rw [largestReceived, Buffer.bytes_append, Buffer.bytes_prepare]
    exact List.nil_append (uploadHead ++ largestChunk)
  have onward := pass_of_chunked parse_uploadHead rfl held []
  have member : (⟨.chunkSize uploadLines [], largestReceived.keep largestChunk, []⟩ :
      Standing Stage) ∈ staged.standings ⟨.start, .empty, largestUpload⟩ :=
    Staged.mem_standings_of_onward arrives
      (Staged.mem_standings_of_onward onward (Staged.mem_standings_self _))
  have size : largest.size = UInt64.size - 2 := by decide +kernel
  have oversized : Chunk.Oversized largestChunk (.chunkTooLarge (UInt64.size - 2)) := by
    rw [← size]
    exact .large largest (by decide +kernel) _
  have long : Chunk.Oversized (Bytes.ofString "00000000000000005" ++ []) .chunkSize :=
    .long _ _ (by decide +kernel) (by decide +kernel)
  rw [List.append_nil] at long
  have short : uploadHead.length ≤ RequestHead.sizeLimit := by decide +kernel
  have large := Stage.step_chunkSize_of_failed oversized.size uploadLines []
  obtain ⟨passes, -⟩ := sizes_are_safe largestUpload
  obtain ⟨checked, -, refuses⟩ := passes _ member
  have computed := checked (show largestChunk.length < UInt64.size by decide +kernel)
  obtain ⟨-, -, -, -, delivered⟩ := sizes_are_safe
    [.data (uploadHead ++ (threeBytes.bytes ++ .ofString "00000000000000005")), .fault .silent]
  have refused := delivered uploadHead (.ofString "00000000000000005") uploadLines [threeBytes]
    .chunkSize [.data (uploadHead ++ (threeBytes.bytes ++ .ofString "00000000000000005"))]
    [.fault .silent] rfl parse_uploadHead rfl long (Source.delivers_whole (by decide +kernel))
    (.inl short)
  exact ⟨⟨_, member, rfl, computed.trans (congrArg some large)⟩,
    refuses uploadLines [] _ rfl oversized, refused⟩

end Request
end TunnelBench
