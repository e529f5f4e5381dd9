import TunnelBench.Proofs.Request.ChunkGrammar
import TunnelBench.Proofs.Request.Stages

/-!
# Chunked bodies and their grammar

A chunked body is accepted exactly where the bytes behind the head start with a body of the
grammar, and what is read is its data: no byte of a size line, an extension or a trailer,
and nothing that stands behind the body.
-/
namespace TunnelBench

namespace Chunk

/-- A chunked body with a chunk in front. -/
def Body.cons (chunk : Sized) (body : Body) : Body :=
  { body with chunks := chunk :: body.chunks }

/-- The chunk in front is sent first. -/
theorem Body.bytes_cons (chunk : Sized) (body : Body) :
    (body.cons chunk).bytes = chunk.bytes ++ body.bytes := by
  simp only [bytes, cons, List.flatMap_cons, List.append_assoc]

/-- The data of the chunk in front are read first. -/
theorem Body.data_cons (chunk : Sized) (body : Body) :
    (body.cons chunk).data = chunk.data ++ body.data := List.flatMap_cons

end Chunk

namespace Request

/-- The request is complete at the empty line behind its trailers. -/
theorem Stage.step_trailer_eq_finish {head : RequestHead} {chunks : List Bytes} {bytes rest : Bytes}
    {request : Request} : (trailer head chunks).step bytes = .finish request rest ↔
      Chunk.trailerLine bytes = .done true rest ∧ ofChunks head chunks = request := by
  rw [step_trailer, Progress.settle_eq_finish]
  constructor
  · rintro ⟨empty, left, parsed, look⟩
    cases empty with
    | true =>
      cases look
      exact ⟨parsed, rfl⟩
    | false => simp at look
  · rintro ⟨parsed, rfl⟩
    exact ⟨true, rest, parsed, rfl⟩

/-- A trailer line is skipped. -/
theorem Stage.step_trailer_eq_next {head : RequestHead} {chunks : List Bytes} {bytes rest : Bytes}
    {later : Stage} : (trailer head chunks).step bytes = .next later rest ↔
      Chunk.trailerLine bytes = .done false rest ∧ trailer head chunks = later := by
  rw [step_trailer, Progress.settle_eq_next]
  constructor
  · rintro ⟨empty, left, parsed, look⟩
    cases empty with
    | true => simp at look
    | false =>
      cases look
      exact ⟨parsed, rfl⟩
  · rintro ⟨parsed, rfl⟩
    exact ⟨false, rest, parsed, rfl⟩

/-- A size of zero leads to the trailers, and every other to the data. -/
theorem Stage.step_chunkSize_eq_next {head : RequestHead} {chunks : List Bytes}
    {bytes rest : Bytes} {later : Stage} : (chunkSize head chunks).step bytes = .next later rest ↔
      ∃ size, Chunk.size bytes = .done size rest ∧
        (size = 0 ∧ trailer head chunks = later ∨
          size ≠ 0 ∧ chunkData head chunks size = later) := by
  rw [step_chunkSize, Progress.settle_eq_next]
  constructor
  · rintro ⟨size, left, parsed, look⟩
    by_cases zero : size = 0
    · rw [if_pos zero] at look
      cases look
      exact ⟨size, parsed, .inl ⟨zero, rfl⟩⟩
    · rw [if_neg zero] at look
      cases look
      exact ⟨size, parsed, .inr ⟨zero, rfl⟩⟩
  · rintro ⟨size, parsed, ⟨zero, rfl⟩ | ⟨positive, rfl⟩⟩
    · exact ⟨size, rest, parsed, if_pos zero⟩
    · exact ⟨size, rest, parsed, if_neg positive⟩

/-- No request is complete at a size. -/
theorem Stage.step_chunkSize_ne_finish {head : RequestHead} {chunks : List Bytes}
    {bytes rest : Bytes} {request : Request} :
    (chunkSize head chunks).step bytes ≠ .finish request rest := by
  rw [step_chunkSize, Ne, Progress.settle_eq_finish]
  rintro ⟨size, left, _, look⟩
  split at look <;> contradiction

/-- Data are collected, and another size follows. -/
theorem Stage.step_chunkData_eq_next {head : RequestHead} {chunks : List Bytes} {size : Nat}
    {bytes rest : Bytes} {later : Stage} :
    (chunkData head chunks size).step bytes = .next later rest ↔
      ∃ data, Chunk.data size bytes = .done data rest ∧
        chunkSize head (data :: chunks) = later := by
  rw [step_chunkData, Progress.settle_eq_next]
  constructor
  · rintro ⟨data, left, parsed, look⟩
    cases look
    exact ⟨data, parsed, rfl⟩
  · rintro ⟨data, parsed, rfl⟩
    exact ⟨data, rest, parsed, rfl⟩

/-- No request is complete at the data of a chunk. -/
theorem Stage.step_chunkData_ne_finish {head : RequestHead} {chunks : List Bytes} {size : Nat}
    {bytes rest : Bytes} {request : Request} :
    (chunkData head chunks size).step bytes ≠ .finish request rest := by
  rw [step_chunkData, Ne, Progress.settle_eq_finish]
  rintro ⟨data, left, _, look⟩
  contradiction

/-- Trailers that are decoded are trailer lines up to an empty one. -/
theorem trailers_of_decode {head : RequestHead} {chunks : List Bytes} {bytes rest : Bytes}
    {request : Request}
    (decoded : staged.decode (.trailer head chunks) bytes = (.ok request, rest)) :
    ofChunks head chunks = request ∧ ∃ trailers : List Chunk.Trailer,
      bytes = trailers.flatMap Chunk.Trailer.bytes ++ (Bytes.lineEnd ++ rest) := by
  obtain look | ⟨middle, behind, look, onward⟩ := Staged.decode_eq_ok.1 decoded
  · obtain ⟨parsed, made⟩ := Stage.step_trailer_eq_finish.1 look
    exact ⟨made, [], Chunk.trailerLine_eq_done_true.1 parsed⟩
  · obtain ⟨parsed, rfl⟩ := Stage.step_trailer_eq_next.1 look
    obtain ⟨made, trailers, rfl⟩ := trailers_of_decode onward
    obtain ⟨trailer, rfl⟩ := Chunk.trailerLine_eq_done_false.1 parsed
    refine ⟨made, trailer :: trailers, ?_⟩
    rw [List.flatMap_cons, List.append_assoc]
termination_by bytes.length
decreasing_by exact staged.shrinks look

/-- Trailer lines up to an empty one are decoded, and what stands behind them stays. -/
theorem decode_trailers (head : RequestHead) (chunks : List Bytes) (trailers : List Chunk.Trailer)
    (rest : Bytes) : staged.decode (.trailer head chunks)
      (trailers.flatMap Chunk.Trailer.bytes ++ (Bytes.lineEnd ++ rest)) =
        (.ok (ofChunks head chunks), rest) := by
  induction trailers with
  | nil =>
    have parsed : Chunk.trailerLine (Bytes.lineEnd ++ rest) = .done true rest :=
      Chunk.trailerLine_eq_done_true.2 rfl
    exact Staged.decode_finish (Stage.step_trailer_eq_finish.2 ⟨parsed, rfl⟩)
  | cons trailer trailers ih =>
    rw [List.flatMap_cons, List.append_assoc]
    have parsed := Chunk.trailerLine_eq_done_false.2 ⟨trailer, Eq.refl (trailer.bytes ++
      (trailers.flatMap Chunk.Trailer.bytes ++ (Bytes.lineEnd ++ rest)))⟩
    rw [Staged.decode_next (Stage.step_trailer_eq_next.2 ⟨parsed, rfl⟩), ih]

/-- A body that is decoded is one of the grammar, and its data come behind those before. -/
theorem body_of_decode {head : RequestHead} {chunks : List Bytes} {bytes rest : Bytes}
    {request : Request}
    (decoded : staged.decode (.chunkSize head chunks) bytes = (.ok request, rest)) :
    ∃ body : Chunk.Body, bytes = body.bytes ++ rest ∧
      request = ⟨head, some (chunks.reverse.flatten ++ body.data)⟩ := by
  obtain look | ⟨middle, behind, look, onward⟩ := Staged.decode_eq_ok.1 decoded
  · exact absurd look Stage.step_chunkSize_ne_finish
  obtain ⟨size, parsed, ⟨rfl, rfl⟩ | ⟨positive, rfl⟩⟩ := Stage.step_chunkSize_eq_next.1 look
  · obtain ⟨rfl, trailers, rfl⟩ := trailers_of_decode onward
    obtain ⟨line, rfl, declares, _⟩ := Chunk.size_eq_done.1 parsed
    refine ⟨⟨[], line, declares, trailers⟩, ?_, ?_⟩
    · simp only [Chunk.Body.bytes, List.flatMap_nil, List.nil_append, List.append_assoc]
    · simp only [ofChunks, Chunk.Body.data, List.flatMap_nil, List.append_nil]
  · obtain dataLook | ⟨middle, later, dataLook, last⟩ := Staged.decode_eq_ok.1 onward
    · exact absurd dataLook Stage.step_chunkData_ne_finish
    obtain ⟨data, dataParsed, rfl⟩ := Stage.step_chunkData_eq_next.1 dataLook
    obtain ⟨body, rfl, rfl⟩ := body_of_decode last
    obtain ⟨rfl, rfl⟩ := Chunk.data_eq_done.1 dataParsed
    obtain ⟨line, rfl, declares, fits⟩ := Chunk.size_eq_done.1 parsed
    have given : data ≠ [] := fun nothing => positive (List.length_eq_zero_iff.2 nothing)
    let chunk : Chunk.Sized := ⟨line, data, declares, given, fits⟩
    refine ⟨body.cons chunk, ?_, ?_⟩
    · simp only [Chunk.Body.bytes_cons, Chunk.Sized.bytes, chunk, List.append_assoc]
    · simp only [Chunk.Body.data_cons, List.reverse_cons, List.flatten_append, List.flatten_cons,
        List.flatten_nil, List.append_nil, List.append_assoc, chunk]
termination_by bytes.length
decreasing_by exact Nat.lt_trans (staged.shrinks dataLook) (staged.shrinks look)

/-- The size of a chunk and its data are decoded one after the other. -/
theorem decode_chunk (head : RequestHead) (chunks : List Bytes) (chunk : Chunk.Sized)
    (rest : Bytes) :
    staged.decode (.chunkSize head chunks) (chunk.bytes ++ rest) =
      staged.decode (.chunkSize head (chunk.data :: chunks)) rest := by
  rw [Chunk.Sized.bytes, List.append_assoc, List.append_assoc]
  have positive : chunk.data.length ≠ 0 := fun zero => chunk.given (List.length_eq_zero_iff.1 zero)
  have parsed : Chunk.size (chunk.line ++ (chunk.data ++ (Bytes.lineEnd ++ rest))) =
      .done chunk.data.length (chunk.data ++ (Bytes.lineEnd ++ rest)) :=
    Chunk.size_eq_done.2 ⟨chunk.line, rfl, chunk.declares, chunk.fits⟩
  have dataParsed : Chunk.data chunk.data.length (chunk.data ++ (Bytes.lineEnd ++ rest)) =
      .done chunk.data rest := Chunk.data_eq_done.2 ⟨rfl, rfl⟩
  rw [Staged.decode_next (Stage.step_chunkSize_eq_next.2 ⟨_, parsed, .inr ⟨positive, rfl⟩⟩),
    Staged.decode_next (Stage.step_chunkData_eq_next.2 ⟨_, dataParsed, rfl⟩)]

/-- A body of the grammar is decoded, and what stands behind it stays. -/
theorem decode_body (head : RequestHead) (chunks : List Bytes) (body : Chunk.Body) (rest : Bytes) :
    staged.decode (.chunkSize head chunks) (body.bytes ++ rest) =
      (.ok ⟨head, some (chunks.reverse.flatten ++ body.data)⟩, rest) := by
  obtain ⟨sized, last, ends, trailers⟩ := body
  induction sized generalizing chunks with
  | nil =>
    simp only [Chunk.Body.bytes, Chunk.Body.data, List.flatMap_nil, List.nil_append,
      List.append_nil, List.append_assoc]
    have parsed := Chunk.size_eq_done.2 ⟨last, Eq.refl (last ++ (trailers.flatMap
      Chunk.Trailer.bytes ++ (Bytes.lineEnd ++ rest))), ends, Nat.zero_le _⟩
    rw [Staged.decode_next (Stage.step_chunkSize_eq_next.2 ⟨0, parsed, .inl ⟨rfl, rfl⟩⟩),
      decode_trailers]
    rfl
  | cons chunk sized ih =>
    let body : Chunk.Body := ⟨sized, last, ends, trailers⟩
    change staged.decode _ ((body.cons chunk).bytes ++ rest) =
      (.ok ⟨head, some (chunks.reverse.flatten ++ (body.cons chunk).data)⟩, rest)
    rw [Chunk.Body.bytes_cons, Chunk.Body.data_cons, List.append_assoc, decode_chunk, ih]
    simp only [List.reverse_cons, List.flatten_append, List.flatten_cons, List.flatten_nil,
      List.append_nil, List.append_assoc, body]

/-- Behind a head that declares chunks a size line is looked for. -/
theorem Stage.step_start_chunked {start : Bytes} {head : RequestHead}
    (found : RequestHead.parse start = .done head []) (declared : head.framing = .chunked)
    (behind : Bytes) : Stage.start.step (start ++ behind) = .next (.chunkSize head []) behind := by
  have onward := RequestHead.parse_append_of_done found behind
  simp only [Stage.step, onward, declared, List.nil_append]

/-- Behind a head that declares chunks, a chunked body is decoded. -/
theorem decode_chunked {start : Bytes} {head : RequestHead}
    (found : RequestHead.parse start = .done head []) (declared : head.framing = .chunked)
    (behind : Bytes) :
    staged.decode .start (start ++ behind) = staged.decode (.chunkSize head []) behind :=
  Staged.decode_next (Stage.step_start_chunked found declared behind)

/-- A request with chunks that is read has a body of the grammar behind its head, and what is left
is what stands behind that body. -/
theorem body_of_read_ok {start behind : Bytes} {head : RequestHead}
    (found : RequestHead.parse start = .done head []) (declared : head.framing = .chunked)
    {source : Source} (delivers : source.Delivers (start ++ behind)) {request : Request}
    (accepted : (read source).outcome = .ok request) :
    ∃ body : Chunk.Body,
      behind = body.bytes ++ ((read source).waiting ++ (read source).source.content) ∧
        request = ⟨head, some body.data⟩ := by
  have decoded := decode_of_read_ok delivers accepted
  rw [decode_chunked found declared] at decoded
  exact body_of_decode decoded

/-- A body of the grammar behind a head is read, and what stands behind it is left. -/
theorem read_of_body {start : Bytes} {head : RequestHead}
    (found : RequestHead.parse start = .done head []) (declared : head.framing = .chunked)
    (body : Chunk.Body) {rest : Bytes} {source : Source}
    (delivers : source.Delivers (start ++ (body.bytes ++ rest)))
    (admitted : start.length ≤ RequestHead.sizeLimit ∨
      (read source).outcome ≠ .error (.malformed (.headTooLong RequestHead.sizeLimit))) :
    (read source).outcome = .ok ⟨head, some body.data⟩ ∧
      (read source).waiting ++ (read source).source.content = rest := by
  have decoded := decode_body head [] body rest
  rw [← decode_chunked found declared] at decoded
  obtain ⟨full, whole⟩ := delivers
  rw [← whole] at decoded
  have admits : RequestHead.DecidedInLimit source.content ∨ (read (source ++ [])).outcome ≠
      .error (.malformed (.headTooLong RequestHead.sizeLimit)) := by
    rw [List.append_nil, whole]
    exact admitted.imp_left fun short => RequestHead.decidedInLimit_append found short _
  obtain ⟨waiting, later, result, _, left⟩ := read_of_decode_ok full [] admits decoded
  rw [List.append_nil, List.append_nil] at result
  rw [result]
  exact ⟨rfl, left⟩

/-- A request with chunks is read if and only if the bytes behind its head start with a body of the
grammar. Its body is the data of that body, and exactly its bytes are used. -/
theorem read_chunked_iff {start behind : Bytes} {head : RequestHead}
    (found : RequestHead.parse start = .done head []) (declared : head.framing = .chunked)
    {source : Source} (delivers : source.Delivers (start ++ behind))
    (admitted : start.length ≤ RequestHead.sizeLimit ∨
      (read source).outcome ≠ .error (.malformed (.headTooLong RequestHead.sizeLimit))) :
    (∀ request used, (read source).outcome = .ok request ∧ used ≤ behind.length ∧
        (read source).waiting ++ (read source).source.content = behind.drop used ↔
      ∃ body : Chunk.Body, body.bytes = behind.take used ∧ used ≤ behind.length ∧
        request = ⟨head, some body.data⟩) ∧
      (∀ request, (read source).outcome = .ok request → ∃ used, used ≤ behind.length ∧
        (read source).waiting ++ (read source).source.content = behind.drop used) ∧
      ∀ left right : Chunk.Body, left.bytes <+: behind → right.bytes <+: behind → left = right := by
  refine ⟨fun request used => ⟨?_, ?_⟩, ?_, ?_⟩
  · rintro ⟨accepted, bound, left⟩
    obtain ⟨body, split, made⟩ := body_of_read_ok found declared delivers accepted
    rw [left] at split
    refine ⟨body, ?_, bound, made⟩
    exact List.append_cancel_right (split.symm.trans (List.take_append_drop used behind).symm)
  · rintro ⟨body, front, bound, rfl⟩
    rw [← List.take_append_drop used behind, ← front] at delivers
    obtain ⟨accepted, left⟩ := read_of_body found declared body delivers admitted
    exact ⟨accepted, bound, left⟩
  · intro request accepted
    obtain ⟨body, split, _⟩ := body_of_read_ok found declared delivers accepted
    refine ⟨body.bytes.length, ?_, ?_⟩
    · rw [split, List.length_append]
      omega
    · have left := congrArg (List.drop body.bytes.length) split
      rw [List.drop_left] at left
      exact left.symm
  · rintro left right ⟨leftRest, leftWhole⟩ ⟨rightRest, rightWhole⟩
    exact (Chunk.Body.eq_of_append (leftWhole.trans rightWhole.symm)).1

/-- The head of a request with chunks. -/
def uploadHead : Bytes := .ofString "POST / HTTP/1.1\r\nTransfer-Encoding: chunked\r\n\r\n"

/-- A body whose data look like line ends and a last size line, with an extension and a trailer. -/
def lookalikeBody : Chunk.Body where
  chunks :=
    [{ line := .ofString "5;a=b\r\n"
       data := .ofString "\r\n0\r\n"
       declares := by decide +kernel
       given := by decide +kernel
       fits := by decide +kernel }]
  last := .ofString "0\r\n"
  ends := by decide +kernel
  trailers :=
    [{ text := .ofString "A: b"
       given := by decide +kernel
       single := by decide +kernel }]

/-- Data that look like the end of a body are read as data. -/
theorem read_lookalikeBody :
    ∃ head, RequestHead.parse uploadHead = .done head [] ∧ head.framing = .chunked ∧
      Source.Delivers [.data (uploadHead ++ lookalikeBody.bytes)]
        (uploadHead ++ lookalikeBody.bytes) ∧
      uploadHead.length ≤ RequestHead.sizeLimit ∧
      (read [.data (uploadHead ++ lookalikeBody.bytes)]).outcome =
        .ok ⟨head, some (.ofString "\r\n0\r\n")⟩ := by
  have found : RequestHead.parse uploadHead = .done
      { method := .ofString "POST"
        target := "/"
        version := 1
        headers := [⟨.ofString "Transfer-Encoding", .ofString "chunked"⟩]
        framing := .chunked } [] := by decide +kernel
  have delivers : Source.Delivers [.data (uploadHead ++ lookalikeBody.bytes)]
      (uploadHead ++ lookalikeBody.bytes) := Source.delivers_whole (by decide +kernel)
  have short : uploadHead.length ≤ RequestHead.sizeLimit := by decide +kernel
  have exactly := (read_chunked_iff found rfl delivers (.inl short)).1
  have accepted := (exactly _ lookalikeBody.bytes.length).2
    ⟨lookalikeBody, List.take_length.symm, Nat.le_refl _, rfl⟩
  refine ⟨_, found, rfl, delivers, short, ?_⟩
  rw [accepted.1]
  rfl

end Request
end TunnelBench
