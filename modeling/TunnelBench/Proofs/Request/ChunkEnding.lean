import TunnelBench.Proofs.Handler.Echoing
import TunnelBench.Proofs.Request.SizeLines

/-!
# Where chunked bodies end

A size line of zero ends a chunked body. Every size line before it starts with a digit, and
the digits of the last one are zeros, of which there may be none: a line that starts with no
digit ends the body where a zero could stand, and is refused otherwise.
-/
namespace TunnelBench

namespace Staged

variable {stage result : Type} {staged : Staged stage result}

/-- What decoding settles on the bytes of a delivery is what reading them comes to, whatever comes
after them, unless a refusal on the way is not confirmed. -/
theorem Ending.outcome_of_decided (forward : staged.Forward) {current : stage} {whole : Bytes}
    {after : Source} {reading : Reading result}
    (ending : staged.Ending current whole after reading)
    (confirms : ∀ reason, reading.outcome = .error (.malformed reason) →
      staged.Confirms current whole reason)
    (decided : (staged.decode current whole).1 ≠ .error .incompleteRequest) :
    reading.outcome = (staged.decode current whole).1 := by
  cases ending with
  | finished reached full finishes =>
    rw [reached.decode_eq, decode_finish (forward.finish _ finishes)]
  | refused reached full refuses =>
    rw [reached.decode_eq, decode_failed (confirms _ rfl reached refuses)]
  | starved reached undecided =>
    rw [reached.decode_eq, decode_more undecided] at decided
    exact absurd rfl decided

end Staged

namespace Chunk

/-- The line of a chunk has a digit. -/
theorem Sized.startsWithDigit (chunk : Sized) : StartsWithDigit chunk.line := by
  obtain ⟨spelling, spelled, size⟩ := sizeLine_eq_done.1 chunk.declares
  rw [List.append_nil] at spelled
  rw [spelled, spelling.startsWithDigit_iff]
  intro missing
  have zero : spelling.size = 0 := by
    rw [spelling.size_eq_zero, missing]
    exact List.forall_mem_nil _
  exact chunk.given (List.length_eq_zero_iff.1 (size.symm.trans zero))

/-- The size lines of a body, the last one included. -/
def Body.lines (body : Body) : List Bytes := body.chunks.map Sized.line ++ [body.last]

/-- All size lines start with a digit if and only if the last one does. -/
theorem Body.startsWithDigit_iff (body : Body) :
    (∀ line ∈ body.lines, StartsWithDigit line) ↔ StartsWithDigit body.last := by
  rw [lines, List.forall_mem_append, List.forall_mem_singleton, List.forall_mem_map]
  exact and_iff_right fun chunk _ => chunk.startsWithDigit

/-- The digits of the last line are zeros. -/
theorem Body.exists_spelling (body : Body) : ∃ spelling : Spelling,
    spelling.bytes = body.last ∧ ∀ byte ∈ spelling.digits, byte = 48 := by
  obtain ⟨spelling, spelled, zero⟩ := sizeLine_eq_done.1 body.ends
  rw [List.append_nil] at spelled
  exact ⟨spelling, spelled.symm, spelling.size_eq_zero.1 zero⟩

/-- A size line that starts with no digit is one of zero. -/
theorem sizeLine_of_spelling {spelling : Spelling} {line : Bytes} (spelled : spelling.bytes = line)
    (digitless : ¬StartsWithDigit line) : sizeLine line = .done 0 [] := by
  subst spelled
  rw [spelling.startsWithDigit_iff, Decidable.not_not] at digitless
  have zero : spelling.size = 0 := by
    rw [spelling.size_eq_zero, digitless]
    exact List.forall_mem_nil _
  exact sizeLine_eq_done.2 ⟨spelling, (List.append_nil _).symm, zero⟩

/-- No line is refused as a trailer. -/
theorem lineFrom_ne_failed (empty : Bool) (bytes : Bytes) (reason : Malformed) :
    lineFrom empty bytes ≠ .failed reason := by
  fun_induction lineFrom empty bytes with
  | case1 => simp
  | case2 => simp
  | case3 empty byte rest goesOn ih => exact ih

end Chunk

namespace Request

/-- Reading a delivery comes to what decoding settles on its bytes, unless the head is refused for
its size: whatever comes after the bytes if they settle it, and else if nothing does. -/
theorem outcome_of_decided {pieces : Source} {bytes : Bytes} (delivers : pieces.Delivers bytes)
    {after : Source} (admitted : RequestHead.DecidedInLimit bytes ∨
      (read (pieces ++ after)).outcome ≠
        .error (.malformed (.headTooLong RequestHead.sizeLimit)))
    (decided : (staged.decode .start bytes).1 ≠ .error .incompleteRequest ∨ after = []) :
    (read (pieces ++ after)).outcome = (staged.decode .start bytes).1 := by
  obtain ⟨full, rfl⟩ := delivers
  have ending := forward_staged.read_ending .start .empty full after
  have confirms : ∀ reason, (read (pieces ++ after)).outcome = .error (.malformed reason) →
      staged.Confirms .start pieces.content reason := by
    intro reason refused
    obtain within | unsized := admitted
    · exact confirms_of_decidedInLimit within reason
    · apply confirms_of_ne_headTooLong
      rintro rfl
      exact unsized refused
  obtain settled | rfl := decided
  · exact ending.outcome_of_decided forward_staged confirms settled
  · exact ending.outcome_eq_decode forward_staged confirms

/-- Chunks are decoded one after the other. -/
theorem decode_chunks (head : RequestHead) (collected : List Bytes) (chunks : List Chunk.Sized)
    (rest : Bytes) :
    staged.decode (.chunkSize head collected) (chunks.flatMap Chunk.Sized.bytes ++ rest) =
      staged.decode (.chunkSize head ((chunks.map Chunk.Sized.data).reverse ++ collected))
        rest := by
  induction chunks generalizing collected with
  | nil => rfl
  | cons chunk chunks ih =>
    rw [List.flatMap_cons, List.append_assoc, decode_chunk, ih, List.map_cons, List.reverse_cons,
      List.append_assoc, List.singleton_append]

/-- Trailers that do not end are waited for. -/
theorem decode_trailers_unended (head : RequestHead) (chunks : List Bytes) {bytes : Bytes}
    (unended : ∀ (trailers : List Chunk.Trailer) (left : Bytes),
      bytes ≠ trailers.flatMap Chunk.Trailer.bytes ++ (Bytes.lineEnd ++ left)) :
    (staged.decode (.trailer head chunks) bytes).1 = .error .incompleteRequest := by
  cases line : Chunk.trailerLine bytes with
  | failed reason => exact absurd line (Chunk.lineFrom_ne_failed true bytes reason)
  | more =>
    have look : (Stage.trailer head chunks).step bytes = .more 0 := by
      rw [Stage.step_trailer, line]
      rfl
    rw [Staged.decode_more look]
  | done empty rest =>
    cases empty with
    | true => exact absurd (Chunk.trailerLine_eq_done_true.1 line) (unended [] rest)
    | false =>
      have look := Stage.step_trailer_eq_next.2 ⟨line, Eq.refl (Stage.trailer head chunks)⟩
      rw [Staged.decode_next look]
      refine decode_trailers_unended head chunks fun trailers left split => ?_
      obtain ⟨trailer, whole⟩ := Chunk.trailerLine_eq_done_false.1 line
      refine unended (trailer :: trailers) left ?_
      rw [whole, split, List.flatMap_cons, List.append_assoc]
termination_by bytes.length
decreasing_by exact Stage.length_lt_of_step_eq_next look

/-- Behind chunks a line that starts with no digit is decoded as a last one, and the trailers come
next. -/
theorem decode_digitless {start text : Bytes} {head : RequestHead}
    (found : RequestHead.parse start = .done head []) (declared : head.framing = .chunked)
    (chunks : List Chunk.Sized) {spelling : Chunk.Spelling}
    (spelled : spelling.bytes = text ++ Bytes.lineEnd)
    (digitless : ¬Chunk.StartsWithDigit (text ++ Bytes.lineEnd)) (rest : Bytes) :
    staged.decode .start
        (start ++ (chunks.flatMap Chunk.Sized.bytes ++ (text ++ (Bytes.lineEnd ++ rest)))) =
      staged.decode (.trailer head (chunks.map Chunk.Sized.data).reverse) rest := by
  have read : Chunk.size (text ++ (Bytes.lineEnd ++ rest)) = .done 0 rest :=
    Chunk.size_eq_done.2 ⟨text ++ Bytes.lineEnd, (List.append_assoc _ _ _).symm,
      Chunk.sizeLine_of_spelling spelled digitless, Nat.zero_le _⟩
  rw [decode_chunked found declared, decode_chunks, List.append_nil,
    Staged.decode_next (Stage.step_chunkSize_eq_next.2 ⟨0, read, .inl ⟨rfl, rfl⟩⟩)]

/-- A size that is refused is refused by the stage that looks for it. -/
theorem Stage.step_chunkSize_of_failed {bytes : Bytes} {reason : Malformed}
    (refused : Chunk.size bytes = .failed reason) (head : RequestHead) (chunks : List Bytes) :
    (Stage.chunkSize head chunks).step bytes = .failed reason := by
  rw [step_chunkSize, refused]
  rfl

/-- Behind chunks a size that is refused ends decoding. -/
theorem decode_refused {start behind : Bytes} {head : RequestHead}
    (found : RequestHead.parse start = .done head []) (declared : head.framing = .chunked)
    (chunks : List Chunk.Sized) {reason : Malformed}
    (refused : Chunk.size behind = .failed reason) :
    (staged.decode .start (start ++ (chunks.flatMap Chunk.Sized.bytes ++ behind))).1 =
      .error (.malformed reason) := by
  have look := Stage.step_chunkSize_of_failed refused head (chunks.map Chunk.Sized.data).reverse
  rw [decode_chunked found declared, decode_chunks, List.append_nil, Staged.decode_failed look]

/-- Behind chunks a line that starts with no digit, and is no size line, is refused. -/
theorem decode_unspelled {start text : Bytes} {head : RequestHead}
    (found : RequestHead.parse start = .done head []) (declared : head.framing = .chunked)
    (chunks : List Chunk.Sized) (single : ¬Bytes.lineEnd <:+: text)
    (digitless : ¬Chunk.StartsWithDigit (text ++ Bytes.lineEnd))
    (unspelled : ∀ spelling : Chunk.Spelling, spelling.bytes ≠ text ++ Bytes.lineEnd)
    (rest : Bytes) :
    (staged.decode .start
        (start ++ (chunks.flatMap Chunk.Sized.bytes ++ (text ++ (Bytes.lineEnd ++ rest))))).1 =
      .error (.malformed .chunkSize) := by
  have refused : Chunk.size (text ++ (Bytes.lineEnd ++ rest)) = .failed .chunkSize :=
    Parser.bind_of_failed (Chunk.sizeLine_of_no_digit single digitless unspelled rest)
  exact decode_refused found declared chunks refused

/-- In a chunked body that is read the digits of the last size line are zeros, and every size line
starts with a digit if and only if the last one has some; the others always do. Behind chunks a line
that starts with no digit is refused, whatever comes after it, if it is no size line. It ends the
body if it is one all the same, that is blanks and perhaps an extension: the request is read if the
trailers end, and waits for them if not. -/
theorem size_lines_exact (source : Source) :
    (∀ request : Request, (read source).outcome = .ok request →
      request.head.framing = .chunked →
      ∃ (start rest : Bytes) (body : Chunk.Body) (last : Chunk.Spelling),
        RequestHead.parse start = .done request.head [] ∧
        source.content = start ++ (body.bytes ++ rest) ∧ request.body = some body.data ∧
        (∀ chunk ∈ body.chunks, Chunk.StartsWithDigit chunk.line) ∧
        last.bytes = body.last ∧ (∀ byte ∈ last.digits, byte = 48) ∧
        ((∀ line ∈ body.lines, Chunk.StartsWithDigit line) ↔ last.digits ≠ [])) ∧
    ∀ (start text rest : Bytes) (head : RequestHead) (chunks : List Chunk.Sized)
      (pieces after : Source), source = pieces ++ after →
      RequestHead.parse start = .done head [] → head.framing = .chunked →
      ¬Bytes.lineEnd <:+: text → ¬Chunk.StartsWithDigit (text ++ Bytes.lineEnd) →
      pieces.Delivers
        (start ++ (chunks.flatMap Chunk.Sized.bytes ++ (text ++ (Bytes.lineEnd ++ rest)))) →
      (start.length ≤ RequestHead.sizeLimit ∨ (read source).outcome ≠
        .error (.malformed (.headTooLong RequestHead.sizeLimit))) →
      ((∀ spelling : Chunk.Spelling, spelling.bytes ≠ text ++ Bytes.lineEnd) →
        (read source).outcome = .error (.malformed .chunkSize)) ∧
      ∀ spelling : Chunk.Spelling, spelling.bytes = text ++ Bytes.lineEnd →
        (∀ (trailers : List Chunk.Trailer) (left : Bytes),
          rest = trailers.flatMap Chunk.Trailer.bytes ++ (Bytes.lineEnd ++ left) →
          (read source).outcome = .ok ⟨head, some (chunks.flatMap Chunk.Sized.data)⟩) ∧
        ((∀ (trailers : List Chunk.Trailer) (left : Bytes),
          rest ≠ trailers.flatMap Chunk.Trailer.bytes ++ (Bytes.lineEnd ++ left)) → after = [] →
          (read source).outcome = .error .incompleteRequest) := by
  refine ⟨?_, ?_⟩
  · intro request accepted chunked
    cases atFront_of_read accepted with
    | bodiless found declared whole => simp [declared] at chunked
    | sized found declared whole => simp [declared] at chunked
    | chunked body found declared whole =>
      obtain ⟨last, spelled, zeros⟩ := body.exists_spelling
      refine ⟨_, _, body, last, found, whole, rfl, fun chunk _ => chunk.startsWithDigit, spelled,
        zeros, ?_⟩
      rw [body.startsWithDigit_iff, ← spelled, last.startsWithDigit_iff]
  · rintro start text rest head chunks pieces after rfl found declared single digitless delivers
      admitted
    -- Decoding the whole delivery comes to the line in all three cases, and reading follows it.
    have within := admitted.imp_left fun short =>
      RequestHead.decidedInLimit_append found short
        (chunks.flatMap Chunk.Sized.bytes ++ (text ++ (Bytes.lineEnd ++ rest)))
    refine ⟨fun unspelled => ?_, fun spelling spelled => ⟨?_, ?_⟩⟩
    · have refused := decode_unspelled found declared chunks single digitless unspelled rest
      rw [outcome_of_decided delivers within (.inl (by simp [refused])), refused]
    · rintro trailers left rfl
      have decoded := decode_digitless found declared chunks spelled digitless
        (trailers.flatMap Chunk.Trailer.bytes ++ (Bytes.lineEnd ++ left))
      rw [decode_trailers, ofChunks, List.reverse_reverse, ← List.flatMap_def] at decoded
      rw [outcome_of_decided delivers within (.inl (by simp [decoded])), decoded]
    · intro unended nothing
      rw [outcome_of_decided delivers within (.inr nothing),
        decode_digitless found declared chunks spelled digitless]
      exact decode_trailers_unended _ _ unended

/-- What the head of an upload says. -/
def uploadLines : RequestHead where
  method := .ofString "POST"
  target := "/"
  version := 1
  headers := [⟨.ofString "Transfer-Encoding", .ofString "chunked"⟩]
  framing := .chunked

/-- The head of an upload is read so. -/
theorem parse_uploadHead : RequestHead.parse uploadHead = .done uploadLines [] := by decide +kernel

/-- A chunk of three bytes. -/
def threeBytes : Chunk.Sized where
  line := .ofString "3\r\n"
  data := .ofString "abc"
  declares := by decide +kernel
  given := by decide +kernel
  fits := by decide +kernel

/-- A chunk, an extension alone where a size must stand, and the end of the trailers. -/
def extensionUpload : Bytes := uploadHead ++ (threeBytes.bytes ++ .ofString ";x\r\n\r\nmore")

/-- Behind a chunk an extension alone ends the body, and behind the head an empty line does; what is
neither of blanks nor an extension is refused there. -/
theorem size_lines_without_digits :
    (read [.data extensionUpload, .fault .silent]).outcome =
        .ok ⟨uploadLines, some (.ofString "abc")⟩ ∧
      (∃ body : Chunk.Body, body.data = .ofString "abc" ∧
        ∀ chunk ∈ body.chunks, Chunk.StartsWithDigit chunk.line) ∧
      (read [.data (uploadHead ++ .ofString "\r\na")]).outcome = .error .incompleteRequest ∧
      (read [.data (uploadHead ++ .ofString " x\r\n\r\n")]).outcome =
        .error (.malformed .chunkSize) := by
  have short : uploadHead.length ≤ RequestHead.sizeLimit := by decide +kernel
  obtain ⟨consumed, digitless⟩ := size_lines_exact [.data extensionUpload, .fault .silent]
  obtain ⟨-, extended⟩ := digitless uploadHead (.ofString ";x") (.ofString "\r\nmore") uploadLines
    [threeBytes] [.data extensionUpload] [.fault .silent] rfl parse_uploadHead rfl
    (by decide +kernel) (by decide +kernel) (Source.delivers_whole (by decide +kernel)) (.inl short)
  have accepted := (extended ⟨[], [], some (.ofString "x"), nofun, by decide, nofun,
    by decide +kernel⟩ (by decide +kernel)).1 [] (.ofString "more") (by decide +kernel)
  obtain ⟨start, rest, body, last, -, -, sent, lines, -⟩ := consumed _ accepted rfl
  obtain ⟨-, empty⟩ := (size_lines_exact [.data (uploadHead ++ .ofString "\r\na")]).2
    uploadHead [] (.ofString "a") uploadLines [] _ [] (List.append_nil _).symm parse_uploadHead rfl
    (by decide +kernel) (by decide +kernel) (Source.delivers_whole (by decide +kernel)) (.inl short)
  obtain ⟨-, waiting⟩ := empty ⟨[], [], none, nofun, by decide, nofun, nofun⟩ rfl
  obtain ⟨refused, -⟩ := (size_lines_exact [.data (uploadHead ++ .ofString " x\r\n\r\n")]).2
    uploadHead (.ofString " x") (.ofString "\r\n") uploadLines [] _ [] (List.append_nil _).symm
    parse_uploadHead rfl (by decide +kernel) (by decide +kernel)
    (Source.delivers_whole (by decide +kernel)) (.inl short)
  refine ⟨accepted, ⟨body, (Option.some.inj sent).symm, lines⟩, waiting ?_ rfl, refused ?_⟩
  · intro trailers left same
    have member : 13 ∈ Bytes.ofString "a" := by
      rw [same]
      simp [Bytes.lineEnd]
    exact absurd member (by decide)
  · intro spelling spelled
    have read := spelling.reads_sizeLine.alone
    have silent : Chunk.sizeLine (.ofString " x" ++ Bytes.lineEnd) = .failed .chunkSize := by
      decide +kernel
    rw [spelled, silent] at read
    contradiction

/-- An upload in which the size of the second chunk is missing. -/
def brokenUpload : Chunk.Body where
  chunks := [threeBytes]
  last := Bytes.lineEnd
  ends := by decide +kernel
  trailers :=
    [⟨.ofString "4", by decide +kernel, by decide +kernel⟩,
      ⟨.ofString "data", by decide +kernel, by decide +kernel⟩,
      ⟨.ofString "0", by decide +kernel, by decide +kernel⟩]

/-- The rest of a body is lost behind a line without a digit, and the request is read. -/
theorem digitless_line_ends_body :
    brokenUpload.bytes = .ofString "3\r\nabc\r\n\r\n4\r\ndata\r\n0\r\n\r\n" ∧
      ¬Chunk.StartsWithDigit brokenUpload.last ∧ uploadLines.framing = .chunked ∧
      (read [.data (uploadHead ++ brokenUpload.bytes)]).outcome =
        .ok ⟨uploadLines, some (.ofString "abc")⟩ := by
  have short : uploadHead.length ≤ RequestHead.sizeLimit := by decide +kernel
  have delivers : Source.Delivers [.data (uploadHead ++ brokenUpload.bytes)]
      (uploadHead ++ (brokenUpload.bytes ++ [])) := by
    rw [List.append_nil]
    exact Source.delivers_whole (by decide +kernel)
  obtain ⟨accepted, -⟩ := read_of_body parse_uploadHead rfl brokenUpload delivers (.inl short)
  refine ⟨by decide +kernel, by decide +kernel, rfl, ?_⟩
  rw [accepted]
  rfl

end Request
end TunnelBench
