import TunnelBench.Proofs.Handler.Standard
import TunnelBench.Proofs.Request.ChunkedBody
import TunnelBench.Proofs.Stream.Stopping

/-!
# What the echo of bodies sends

The echo of bodies answers with the body of the request, and with nothing else of it. On a
sink that takes everything it succeeds if and only if there is a request to read, and sends
the whole answer and hands it on. Where there is none it fails as reading fails, and the
sink is as it was.
-/
namespace TunnelBench

namespace Sink

/-- The sink behind some bytes that it took and handed on. -/
def handing (bytes : Bytes) (sink : Sink) : Sink :=
  { sink with written := sink.written ++ bytes, flushed := true }

/-- What is written and handed on is all there and handed on. -/
theorem TakesAll.send_flush {sink : Sink} (takes : sink.TakesAll) (bytes : Bytes) :
    ∃ later : Sink, sink.writeAll .nothingWritten bytes = (.ok (), later) ∧
      later.flush = (.ok (), sink.handing bytes) := by
  refine ⟨_, takes.writeAll .nothingWritten bytes, ?_⟩
  simp only [flush, takes.flushes, handing]

end Sink

namespace Request

/-- A request stands at the front of some bytes. -/
inductive AtFront (bytes : Bytes) : Request → Prop
  /-- A head that declares no body is all of its request. -/
  | bodiless {start rest : Bytes} {head : RequestHead}
      (found : RequestHead.parse start = .done head []) (declared : head.framing = .none)
      (whole : bytes = start ++ rest) : AtFront bytes ⟨head, none⟩
  /-- As many bytes as the head declares are the body. -/
  | sized {start body rest : Bytes} {head : RequestHead}
      (found : RequestHead.parse start = .done head [])
      (declared : head.framing = .length body.length)
      (whole : bytes = start ++ (body ++ rest)) : AtFront bytes ⟨head, some body⟩
  /-- The data of the chunks are the body. -/
  | chunked {start rest : Bytes} {head : RequestHead} (body : Chunk.Body)
      (found : RequestHead.parse start = .done head []) (declared : head.framing = .chunked)
      (whole : bytes = start ++ (body.bytes ++ rest)) : AtFront bytes ⟨head, some body.data⟩

/-- A request has a body if and only if its head declares one. -/
theorem AtFront.body_eq_none_iff {bytes : Bytes} {request : Request}
    (front : request.AtFront bytes) : request.body = none ↔ request.head.framing = .none := by
  cases front with
  | bodiless found declared whole => simp [declared]
  | sized found declared whole => simp [declared]
  | chunked body found declared whole => simp [declared]

/-- Declared bytes that are decoded are there. -/
theorem sized_of_decode {head : RequestHead} {length : Nat} {bytes rest : Bytes} {request : Request}
    (decoded : staged.decode (.sized head length) bytes = (.ok request, rest)) :
    ∃ body : Bytes, body.length = length ∧ bytes = body ++ rest ∧ request = ⟨head, some body⟩ := by
  have look := Staged.decode_eq_ok.1 decoded
  simp only [staged, Stage.step_sized, Progress.settle_eq_finish, Progress.settle_eq_next] at look
  obtain ⟨body, left, parsed, finished⟩ | ⟨_, _, ⟨_, _, _, handed⟩, _⟩ := look
  · obtain ⟨split, length⟩ := Parser.block_eq_done.1 parsed
    cases finished
    exact ⟨body, length, split, rfl⟩
  · contradiction

/-- A request that is decoded stands at the front. -/
theorem atFront_of_decode {bytes rest : Bytes} {request : Request}
    (decoded : staged.decode .start bytes = (.ok request, rest)) : request.AtFront bytes := by
  have step : staged.step .start bytes = (RequestHead.parse bytes).settle 0 Stage.behind :=
    Stage.step_start bytes
  cases parsed : RequestHead.parse bytes with
  | failed reason =>
    rw [parsed] at step
    simp [Staged.decode_failed step] at decoded
  | more =>
    rw [parsed] at step
    simp [Staged.decode_more step] at decoded
  | done head behind =>
    obtain ⟨start, split, stands⟩ := RequestHead.exact_parse parsed
    have found := stands []
    rw [List.append_nil] at found
    rw [parsed, Progress.settle, Stage.behind] at step
    cases framing : head.framing with
    | none =>
      rw [framing] at step
      rw [Staged.decode_finish step] at decoded
      cases decoded
      exact .bodiless found framing split
    | length length =>
      rw [framing] at step
      rw [Staged.decode_next step] at decoded
      obtain ⟨body, rfl, rfl, rfl⟩ := sized_of_decode decoded
      exact .sized found framing split
    | chunked =>
      rw [framing] at step
      rw [Staged.decode_next step] at decoded
      obtain ⟨body, rfl, rfl⟩ := body_of_decode decoded
      exact .chunked body found framing split

/-- A request that is read stands at the front of the bytes of its source. -/
theorem atFront_of_read {source : Source} {request : Request}
    (accepted : (read source).outcome = .ok request) : request.AtFront source.content := by
  obtain ⟨rest, decoded⟩ := forward_staged.decode_of_read accepted
  exact atFront_of_decode decoded

end Request

namespace Handler

/-- The echo of bodies sends the answer for the body, and hands it on. -/
theorem echoed_takesAll {sink : Sink} (takes : sink.TakesAll) (request : Request) :
    echoed (.ok request) sink = (.ok (), sink.handing (echoOf request.body)) := by
  obtain ⟨later, wrote, flushed⟩ := takes.send_flush (echoOf request.body)
  simp only [echoed, Except.bind, render_echoResponse, wrote, flushed]

/-- A request that is read is answered, and the answer is handed on. -/
theorem run_httpEcho_of_ok (descriptor : Descriptor) {exchange : Exchange}
    (takes : exchange.sink.TakesAll) {request : Request}
    (accepted : (Request.read exchange.source).outcome = .ok request) :
    Transfer.run (httpEcho.proxy descriptor) exchange = (.ok (),
      { exchange with
        source := (Request.read exchange.source).source
        sink := exchange.sink.handing (echoOf request.body) }) := by
  rw [proxy, run_answerHttp, accepted, echoed_takesAll takes]

/-- Where no request is read nothing is sent or handed on. -/
theorem run_httpEcho_of_error (descriptor : Descriptor) {exchange : Exchange} {failure : Failure}
    (refused : (Request.read exchange.source).outcome = .error failure) :
    Transfer.run (httpEcho.proxy descriptor) exchange = (.error failure,
      { exchange with source := (Request.read exchange.source).source }) := by
  rw [proxy, run_answerHttp, refused, echoed_error]

/-- The echo of bodies succeeds if and only if a request is read. It sends the answer for the body
of that request, which is the one its head declares, and hands it on. Otherwise it fails as reading
fails, by a refusal of the bytes or for what ends them, and the sink is as it was. No part of the
request but its body has an effect on what is sent, and neither has the descriptor. -/
theorem echo_of_body (descriptor : Descriptor) (exchange : Exchange)
    (takes : exchange.sink.TakesAll) :
    ((Transfer.run (httpEcho.proxy descriptor) exchange).1 = .ok () ↔
      ∃ request, (Request.read exchange.source).outcome = .ok request) ∧
    (∀ request, (Request.read exchange.source).outcome = .ok request →
      request.AtFront exchange.source.content ∧
      (request.body = none ↔ request.head.framing = .none) ∧
      Transfer.run (httpEcho.proxy descriptor) exchange = (.ok (),
        { exchange with
          source := (Request.read exchange.source).source
          sink := exchange.sink.handing (echoOf request.body) })) ∧
    (∀ failure, (Request.read exchange.source).outcome = .error failure →
      exchange.source.Explains failure ∧
      Transfer.run (httpEcho.proxy descriptor) exchange = (.error failure,
        { exchange with source := (Request.read exchange.source).source })) ∧
    ∀ (other : Descriptor) (another : Exchange) (request similar : Request),
      another.sink = exchange.sink →
      (Request.read exchange.source).outcome = .ok request →
      (Request.read another.source).outcome = .ok similar → similar.body = request.body →
      (Transfer.run (httpEcho.proxy other) another).2.sink =
        (Transfer.run (httpEcho.proxy descriptor) exchange).2.sink := by
  refine ⟨?_, ?_, ?_, ?_⟩
  · cases outcome : (Request.read exchange.source).outcome with
    | ok request =>
      rw [run_httpEcho_of_ok descriptor takes outcome]
      exact ⟨fun _ => ⟨request, rfl⟩, fun _ => rfl⟩
    | error failure =>
      rw [run_httpEcho_of_error descriptor outcome]
      simp
  · intro request accepted
    have front := Request.atFront_of_read accepted
    exact ⟨front, front.body_eq_none_iff, run_httpEcho_of_ok descriptor takes accepted⟩
  · intro failure refused
    exact ⟨Staged.explains_of_error refused, run_httpEcho_of_error descriptor refused⟩
  · intro other another request similar sameSink accepted alsoAccepted sameBody
    have takesToo : another.sink.TakesAll := by
      rw [sameSink]
      exact takes
    rw [run_httpEcho_of_ok descriptor takes accepted,
      run_httpEcho_of_ok other takesToo alsoAccepted, sameSink, sameBody]

/-- A sink that takes three bytes at a time. -/
def narrowSink : Sink := { perWrite := some 3 }

/-- A chunked body that looks like a line end and a last size line is sent back three bytes at a
time, and nothing is sent where the first read fails. -/
theorem echo_of_lookalikeBody :
    narrowSink.TakesAll ∧
      (Transfer.run (httpEcho.proxy (.http "/elsewhere"))
        ⟨[.data (Request.uploadHead ++ Request.lookalikeBody.bytes)], narrowSink, []⟩).1 = .ok () ∧
      (Transfer.run (httpEcho.proxy (.http "/elsewhere"))
        ⟨[.data (Request.uploadHead ++ Request.lookalikeBody.bytes)], narrowSink, []⟩).2.sink =
          narrowSink.handing
            (.ofString "HTTP/1.0 200 OK\r\nContent-Length: 5\r\n\r\n\r\n0\r\n") ∧
      Transfer.run (httpEcho.proxy .raw)
        ⟨[.fault (.broken "connection reset"), .data Request.uploadHead], narrowSink, []⟩ =
          (.error (.io (.stream (.broken "connection reset"))),
            ⟨[.data Request.uploadHead], narrowSink, []⟩) := by
  have takes : narrowSink.TakesAll := ⟨rfl, by decide, rfl⟩
  have found : RequestHead.parse Request.uploadHead = .done
      { method := .ofString "POST"
        target := "/"
        version := 1
        headers := [⟨.ofString "Transfer-Encoding", .ofString "chunked"⟩]
        framing := .chunked } [] := by decide +kernel
  have short : Request.uploadHead.length ≤ RequestHead.sizeLimit := by decide +kernel
  have delivers : Source.Delivers [.data (Request.uploadHead ++ Request.lookalikeBody.bytes)]
      (Request.uploadHead ++ (Request.lookalikeBody.bytes ++ [])) := by
    rw [List.append_nil]
    exact Source.delivers_whole (by decide +kernel)
  obtain ⟨accepted, -⟩ :=
    Request.read_of_body found rfl Request.lookalikeBody delivers (.inl short)
  have answer : echoOf (some Request.lookalikeBody.data) =
      .ofString "HTTP/1.0 200 OK\r\nContent-Length: 5\r\n\r\n\r\n0\r\n" := by decide +kernel
  have asks : Request.staged.step .start Buffer.empty.bytes = .more 0 := rfl
  have cut : Request.read [.fault (.broken "connection reset"), .data Request.uploadHead] =
      ⟨.error (.io (.stream (.broken "connection reset"))), [], [.data Request.uploadHead]⟩ :=
    Staged.read_fault asks rfl
  have answers := (echo_of_body (.http "/elsewhere")
    ⟨[.data (Request.uploadHead ++ Request.lookalikeBody.bytes)], narrowSink, []⟩ takes).2.1
  have fails := (echo_of_body .raw
    ⟨[.fault (.broken "connection reset"), .data Request.uploadHead], narrowSink, []⟩ takes).2.2.1
  obtain ⟨-, -, answered⟩ := answers _ accepted
  obtain ⟨-, failed⟩ := fails _ (congrArg Reading.outcome cut)
  refine ⟨takes, ?_, ?_, ?_⟩
  · rw [answered]
  · rw [answered]
    dsimp only
    rw [answer]
  · rw [failed]
    dsimp only
    rw [cut]

end Handler
end TunnelBench
