import TunnelBench.Handler.Basic

/-!
# How transfers run

A transfer is run part by part. Each part has its own effect on the two streams and the
log, and the first part that fails ends the run. A sink that does not fall silent never
makes a transfer wait.
-/
namespace TunnelBench

namespace Transfer

variable {α β : Type}

/-- Two parts run one after the other, the second if the first succeeds. -/
theorem run_bind (first : Transfer α) (next : α → Transfer β) (exchange : Exchange) :
    run (first >>= next) exchange = match run first exchange with
      | (.ok value, later) => run (next value) later
      | (.error failure, later) => (.error failure, later) := by
  change (match run first exchange with
    | (outcome, later) => ExceptT.bindCont next outcome later) = _
  obtain ⟨outcome, later⟩ := run first exchange
  cases outcome with
  | ok value => rfl
  | error failure => rfl

/-- A result that is at hand has no effect. -/
theorem run_liftExcept (outcome : Except Failure α) (exchange : Exchange) :
    run (liftExcept outcome) exchange = (outcome, exchange) := by
  cases outcome with
  | ok value => rfl
  | error failure => rfl

/-- Receiving has an effect on the source only. -/
theorem run_receive (reader : Source → Reading α) (exchange : Exchange) :
    run (receive reader) exchange = ((reader exchange.source).outcome,
      { exchange with source := (reader exchange.source).source }) := rfl

/-- Sending has an effect on the sink only. -/
theorem run_send (bytes : Bytes) (exchange : Exchange) :
    run (send bytes) exchange = ((exchange.sink.writeAll .nothingWritten bytes).1,
      { exchange with sink := (exchange.sink.writeAll .nothingWritten bytes).2 }) := rfl

/-- Handing on has an effect on the sink only. -/
theorem run_flush (exchange : Exchange) :
    run flush exchange = (exchange.sink.flush.1, { exchange with sink := exchange.sink.flush.2 }) :=
  rfl

end Transfer

namespace Sink

/-- A sink whose writes and flushes never wait for good. -/
def Responsive (sink : Sink) : Prop :=
  sink.limitFault ≠ some .silent ∧ sink.flushFault ≠ some .silent

/-- A write leaves a sink as responsive as it was. -/
theorem Responsive.write {sink : Sink} (responsive : sink.Responsive) (bytes : Bytes) :
    (sink.write bytes).1 ≠ .error .silent ∧ (sink.write bytes).2.Responsive := by
  unfold Sink.write
  split
  · rename_i fault _ faulty
    refine ⟨?_, responsive⟩
    rintro same
    cases same
    exact responsive.1 faulty
  · split
    · exact ⟨by simp, responsive⟩
    · exact ⟨by simp, responsive⟩

/-- Writing a whole message does not wait for good, and leaves the sink responsive. -/
theorem Responsive.writeAll {sink : Sink} (responsive : sink.Responsive) {nothing : IoError}
    (speaks : nothing ≠ .stream .silent) (bytes : Bytes) :
    (sink.writeAll nothing bytes).1 ≠ .error (.io (.stream .silent)) ∧
      (sink.writeAll nothing bytes).2.Responsive := by
  fun_induction Sink.writeAll nothing bytes sink with
  | case1 sink => exact ⟨by simp, responsive⟩
  | case2 sink first later fault after result =>
    have written := responsive.write (first :: later)
    rw [result] at written
    refine ⟨?_, written.2⟩
    intro same
    cases same
    exact written.1 rfl
  | case3 sink first later after result =>
    have written := responsive.write (first :: later)
    rw [result] at written
    refine ⟨?_, written.2⟩
    intro same
    cases same
    exact speaks rfl
  | case4 sink first later byte taken after result ih =>
    have written := responsive.write (first :: later)
    rw [result] at written
    exact ih written.2

/-- Handing on does not wait for good. -/
theorem Responsive.flush {sink : Sink} (responsive : sink.Responsive) :
    sink.flush.1 ≠ .error (.io (.stream .silent)) := by
  unfold Sink.flush
  split
  · rename_i fault faulty
    intro same
    cases same
    exact responsive.2 faulty
  · simp

end Sink

namespace Handler

/-- What the echo of bodies does to its sink after it has read a request or failed to. -/
def echoed (outcome : Except Failure Request) (sink : Sink) : Except Failure Unit × Sink :=
  match outcome.bind fun request => (echoResponse request).render with
  | .error failure => (.error failure, sink)
  | .ok response =>
    match sink.writeAll .nothingWritten response with
    | (.error failure, sink) => (.error failure, sink)
    | (.ok (), sink) => sink.flush

/-- The echo of bodies reads a request, and all else depends on that request alone. -/
theorem run_answerHttp (exchange : Exchange) :
    Transfer.run answerHttp exchange =
      ((echoed (Request.read exchange.source).outcome exchange.sink).1,
        { exchange with
          source := (Request.read exchange.source).source
          sink := (echoed (Request.read exchange.source).outcome exchange.sink).2 }) := by
  unfold answerHttp
  rw [Transfer.run_bind, Transfer.run_receive]
  cases (Request.read exchange.source).outcome with
  | error failure => rfl
  | ok request =>
    simp only [Transfer.run_bind, Transfer.run_liftExcept, Transfer.run_send, Transfer.run_flush,
      echoed, Except.bind]
    cases (echoResponse request).render with
    | error failure => rfl
    | ok response =>
      dsimp only
      cases exchange.sink.writeAll .nothingWritten response with
      | mk outcome sink =>
        cases outcome with
        | error failure => rfl
        | ok done => rfl

/-- The answer that echoes a body, or that there is none. -/
def echoOf : Option Bytes → Bytes
  | none => .ofString "HTTP/1.0 200 OK\r\n\r\n"
  | some body =>
    .ofString "HTTP/1.0 200 OK\r\nContent-Length: " ++ Bytes.ofNat body.length ++
      .ofString "\r\n\r\n" ++ body

/-- A successful answer with a declared length is written so. -/
theorem bytes_ok_declared (body : Bytes) (declared : Nat) :
    (Response.Written.mk .http10 .ok "OK" (some declared) [] body).bytes =
      .ofString "HTTP/1.0 200 OK\r\nContent-Length: " ++ Bytes.ofNat declared ++
        .ofString "\r\n\r\n" ++ body := by
  have front : Response.line (Bytes.ofString "HTTP/1.0" ++ [32] ++ Bytes.ofNat 200 ++ [32] ++
      Bytes.ofString "OK") ++ (Bytes.ofString "Content-Length" ++ Bytes.ofString ": ") =
        Bytes.ofString "HTTP/1.0 200 OK\r\nContent-Length: " := by decide +kernel
  have back : Bytes.lineEnd ++ Bytes.lineEnd = Bytes.ofString "\r\n\r\n" := by decide +kernel
  rw [← front, ← back]
  simp only [Response.Written.bytes, Response.Written.statusLine, Response.Written.headerLines,
    Response.headerLine, Response.line, List.flatMap_nil, List.append_nil, List.append_assoc]
  rfl

/-- The response that echoes a request is written so. -/
theorem render_echoResponse (request : Request) :
    (echoResponse request).render = .ok (echoOf request.body) := by
  cases body : request.body with
  | none =>
    have settled : Response.ok.settle = .ok ⟨.http10, .ok, "OK", none, [], []⟩ := rfl
    have written : (Response.Written.mk .http10 .ok "OK" none [] []).bytes = echoOf none := by
      decide +kernel
    rw [echoResponse, body, ← written]
    exact Response.render_of_settle settled
  | some data =>
    have settled : (Response.ok.withBody data).settle =
        .ok ⟨.http10, .ok, "OK", some data.length, [], data⟩ := by
      have declared : (some data.length <|> (Body.fixed data).impliedLength data) =
          some data.length := rfl
      unfold Response.settle Response.measured
      simp only [Response.withBody, Body.content, bind, Except.bind, declared, ↓reduceIte]
      rfl
    rw [echoResponse, body, echoOf, ← bytes_ok_declared]
    exact Response.render_of_settle settled

/-- The echo of bodies does not wait for good where reading did not. -/
theorem echoed_ne_silent {outcome : Except Failure Request}
    (spoken : outcome ≠ .error (.io (.stream .silent))) {sink : Sink}
    (responsive : sink.Responsive) :
    (echoed outcome sink).1 ≠ .error (.io (.stream .silent)) := by
  cases outcome with
  | error failure => exact fun same => spoken (by cases same; rfl)
  | ok request =>
    have sent := responsive.writeAll (show IoError.nothingWritten ≠ _ by simp)
      (echoOf request.body)
    simp only [echoed, Except.bind, render_echoResponse]
    cases written : sink.writeAll .nothingWritten (echoOf request.body) with
    | mk outcome sink =>
      rw [written] at sent
      cases outcome with
      | error failure => exact sent.1
      | ok done => exact sent.2.flush

end Handler
end TunnelBench
