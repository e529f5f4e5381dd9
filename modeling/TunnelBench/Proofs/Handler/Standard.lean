import TunnelBench.Proofs.Handler.Runs
import TunnelBench.Proofs.Request.Stages
import TunnelBench.Proofs.Stream.Continuing
import TunnelBench.Proofs.Stream.Filling

/-!
# The handlers of the library

The handlers of the library are the two echoes, the ones that serve a library, and the
dispatchers of such handlers. A dispatcher does for each request what one of its handlers
does. What a client has sent so far either settles all that one of them does, or leaves it
waiting for more, with nothing logged and nothing sent that it would take back.
-/
namespace TunnelBench

namespace Sink

/-- A sink that takes all that is written to it, in as many writes as it likes. -/
structure TakesAll (sink : Sink) : Prop where
  unlimited : sink.limit = none
  progresses : sink.perWrite ≠ some 0
  flushes : sink.flushFault = none

/-- A sink that takes everything is patient. -/
theorem TakesAll.patient {sink : Sink} (takes : sink.TakesAll) : sink.Patient :=
  ⟨takes.progresses, takes.flushes⟩

/-- A sink that takes everything has room for all bytes. -/
theorem TakesAll.fits {sink : Sink} (takes : sink.TakesAll) (bytes : Bytes) : sink.Fits bytes := by
  simp only [Fits, withinLimit, takes.unlimited]

/-- Writing a whole message leaves it behind what was written before. -/
theorem TakesAll.writeAll {sink : Sink} (takes : sink.TakesAll) (nothing : IoError)
    (bytes : Bytes) : sink.writeAll nothing bytes = (.ok (),
      { sink with
        written := sink.written ++ bytes
        flushed := sink.flushed && bytes.isEmpty }) := by
  obtain ⟨taken, sent, -⟩ := takes.patient.writeAll nothing bytes
  have all : sink.withinLimit bytes = bytes := takes.fits bytes
  rw [all] at taken
  exact Prod.ext (sent (takes.fits bytes)) taken

/-- A sink that takes all that is written to it at once. -/
structure Accepting (sink : Sink) : Prop where
  unlimited : sink.limit = none
  wide : sink.perWrite = none
  flushes : sink.flushFault = none

/-- A sink without limits is accepting. -/
theorem accepting_empty : Accepting {} := ⟨rfl, rfl, rfl⟩

/-- A sink that takes everything at once takes everything. -/
theorem Accepting.takesAll {sink : Sink} (accepting : sink.Accepting) : sink.TakesAll := by
  have progresses : sink.perWrite ≠ some 0 := by
    rw [accepting.wide]
    simp
  exact ⟨accepting.unlimited, progresses, accepting.flushes⟩

/-- An accepting sink takes a whole message and stays accepting. -/
theorem Accepting.writeAll {sink : Sink} (accepting : sink.Accepting) (nothing : IoError)
    (bytes : Bytes) :
    ∃ later : Sink, sink.writeAll nothing bytes = (.ok (), later) ∧ later.Accepting ∧
      later.written.toList = sink.written.toList ++ bytes := by
  refine ⟨_, accepting.takesAll.writeAll nothing bytes,
    ⟨accepting.unlimited, accepting.wide, accepting.flushes⟩, ?_⟩
  exact Array.toList_appendList

/-- An accepting sink hands on what it took. -/
theorem Accepting.flush {sink : Sink} (accepting : sink.Accepting) :
    sink.flush = (.ok (), { sink with flushed := true }) := by
  simp only [Sink.flush, accepting.flushes]

/-- Handing on leaves a sink accepting. -/
theorem Accepting.flushed {sink : Sink} (accepting : sink.Accepting) :
    Accepting { sink with flushed := true } :=
  ⟨accepting.unlimited, accepting.wide, accepting.flushes⟩

/-- Nothing that was written is taken back. -/
theorem written_writeAll (sink : Sink) (nothing : IoError) (bytes : Bytes) :
    sink.written.toList <+: (sink.writeAll nothing bytes).2.written.toList := by
  fun_induction Sink.writeAll nothing bytes sink with
  | case1 sink => exact List.prefix_rfl
  | case2 sink first later fault after result =>
    unfold write at result
    split at result
    · cases result
      exact List.prefix_rfl
    · split at result <;> cases result
  | case3 sink first later after result =>
    unfold write at result
    split at result
    · cases result
    · split at result
      · cases result
        exact List.prefix_rfl
      · cases result
  | case4 sink first later byte taken after result ih =>
    refine List.IsPrefix.trans ?_ ih
    unfold write at result
    split at result
    · cases result
    · split at result
      · cases result
      · cases result
        simp

/-- Handing on takes and gives nothing. -/
theorem written_flush (sink : Sink) : sink.flush.2.written = sink.written := by
  unfold flush
  split <;> rfl

end Sink

namespace Transfer

/-- Copying has an effect on the two streams only. -/
theorem run_copy (exchange : Exchange) :
    run copy exchange = ((copyBlocks exchange.source exchange.sink).1,
      { exchange with
        source := (copyBlocks exchange.source exchange.sink).2.1
        sink := (copyBlocks exchange.source exchange.sink).2.2 }) := rfl

/-- Logging has an effect on the log only. -/
theorem run_log (event : Event) (exchange : Exchange) :
    run (log event) exchange = (.ok (), { exchange with events := exchange.events ++ [event] }) :=
  rfl

/-- What a transfer makes of some pieces, for all that can come after them. -/
inductive Foresees (transfer : Transfer Unit) (pieces : Source) : Prop
  /-- The transfer ends, and has sent and logged what it does in any case. -/
  | settled (outcome : Except Failure Unit) (left : Source) (sink : Sink) (events : List Event)
      (reasoned : ∀ failure, outcome = .error failure → ∃ reason, failure = .malformed reason)
      (ends : ∀ after, transfer.run { source := pieces ++ after } =
        (outcome, ⟨left ++ after, sink, events⟩))
  /-- The transfer waits for more and has logged nothing; it succeeds, or misses something, if
  nothing more comes. -/
  | starved (left : Source) (sink : Sink)
      (waits : transfer.run { source := pieces ++ [.fault .silent] } =
        (.error (.io (.stream .silent)), ⟨left, sink, []⟩))
      (ends : (transfer.run { source := pieces }).1 = .ok () ∨
        (transfer.run { source := pieces }).1 = .error .incompleteRequest)
      (grows : ∀ after, sink.written.toList <+:
        (transfer.run { source := pieces ++ after }).2.sink.written.toList)

/-- Where nothing comes, copying is done. -/
theorem copyBlocks_nil (sink : Sink) : copyBlocks [] sink = (.ok (), [], sink) := by
  rw [copyBlocks]
  rfl

/-- Copying takes all pieces, and goes on behind them. -/
theorem copyBlocks_append {pieces : Source} (full : pieces.Full) {sink : Sink}
    (accepting : sink.Accepting) :
    ∃ later : Sink, later.Accepting ∧
      later.written.toList = sink.written.toList ++ pieces.content ∧
        ∀ after, copyBlocks (pieces ++ after) sink = copyBlocks after later := by
  by_cases present : pieces = []
  · subst present
    exact ⟨sink, accepting, (List.append_nil _).symm, fun after => rfl⟩
  · obtain ⟨byte, received, left, leftFull, split, result⟩ :=
      full.read_append present (show 0 < blockSize by decide)
    obtain ⟨middle, taken, middleAccepting, middleWritten⟩ :=
      accepting.writeAll .nothingCopied (byte :: received)
    obtain ⟨later, laterAccepting, laterWritten, goesOn⟩ :=
      copyBlocks_append leftFull middleAccepting
    refine ⟨later, laterAccepting, ?_, fun after => ?_⟩
    · rw [laterWritten, middleWritten, split, List.append_assoc]
    · rw [← goesOn after, copyBlocks]
      split <;> simp_all
termination_by pieces.content.length
decreasing_by
  rw [split, List.length_append, List.length_cons]
  omega

/-- Copying takes back nothing that was written. -/
theorem written_copyBlocks (source : Source) (sink : Sink) :
    sink.written.toList <+: (copyBlocks source sink).2.2.written.toList := by
  fun_induction copyBlocks source sink with
  | case1 source sink text rest result ih => exact ih
  | case2 => exact List.prefix_rfl
  | case3 => exact List.prefix_rfl
  | case4 source sink byte bytes rest result later taken ih =>
    have grown := sink.written_writeAll .nothingCopied (byte :: bytes)
    rw [taken] at grown
    exact grown.trans ih
  | case5 source sink byte bytes rest result failure later refused =>
    have grown := sink.written_writeAll .nothingCopied (byte :: bytes)
    rw [refused] at grown
    exact grown

end Transfer

namespace Handler

/-- A byte echo that cannot copy ends with the reason. -/
theorem run_answerRaw_of_error {exchange : Exchange} {failure : Failure} {rest : Source}
    {sink : Sink} (copied : Transfer.copyBlocks exchange.source exchange.sink =
      (.error failure, rest, sink)) :
    Transfer.run answerRaw exchange = (.error failure, { exchange with source := rest, sink }) := by
  unfold answerRaw
  rw [Transfer.run_bind, Transfer.run_copy, copied]

/-- A byte echo that has copied hands on what it copied. -/
theorem run_answerRaw_of_ok {exchange : Exchange} {rest : Source} {sink : Sink}
    (copied : Transfer.copyBlocks exchange.source exchange.sink = (.ok (), rest, sink)) :
    Transfer.run answerRaw exchange =
      Transfer.run (do Transfer.flush; Transfer.flush) { exchange with source := rest, sink } := by
  unfold answerRaw
  rw [Transfer.run_bind, Transfer.run_copy, copied]

/-- What a byte echo sends is what it copies, and it logs nothing. -/
theorem effect_answerRaw (exchange : Exchange) :
    (Transfer.run answerRaw exchange).2.sink.written =
        (Transfer.copyBlocks exchange.source exchange.sink).2.2.written ∧
      (Transfer.run answerRaw exchange).2.events = exchange.events := by
  match copied : Transfer.copyBlocks exchange.source exchange.sink with
  | (.error failure, rest, sink) =>
    rw [run_answerRaw_of_error copied]
    exact ⟨rfl, rfl⟩
  | (.ok (), rest, sink) =>
    rw [run_answerRaw_of_ok copied, Transfer.run_bind, Transfer.run_flush]
    dsimp only
    have kept := sink.written_flush
    cases handed : sink.flush with
    | mk outcome later =>
      rw [handed] at kept
      cases outcome with
      | error failure => exact ⟨kept, rfl⟩
      | ok done =>
        dsimp only
        rw [Transfer.run_flush, Sink.written_flush]
        exact ⟨kept, rfl⟩

/-- A byte echo whose sink takes everything succeeds when it has copied. -/
theorem run_answerRaw_accepting {exchange : Exchange} {rest : Source} {sink : Sink}
    (copied : Transfer.copyBlocks exchange.source exchange.sink = (.ok (), rest, sink))
    (accepting : sink.Accepting) :
    Transfer.run answerRaw exchange =
      (.ok (), { exchange with source := rest, sink := { sink with flushed := true } }) := by
  rw [run_answerRaw_of_ok copied, Transfer.run_bind, Transfer.run_flush, accepting.flush]
  dsimp only
  rw [Transfer.run_flush, accepting.flushed.flush]

/-- A byte echo sends all that it gets, and goes on as long as something may come. -/
theorem foresees_answerRaw {pieces : Source} (full : pieces.Full) :
    answerRaw.Foresees pieces := by
  obtain ⟨sink, accepting, written, goesOn⟩ :=
    Transfer.copyBlocks_append full Sink.accepting_empty
  have silent : Transfer.copyBlocks [.fault .silent] sink =
      (.error (.io (.stream .silent)), [], sink) := by
    rw [Transfer.copyBlocks]
    rfl
  refine .starved [] sink ?_ (.inl ?_) fun after => ?_
  · exact run_answerRaw_of_error ((goesOn _).trans silent)
  · have copied := (goesOn []).trans (Transfer.copyBlocks_nil sink)
    rw [List.append_nil] at copied
    rw [run_answerRaw_accepting copied accepting]
  · rw [(effect_answerRaw _).1]
    dsimp only
    rw [goesOn after]
    exact Transfer.written_copyBlocks after sink

/-- The echo of bodies succeeds on every request if its sink takes everything. -/
theorem echoed_accepting {sink : Sink} (accepting : sink.Accepting) (request : Request) :
    (echoed (.ok request) sink).1 = .ok () := by
  obtain ⟨later, taken, laterAccepting, _⟩ :=
    accepting.writeAll .nothingWritten (echoOf request.body)
  simp only [echoed, Except.bind, render_echoResponse, taken, laterAccepting.flush]

/-- The echo of bodies fails for the reason that reading fails for. -/
theorem echoed_error (failure : Failure) (sink : Sink) :
    echoed (.error failure) sink = (.error failure, sink) := rfl

/-- The echo of bodies answers a request, refuses it, or sends nothing yet. -/
theorem foresees_answerHttp {pieces : Source} (full : pieces.Full) :
    answerHttp.Foresees pieces := by
  cases Request.staged.foresees .start .empty full with
  | settled outcome waiting left leftFull reasoned ends =>
    refine .settled (echoed outcome {}).1 left (echoed outcome {}).2 [] ?_ fun after => ?_
    · intro failure failed
      cases outcome with
      | error reason =>
        cases failed
        exact reasoned failure rfl
      | ok request =>
        rw [echoed_accepting Sink.accepting_empty] at failed
        contradiction
    · have read : Request.read (pieces ++ after) = ⟨outcome, waiting, left ++ after⟩ := ends after
      rw [run_answerHttp]
      dsimp only
      rw [read]
  | starved later held wanted undecided goesOn =>
    have read : ∀ after, Request.read (pieces ++ after) = Request.staged.read later held after :=
      goesOn
    refine .starved [] {} ?_ (.inr ?_) fun after => List.nil_prefix
    · rw [run_answerHttp]
      dsimp only
      rw [read, Staged.read_fault undecided rfl, echoed_error]
    · have ended := read []
      rw [List.append_nil] at ended
      rw [run_answerHttp]
      dsimp only
      rw [ended, Staged.read_nil undecided, echoed_error]

/-- The whole answer for a path that a library does not have. -/
def missing : Bytes := .ofString "HTTP/1.0 404 Not Found\r\nContent-Length: 0\r\n\r\n"

/-- The answer for a resource that does not exist is written so. -/
theorem render_notFound : Response.notFound.render = .ok missing := by
  have settled : Response.notFound.settle =
      .ok ⟨.http10, .notFound, "Not Found", some 0, [], []⟩ := rfl
  have written : (Response.Written.mk .http10 .notFound "Not Found" (some 0) [] []).bytes =
      missing := by decide +kernel
  rw [← written]
  exact Response.render_of_settle settled

/-- What a library sends under a path. -/
def answered (library : Library) (path : String) : Bytes := (library.get? path).getD missing

/-- What a library logs on a request. -/
def noted (library : Library) (descriptor : Descriptor) : List Event :=
  if (library.get? descriptor.path).isSome then [] else [.resourceMissing descriptor]

/-- A library sends one answer, hands it on, and leaves the source as it is. -/
theorem run_answerFrom_eq (library : Library) (descriptor : Descriptor) (exchange : Exchange) :
    Transfer.run (answerFrom library descriptor) exchange =
      Transfer.run (do Transfer.send (answered library descriptor.path); Transfer.flush)
        { exchange with events := exchange.events ++ noted library descriptor } := by
  unfold answerFrom answered noted
  cases library.get? descriptor.path with
  | some response =>
    simp only [Option.isSome_some, ↓reduceIte, List.append_nil, Option.getD_some]
  | none =>
    simp only [Transfer.run_bind, Transfer.run_log, Transfer.run_liftExcept, render_notFound,
      Option.getD_none, Option.isSome_none]
    rfl

/-- What a library has under a path is sent whatever the client sends. -/
theorem run_answerFrom (library : Library) (descriptor : Descriptor) :
    ∃ sink events, (∀ event ∈ events, event.severity = .warning) ∧
      ∀ source, Transfer.run (answerFrom library descriptor) { source } =
        (.ok (), ⟨source, sink, events⟩) := by
  obtain ⟨later, taken, accepting, -⟩ :=
    Sink.accepting_empty.writeAll .nothingWritten (answered library descriptor.path)
  refine ⟨{ later with flushed := true }, noted library descriptor, ?_, fun source => ?_⟩
  · unfold noted
    by_cases stored : (library.get? descriptor.path).isSome = true
    · simp [stored]
    · simp [stored, Event.severity]
  · simp only [run_answerFrom_eq, Transfer.run_bind, Transfer.run_send, taken, Transfer.run_flush,
      accepting.flush, List.nil_append]

/-- A library needs nothing of what its client sends after the head. -/
theorem foresees_answerFrom (library : Library) (descriptor : Descriptor) (pieces : Source) :
    (answerFrom library descriptor).Foresees pieces := by
  obtain ⟨sink, events, _, result⟩ := run_answerFrom library descriptor
  exact .settled (.ok ()) pieces sink events (by simp) fun after => result _

/-- A handler made of the echoes, of libraries and of dispatchers. -/
inductive Standard : Handler → Prop
  | rawEcho : Standard .rawEcho
  | httpEcho : Standard .httpEcho
  | files (library : Library) : Standard (.files library)
  | dispatch {routes : List (Protocol × Handler)} {fallback : Handler}
      (registered : ∀ route ∈ routes, Standard route.2) (otherwise : Standard fallback) :
      Standard (.dispatch routes fallback)

/-- Among the registered handlers the first one for the protocol is taken. -/
theorem proxyRegistered_eq (routes : List (Protocol × Handler)) (descriptor : Descriptor) :
    proxyRegistered routes descriptor =
      (routes.find? (·.1 = descriptor.protocol)).map fun route => route.2.proxy descriptor := by
  induction routes with
  | nil => rfl
  | cons route rest ih =>
    obtain ⟨protocol, handler⟩ := route
    rw [proxyRegistered, List.find?_cons]
    by_cases same : protocol = descriptor.protocol
    · simp only [same, ↓reduceIte, decide_true, Option.map_some]
    · simp only [same, ↓reduceIte, decide_false, ih]

/-- For each request a standard handler does what an echo or a library does. -/
theorem Standard.proxy_eq {handler : Handler} (standard : handler.Standard)
    (descriptor : Descriptor) :
    handler.proxy descriptor = answerRaw ∨ handler.proxy descriptor = answerHttp ∨
      ∃ library, handler.proxy descriptor = answerFrom library descriptor := by
  induction standard with
  | rawEcho => exact .inl (by rw [proxy])
  | httpEcho => exact .inr (.inl (by rw [proxy]))
  | files library => exact .inr (.inr ⟨library, by rw [proxy]⟩)
  | @dispatch routes fallback registered otherwise ihRegistered ihOtherwise =>
    rw [proxy, proxyRegistered_eq]
    cases found : routes.find? (·.1 = descriptor.protocol) with
    | none => exact ihOtherwise
    | some route => exact ihRegistered route (List.mem_of_find?_eq_some found)

/-- What a client has sent settles all that a standard handler does, or leaves it waiting. -/
theorem Standard.foresees {handler : Handler} (standard : handler.Standard)
    (descriptor : Descriptor) {pieces : Source} (full : pieces.Full) :
    (handler.proxy descriptor).Foresees pieces := by
  obtain raw | http | ⟨library, files⟩ := standard.proxy_eq descriptor
  · rw [raw]
    exact foresees_answerRaw full
  · rw [http]
    exact foresees_answerHttp full
  · rw [files]
    exact foresees_answerFrom library descriptor pieces

/-- A standard handler logs no errors. -/
theorem Standard.warns {handler : Handler} (standard : handler.Standard) (descriptor : Descriptor)
    (source : Source) :
    ∀ event ∈ (Transfer.run (handler.proxy descriptor) { source }).2.events,
      event.severity = .warning := by
  obtain raw | http | ⟨library, files⟩ := standard.proxy_eq descriptor
  · rw [raw, (effect_answerRaw _).2]
    exact fun event member => absurd member List.not_mem_nil
  · rw [http, run_answerHttp]
    exact fun event member => absurd member List.not_mem_nil
  · obtain ⟨sink, events, warned, result⟩ := run_answerFrom library descriptor
    rw [files, result]
    exact warned

/-- What a byte echo does on a delivery depends on the bytes alone. -/
theorem run_answerRaw_delivers {source : Source} {bytes : Bytes}
    (delivers : source.Delivers bytes) :
    (Transfer.run answerRaw { source }).1 = .ok () ∧
      (Transfer.run answerRaw { source }).2.events = [] ∧
        (Transfer.run answerRaw { source }).2.sink.written.toList = bytes := by
  obtain ⟨full, rfl⟩ := delivers
  obtain ⟨sink, accepting, written, goesOn⟩ :=
    Transfer.copyBlocks_append full Sink.accepting_empty
  have copied := (goesOn []).trans (Transfer.copyBlocks_nil sink)
  rw [List.append_nil] at copied
  rw [run_answerRaw_accepting copied accepting]
  exact ⟨rfl, rfl, written⟩

/-- Two transfers that end, send and log the same. -/
structure Agree (left right : Except Failure Unit × Exchange) : Prop where
  outcome : left.1 = right.1
  sent : left.2.sink.written.toList = right.2.sink.written.toList
  events : left.2.events = right.2.events

/-- What a standard handler does on a delivery depends on the bytes alone. -/
theorem Standard.agree {handler : Handler} (standard : handler.Standard) (descriptor : Descriptor)
    {bytes : Bytes} (within : RequestHead.DecidedInLimit bytes) {source direct : Source}
    (delivers : source.Delivers bytes) (directly : direct.Delivers bytes) :
    Agree (Transfer.run (handler.proxy descriptor) { source })
      (Transfer.run (handler.proxy descriptor) { source := direct }) := by
  obtain raw | http | ⟨library, files⟩ := standard.proxy_eq descriptor
  · rw [raw]
    obtain ⟨outcome, events, sent⟩ := run_answerRaw_delivers delivers
    obtain ⟨outcome', events', sent'⟩ := run_answerRaw_delivers directly
    exact ⟨outcome.trans outcome'.symm, sent.trans sent'.symm, events.trans events'.symm⟩
  · have same : (Request.read source).outcome = (Request.read direct).outcome := by
      rw [Request.read_outcome_eq_decode within delivers,
        Request.read_outcome_eq_decode within directly]
    rw [http, run_answerHttp, run_answerHttp]
    dsimp only
    rw [same]
    exact ⟨rfl, rfl, rfl⟩
  · obtain ⟨sink, events, _, result⟩ := run_answerFrom library descriptor
    rw [files, result, result]
    exact ⟨rfl, rfl, rfl⟩

end Handler
end TunnelBench
