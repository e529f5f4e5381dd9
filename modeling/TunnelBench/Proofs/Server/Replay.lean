import TunnelBench.Handler.Dispatcher
import TunnelBench.Proofs.Handler.Runs
import TunnelBench.Proofs.Request.Peeking
import TunnelBench.Server.Connection

/-!
# What a handler sees of its connection

A server looks at the head of a request before it runs the handler, and puts back what it
has looked at. The handler then sees the whole stream of the client, as if the server had
not looked; and where the head never comes, no handler runs and nothing is sent.
-/
namespace TunnelBench

namespace Source

/-- A delivery read to its end gives its bytes. -/
theorem Delivers.drain {source : Source} {bytes : Bytes} (delivers : source.Delivers bytes) :
    source.drain = .ok bytes := by
  obtain ⟨full, rfl⟩ := delivers
  induction source with
  | nil => rfl
  | cons piece rest ih =>
    obtain ⟨⟨given, rfl, some⟩, restFull⟩ := full_cons.1 full
    obtain ⟨byte, later, rfl⟩ := List.exists_cons_of_ne_nil some
    simp only [Source.drain, ih restFull, bind, Except.bind, content_cons]
    rfl

/-- Bytes put back are delivered before the others. -/
theorem Full.delivers_replay {source : Source} (full : source.Full) (bytes : Bytes) :
    (replay bytes source).Delivers (bytes ++ source.content) := by
  unfold replay
  split
  · rename_i empty
    rw [List.isEmpty_iff.1 empty]
    exact ⟨full, rfl⟩
  · rename_i given
    rw [List.isEmpty_iff] at given
    exact ⟨full_cons.2 ⟨⟨bytes, rfl, given⟩, full⟩, content_cons _ _⟩

end Source

namespace Connection

/-- Whether a character marks neither a query nor a fragment. -/
def isPlain (char : Char) : Bool := char ≠ '?' && char ≠ '#'

/-- A path is a target cut before the first mark of a query or of a fragment. -/
structure IsPathOf (path target : String) : Prop where
  /-- The path has no mark. -/
  clean : ∀ char ∈ path.toList, char ≠ '?' ∧ char ≠ '#'
  /-- The target has nothing but the path, or goes on with a mark. -/
  cut : path = target ∨ ∃ mark later, (mark = '?' ∨ mark = '#') ∧
    target.toList = path.toList ++ mark :: later

/-- The path that is taken out of a target is the target cut before its first mark. -/
theorem isPathOf_pathOf (target : String) : IsPathOf (pathOf target) target := by
  have path : (pathOf target).toList = target.toList.takeWhile isPlain := String.toList_ofList
  have split := List.takeWhile_append_dropWhile (p := isPlain) (l := target.toList)
  constructor
  · intro char member
    rw [path] at member
    have plain := List.all_eq_true.1 List.all_takeWhile char member
    simpa [isPlain] using plain
  · cases dropped : target.toList.dropWhile isPlain with
    | nil =>
      rw [dropped, List.append_nil, ← path] at split
      exact .inl (String.toList_inj.1 split)
    | cons mark later =>
      have stops := List.head?_dropWhile_not isPlain target.toList
      rw [dropped] at stops
      refine .inr ⟨mark, later, ?_, ?_⟩
      · simpa [isPlain, Classical.or_iff_not_imp_left] using stops
      · rw [path, ← dropped, split]

/-- What a connection asks for, its protocol and its bytes being given. -/
def Describes (protocol : Protocol) (bytes : Bytes) (descriptor : Descriptor) : Prop :=
  if protocol = .http then
    ∃ head rest, RequestHead.parse bytes = .done head rest ∧ descriptor.protocol = .http ∧
      IsPathOf descriptor.path head.target
  else descriptor = ⟨protocol, ""⟩

/-- Every handler is run for a descriptor, on a source that stands for that of the client. -/
def HandsOver (config : ServerConfig) (source : Source) (descriptor : Descriptor)
    (replayed : Source) : Prop :=
  ∀ (handler : Handler) sink events,
    Transfer.run (serve config handler) ⟨source, sink, events⟩ =
      ((Transfer.run (handler.proxy descriptor) ⟨replayed, sink, events⟩).1.mapError
          (Failure.after (.handler descriptor.text)),
        (Transfer.run (handler.proxy descriptor) ⟨replayed, sink, events⟩).2)

/-- No handler is run, nothing is sent and nothing is logged. -/
def Declines (config : ServerConfig) (source : Source) (failure : Failure) : Prop :=
  ∃ left, ∀ (handler : Handler) sink events,
    Transfer.run (serve config handler) ⟨source, sink, events⟩ =
      (.error failure, ⟨left, sink, events⟩)

/-- A connection whose descriptor is found is handed over. -/
theorem handsOver_of_introduce {config : ServerConfig} {source replayed : Source}
    {descriptor : Descriptor}
    (found : introduce config.protocol source = (.ok descriptor, replayed)) :
    HandsOver config source descriptor replayed := by
  intro handler sink events
  change serve config handler ⟨source, sink, events⟩ = _
  simp only [serve, found]

/-- A connection whose descriptor is not found is declined. -/
theorem declines_of_introduce {config : ServerConfig} {source left : Source} {failure : Failure}
    (failed : introduce config.protocol source = (.error failure, left)) :
    Declines config source failure := by
  refine ⟨left, fun handler sink events => ?_⟩
  change serve config handler ⟨source, sink, events⟩ = _
  simp only [serve, failed]

/-- A connection without requests for paths is described by its protocol, and its source stays. -/
theorem introduce_of_ne_http {protocol : Protocol} (other : protocol ≠ .http) (source : Source) :
    introduce protocol source = (.ok ⟨protocol, ""⟩, source) := by
  cases protocol with
  | http => exact absurd rfl other
  | raw => rfl
  | other tag => rfl

/-- A target that is found gives the path, and what was received is put back. -/
theorem introduce_http_of_ok {source : Source} {target : String}
    (found : (Request.readTarget source).outcome = .ok target) :
    introduce .http source = (.ok (.http (pathOf target)),
      Source.replay (Request.readTarget source).waiting (Request.readTarget source).source) := by
  simp only [introduce, found]

/-- A target that is not found gives the reason. -/
theorem introduce_http_of_error {source : Source} {failure : Failure}
    (failed : (Request.readTarget source).outcome = .error failure) :
    introduce .http source =
      (.error (failure.after .head), (Request.readTarget source).source) := by
  simp only [introduce, failed]

/-- A connection either hands over the whole stream or has no head, as far as the limit on the
size of heads lets it be found. -/
theorem handsOver_or_declines {source : Source} {bytes : Bytes} (delivers : source.Delivers bytes)
    (config : ServerConfig) :
    (∃ descriptor replayed, HandsOver config source descriptor replayed ∧
        replayed.Delivers bytes ∧ Describes config.protocol bytes descriptor) ∨
      config.protocol = .http ∧ (∃ failure, Declines config source failure) ∧
        (RequestHead.DecidedInLimit bytes →
          ∀ head rest, RequestHead.parse bytes ≠ .done head rest) := by
  by_cases http : config.protocol = .http
  · cases found : (Request.readTarget source).outcome with
    | ok target =>
      obtain ⟨⟨head, rest, parsed, rfl⟩, full, whole⟩ := Request.readTarget_of_ok delivers found
      have introduced := introduce_http_of_ok found
      rw [← http] at introduced
      refine .inl ⟨_, _, handsOver_of_introduce introduced, ?_, ?_⟩
      · have replayed := full.delivers_replay (Request.readTarget source).waiting
        rwa [whole] at replayed
      · rw [Describes, if_pos http]
        exact ⟨head, rest, parsed, rfl, isPathOf_pathOf head.target⟩
    | error failure =>
      have introduced := introduce_http_of_error found
      rw [← http] at introduced
      refine .inr ⟨http, ⟨_, declines_of_introduce introduced⟩, ?_⟩
      intro within head rest parsed
      rw [Request.readTarget_outcome within delivers, parsed] at found
      contradiction
  · refine .inl ⟨_, source, handsOver_of_introduce (introduce_of_ne_http http source), delivers, ?_⟩
    rw [Describes, if_neg http]

/-- A connection without a head is declined for the reason that reading the request gives. -/
theorem declines_of_read_error {config : ServerConfig} (http : config.protocol = .http)
    {source : Source} {bytes : Bytes} (delivers : source.Delivers bytes)
    (within : RequestHead.DecidedInLimit bytes)
    (headless : ∀ head rest, RequestHead.parse bytes ≠ .done head rest) :
    ∃ failure, Declines config source failure ∧
      ∀ direct : Source, direct.Delivers bytes →
        (Request.read direct).outcome = .error failure := by
  have peeked := Request.readTarget_outcome within delivers
  cases parsed : RequestHead.parse bytes with
  | done head rest => exact absurd parsed (headless head rest)
  | failed reason =>
    rw [parsed] at peeked
    have introduced := introduce_http_of_error peeked
    rw [← http] at introduced
    refine ⟨_, declines_of_introduce introduced, fun direct directDelivers => ?_⟩
    have look : Request.staged.step .start bytes = .failed reason := by
      simp only [Request.staged, Request.Stage.step, parsed]
    rw [Request.read_outcome_eq_decode within directDelivers, Staged.decode_failed look]
    rfl
  | more =>
    rw [parsed] at peeked
    have introduced := introduce_http_of_error peeked
    rw [← http] at introduced
    refine ⟨_, declines_of_introduce introduced, fun direct directDelivers => ?_⟩
    have look : Request.staged.step .start bytes = .more 0 := by
      simp only [Request.staged, Request.Stage.step, parsed]
    rw [Request.read_outcome_eq_decode within directDelivers, Staged.decode_more look]
    rfl

/-- A request for a path goes to the echo of bodies. -/
theorem proxy_echo {descriptor : Descriptor} (http : descriptor.protocol = .http) :
    Dispatcher.echo.toHandler.proxy descriptor = Handler.answerHttp := by
  simp only [Dispatcher.echo, Dispatcher.toHandler, Dispatcher.register, Dispatcher.new,
    Dispatcher.setRoute, Handler.proxy, Handler.proxyRegistered, http, ↓reduceIte, Option.getD_some]

/-- Reading from a delivery never waits for good. -/
theorem read_ne_silent {source : Source} {bytes : Bytes}
    (within : RequestHead.DecidedInLimit bytes) (delivers : source.Delivers bytes) :
    (Request.read source).outcome ≠ .error (.io (.stream .silent)) := by
  rw [Request.read_outcome_eq_decode within delivers]
  intro silent
  obtain incomplete | ⟨reason, malformed⟩ := Staged.decode_eq_error (Prod.ext silent rfl)
  · contradiction
  · contradiction

/-- Only a wait for good is made a missed deadline. -/
theorem mapError_after {outcome : Except Failure Unit} (deadline : Deadline)
    (spoken : outcome ≠ .error (.io (.stream .silent))) :
    outcome.mapError (Failure.after deadline) = outcome := by
  cases outcome with
  | ok done => rfl
  | error failure =>
    change Except.error (failure.after deadline) = _
    unfold Failure.after
    split
    · exact absurd rfl spoken
    · rfl

/-- Without a head no handler is run. -/
theorem declines_of_headless {config : ServerConfig} (http : config.protocol = .http)
    {source : Source} {bytes : Bytes} (delivers : source.Delivers bytes)
    (headless : ∀ head rest, RequestHead.parse bytes ≠ .done head rest) :
    ∃ failure, Declines config source failure := by
  obtain ⟨descriptor, replayed, _, _, described⟩ | ⟨_, declined, _⟩ :=
    handsOver_or_declines delivers config
  · rw [Describes, if_pos http] at described
    obtain ⟨head, rest, parsed, _⟩ := described
    exact absurd parsed (headless head rest)
  · exact declined

/-- The echo of bodies behind a server does what it does on the stream itself. -/
theorem serve_echo {config : ServerConfig} (http : config.protocol = .http)
    {source direct : Source} {bytes : Bytes} (delivers : source.Delivers bytes)
    (directDelivers : direct.Delivers bytes) (within : RequestHead.DecidedInLimit bytes)
    {sink : Sink} (responsive : sink.Responsive) (events : List Event) (descriptor : Descriptor) :
    let served := Transfer.run (serve config Dispatcher.echo.toHandler) ⟨source, sink, events⟩
    let plain := Transfer.run (Handler.httpEcho.proxy descriptor) ⟨direct, sink, events⟩
    served.1 = plain.1 ∧ served.2.sink = plain.2.sink ∧ served.2.events = plain.2.events := by
  dsimp only
  obtain ⟨found, replayed, hands, whole, described⟩ | ⟨_, _, headless⟩ :=
    handsOver_or_declines delivers config
  · rw [Describes, if_pos http] at described
    obtain ⟨head, rest, _, asked, _⟩ := described
    have same : (Request.read replayed).outcome = (Request.read direct).outcome := by
      rw [Request.read_outcome_eq_decode within whole,
        Request.read_outcome_eq_decode within directDelivers]
    have spoken := Handler.echoed_ne_silent (read_ne_silent within directDelivers) responsive
    rw [hands, proxy_echo asked, Handler.proxy, Handler.run_answerHttp, Handler.run_answerHttp,
      same, mapError_after _ spoken]
    exact ⟨rfl, rfl, rfl⟩
  · obtain ⟨failure, ⟨left, declined⟩, refused⟩ :=
      declines_of_read_error http delivers within (headless within)
    rw [declined, Handler.proxy, Handler.run_answerHttp, refused direct directDelivers]
    exact ⟨rfl, rfl, rfl⟩

/-- A handler sees the whole stream of its client and is told what is asked for; without a head no
handler is run; and the echo of bodies behind a server does what it does on the stream itself. -/
theorem serve_transparent {source : Source} {bytes : Bytes} (delivers : source.Delivers bytes)
    (config : ServerConfig) :
    ((∃ descriptor replayed, HandsOver config source descriptor replayed ∧
          replayed.Delivers bytes ∧ replayed.drain = .ok bytes ∧
          Describes config.protocol bytes descriptor) ∨
        config.protocol = .http ∧ (∃ failure, Declines config source failure) ∧
          (RequestHead.DecidedInLimit bytes →
            ∀ head rest, RequestHead.parse bytes ≠ .done head rest)) ∧
      (config.protocol = .http → (∀ head rest, RequestHead.parse bytes ≠ .done head rest) →
        ∃ failure, Declines config source failure) ∧
      (config.protocol = .http → RequestHead.DecidedInLimit bytes →
        ∀ (direct : Source) (sink : Sink) events descriptor, direct.Delivers bytes →
          sink.Responsive →
          let served := Transfer.run (serve config Dispatcher.echo.toHandler) ⟨source, sink, events⟩
          let plain := Transfer.run (Handler.httpEcho.proxy descriptor) ⟨direct, sink, events⟩
          served.1 = plain.1 ∧ served.2.sink = plain.2.sink ∧
            served.2.events = plain.2.events) := by
  refine ⟨?_, fun http headless => declines_of_headless http delivers headless, ?_⟩
  · obtain ⟨descriptor, replayed, hands, whole, described⟩ | declined :=
      handsOver_or_declines delivers config
    · exact .inl ⟨descriptor, replayed, hands, whole, whole.drain, described⟩
    · exact .inr declined
  · intro http within direct sink events descriptor directDelivers responsive
    exact serve_echo http delivers directDelivers within responsive events descriptor

/-- A request for a path with a query. -/
def queryRequest : Bytes := .ofString "GET /a?b HTTP/1.1\r\n\r\n"

/-- A request for a path with a query is handed over whole, and it is echoed as it is alone. -/
theorem serve_queryRequest :
    Source.Delivers (queryRequest.map fun byte => .data [byte]) queryRequest ∧
      (∃ descriptor replayed,
        HandsOver {} (queryRequest.map fun byte => .data [byte]) descriptor replayed ∧
          replayed.drain = .ok queryRequest ∧ Describes .http queryRequest descriptor) ∧
      (Transfer.run (serve {} Dispatcher.echo.toHandler)
        ⟨queryRequest.map fun byte => .data [byte], {}, []⟩).2.sink =
          (Transfer.run (Handler.httpEcho.proxy .raw) ⟨[.data queryRequest], {}, []⟩).2.sink := by
  have delivers := Source.delivers_bytewise queryRequest
  have whole : Source.Delivers [.data queryRequest] queryRequest :=
    Source.delivers_whole (by decide +kernel)
  have within : RequestHead.DecidedInLimit queryRequest :=
    RequestHead.decidedInLimit_of_length_le (by decide +kernel)
  have parsed : RequestHead.parse queryRequest =
      .done ⟨.ofString "GET", "/a?b", 1, [], .none⟩ [] := by decide +kernel
  obtain ⟨seen, _, echoed⟩ := serve_transparent delivers {}
  refine ⟨delivers, ?_, ?_⟩
  · obtain ⟨descriptor, replayed, hands, _, drained, described⟩ | ⟨_, _, headless⟩ := seen
    · exact ⟨descriptor, replayed, hands, drained, described⟩
    · exact absurd parsed (headless within _ _)
  · exact (echoed rfl within _ {} [] .raw whole ⟨by simp, by simp⟩).2.1

end Connection
end TunnelBench
