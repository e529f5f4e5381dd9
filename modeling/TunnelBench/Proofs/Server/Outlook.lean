import TunnelBench.Proofs.Handler.Standard
import TunnelBench.Proofs.Server.Replay

/-!
# What a server makes of a client that may go on

A server with a standard handler looks at what a client has sent so far. Either that
settles all that the server sends and logs, whatever the client does next; or the server
waits, has logged nothing, and what it has sent stays the start of what it will send. How
the bytes are cut into pieces does not matter, as far as the limit on the size of heads
lets the head be found.
-/
namespace TunnelBench

namespace Source

/-- Bytes are put back in front of all that comes. -/
theorem replay_append (bytes : Bytes) (left after : Source) :
    replay bytes (left ++ after) = replay bytes left ++ after := by
  unfold replay
  split <;> rfl

end Source

namespace Connection

/-- What was served is the start of what is served in all. -/
structure Served.Begins (part whole : Served) : Prop where
  sent : part.sent <+: whole.sent
  warnings : part.warnings <+: whole.warnings

/-- All that was served is the start of itself. -/
theorem Served.Begins.refl (served : Served) : served.Begins served :=
  ⟨List.prefix_rfl, List.prefix_rfl⟩

/-- What serving makes of some pieces, for all that can come after them. -/
inductive Foresees (config : ServerConfig) (handler : Handler) (pieces : Source) : Prop
  /-- Serving ends. -/
  | settled (served : Served) (spoken : served.timedOut = false)
      (ends : ∀ after, run config handler (pieces ++ after) = served)
  /-- Serving waits for more, and ends if nothing more comes. -/
  | starved (waits : (run config handler (unended pieces)).timedOut = true)
      (ends : (run config handler pieces).timedOut = false)
      (grows : ∀ after,
        (run config handler (unended pieces)).Begins (run config handler (pieces ++ after)))

/-- A connection with a descriptor is served as its handler does. -/
theorem run_of_introduce_ok {config : ServerConfig} {source replayed : Source}
    {descriptor : Descriptor}
    (found : introduce config.protocol source = (.ok descriptor, replayed)) (handler : Handler) :
    run config handler source =
      { sent := (Transfer.run (handler.proxy descriptor)
          { source := replayed }).2.sink.written.toList
        warnings := (Transfer.run (handler.proxy descriptor) { source := replayed }).2.events
        outcome := (Transfer.run (handler.proxy descriptor) { source := replayed }).1.mapError
          (Failure.after (.handler descriptor.text)) } := by
  have handed := handsOver_of_introduce found handler {} []
  unfold run
  rw [handed]

/-- A connection without a descriptor is served with nothing. -/
theorem run_of_introduce_error {config : ServerConfig} {source left : Source} {failure : Failure}
    (failed : introduce config.protocol source = (.error failure, left)) (handler : Handler) :
    run config handler source = { sent := [], warnings := [], outcome := .error failure } := by
  have declined : (serve config handler).run { source } = (.error failure, { source := left }) := by
    change serve config handler { source } = _
    simp only [serve, failed]
  unfold run
  rw [declined]

/-- Pieces settle what is asked for, or nothing but a head is waited for. -/
theorem introduce_foresees (protocol : Protocol) {pieces : Source} (full : pieces.Full) :
    (∃ (result : Except Failure Descriptor) (left : Source), left.Full ∧
        (∀ failure, result = .error failure → ∃ reason, failure = .malformed reason) ∧
          ∀ after, introduce protocol (pieces ++ after) = (result, left ++ after)) ∨
      introduce protocol (unended pieces) = (.error (.timeout .head), []) ∧
        introduce protocol pieces = (.error .incompleteRequest, []) := by
  by_cases http : protocol = .http
  · subst http
    cases Request.peeked.foresees () .empty full with
    | settled outcome waiting left leftFull reasoned ends =>
      have read : ∀ after, Request.readTarget (pieces ++ after) =
          ⟨outcome, waiting, left ++ after⟩ := ends
      cases outcome with
      | ok target =>
        refine .inl ⟨.ok (.http (pathOf target)), Source.replay waiting left,
          (leftFull.delivers_replay waiting).1, by simp, fun after => ?_⟩
        have found : (Request.readTarget (pieces ++ after)).outcome = .ok target := by rw [read]
        rw [introduce_http_of_ok found, read, Source.replay_append]
      | error failure =>
        obtain ⟨reason, rfl⟩ := reasoned failure rfl
        refine .inl ⟨.error (.malformed reason), left, leftFull, by simp, fun after => ?_⟩
        have failed : (Request.readTarget (pieces ++ after)).outcome =
            .error (.malformed reason) := by rw [read]
        rw [introduce_http_of_error failed, read]
        rfl
    | starved later held wanted undecided goesOn =>
      have read : ∀ after, Request.readTarget (pieces ++ after) =
          Request.peeked.read later held after := goesOn
      refine .inr ⟨?_, ?_⟩
      · have silent := (read [.fault .silent]).trans (Staged.read_fault undecided rfl)
        rw [unended, introduce_http_of_error (by rw [silent]), silent]
        rfl
      · have ended := (read []).trans (Staged.read_nil undecided)
        rw [List.append_nil] at ended
        rw [introduce_http_of_error (by rw [ended]), ended]
        rfl
  · refine .inl ⟨.ok ⟨protocol, ""⟩, pieces, full, by simp, fun after => ?_⟩
    rw [introduce_of_ne_http http]

/-- A failure that has a reason in the bytes is no missed deadline. -/
theorem mapError_reasoned {outcome : Except Failure Unit}
    (reasoned : ∀ failure, outcome = .error failure → ∃ reason, failure = .malformed reason)
    (deadline : Deadline) :
    outcome.mapError (Failure.after deadline) = outcome ∧ isTimeout outcome = false := by
  cases outcome with
  | ok done => exact ⟨rfl, rfl⟩
  | error failure =>
    obtain ⟨reason, rfl⟩ := reasoned failure rfl
    exact ⟨rfl, rfl⟩

/-- What a client has sent settles all that a server with a standard handler does, or leaves it
waiting. -/
theorem foresees {handler : Handler} (standard : handler.Standard) (config : ServerConfig)
    {pieces : Source} (full : pieces.Full) : Foresees config handler pieces := by
  obtain ⟨result, left, leftFull, reasoned, introduced⟩ | ⟨silent, ended⟩ :=
    introduce_foresees config.protocol full
  · cases result with
    | error failure =>
      obtain ⟨reason, rfl⟩ := reasoned failure rfl
      exact .settled _ rfl fun after => run_of_introduce_error (introduced after) handler
    | ok descriptor =>
      have handed := fun after => run_of_introduce_ok (introduced after) handler
      cases standard.foresees descriptor leftFull with
      | settled outcome rest sink events outcomeReasoned ends =>
        obtain ⟨kept, spoken⟩ := mapError_reasoned outcomeReasoned (.handler descriptor.text)
        refine .settled ⟨sink.written.toList, events, outcome⟩ spoken fun after => ?_
        rw [handed after, ends after, kept]
      | starved rest sink waits ends grows =>
        have silent := handed [.fault .silent]
        rw [waits] at silent
        have whole := handed []
        rw [List.append_nil, List.append_nil] at whole
        refine .starved ?_ ?_ fun after => ?_
        · rw [unended, silent]
          rfl
        · rw [whole]
          obtain done | missing := ends
          · rw [done]
            rfl
          · rw [missing]
            rfl
        · rw [unended, silent, handed after]
          exact ⟨grows after, List.nil_prefix⟩
  · have waits := run_of_introduce_error silent handler
    refine .starved ?_ ?_ fun after => ?_
    · rw [waits]
      rfl
    · rw [run_of_introduce_error ended handler]
      rfl
    · rw [waits]
      exact ⟨List.nil_prefix, List.nil_prefix⟩

/-- What was served before a client went on is the start of what is served then. -/
theorem run_unended_begins {handler : Handler} (standard : handler.Standard)
    (config : ServerConfig) {pieces : Source} (full : pieces.Full) (after : Source) :
    (run config handler (unended pieces)).Begins (run config handler (pieces ++ after)) := by
  cases foresees standard config full with
  | settled served spoken ends =>
    rw [unended, ends, ends]
    exact .refl served
  | starved waits ends grows => exact grows after

/-- What was served without waiting for more is all that is served. -/
theorem run_append_of_spoken {handler : Handler} (standard : handler.Standard)
    (config : ServerConfig) {pieces : Source} (full : pieces.Full)
    (spoken : (run config handler (unended pieces)).timedOut = false) (after : Source) :
    run config handler (pieces ++ after) = run config handler (unended pieces) := by
  cases foresees standard config full with
  | settled served _ ends => rw [unended, ends, ends]
  | starved waits ends grows =>
    rw [spoken] at waits
    contradiction

/-- A standard handler adds warnings only, before the end of its connection. -/
theorem run_warns {handler : Handler} (standard : handler.Standard) (config : ServerConfig)
    (source : Source) : ∀ event ∈ (run config handler source).warnings,
      event.severity = .warning := by
  match introduced : introduce config.protocol source with
  | (.ok descriptor, replayed) =>
    rw [run_of_introduce_ok introduced]
    exact standard.warns descriptor replayed
  | (.error failure, left) =>
    rw [run_of_introduce_error introduced]
    exact fun event member => absurd member List.not_mem_nil

/-- What is served depends on the bytes alone, not on the pieces in which they come. -/
theorem run_eq_of_delivers {handler : Handler} (standard : handler.Standard)
    (config : ServerConfig) {bytes : Bytes} (within : RequestHead.DecidedInLimit bytes)
    {source direct : Source} (delivers : source.Delivers bytes)
    (directly : direct.Delivers bytes) :
    run config handler source = run config handler direct := by
  have handed : ∀ {descriptor : Descriptor} {replayed replayedDirect : Source},
      introduce config.protocol source = (.ok descriptor, replayed) →
      introduce config.protocol direct = (.ok descriptor, replayedDirect) →
      replayed.Delivers bytes → replayedDirect.Delivers bytes →
      run config handler source = run config handler direct := by
    intro descriptor replayed replayedDirect found foundDirect whole wholeDirect
    have same := standard.agree descriptor within whole wholeDirect
    rw [run_of_introduce_ok found, run_of_introduce_ok foundDirect, same.outcome, same.sent,
      same.events]
  by_cases http : config.protocol = .http
  · have peeked := Request.readTarget_outcome within delivers
    have peekedDirect := Request.readTarget_outcome within directly
    cases found : (Request.readTarget source).outcome with
    | ok target =>
      have foundDirect : (Request.readTarget direct).outcome = .ok target := by
        rw [peekedDirect, ← peeked, found]
      obtain ⟨_, full, whole⟩ := Request.readTarget_of_ok delivers found
      obtain ⟨_, fullDirect, wholeDirect⟩ := Request.readTarget_of_ok directly foundDirect
      have replayed := full.delivers_replay (Request.readTarget source).waiting
      have replayedDirect := fullDirect.delivers_replay (Request.readTarget direct).waiting
      rw [whole] at replayed
      rw [wholeDirect] at replayedDirect
      have introduced := introduce_http_of_ok found
      have introducedDirect := introduce_http_of_ok foundDirect
      rw [← http] at introduced introducedDirect
      exact handed introduced introducedDirect replayed replayedDirect
    | error failure =>
      have foundDirect : (Request.readTarget direct).outcome = .error failure := by
        rw [peekedDirect, ← peeked, found]
      have introduced := introduce_http_of_error found
      have introducedDirect := introduce_http_of_error foundDirect
      rw [← http] at introduced introducedDirect
      rw [run_of_introduce_error introduced, run_of_introduce_error introducedDirect]
  · exact handed (introduce_of_ne_http http source) (introduce_of_ne_http http direct)
      delivers directly

end Connection
end TunnelBench
