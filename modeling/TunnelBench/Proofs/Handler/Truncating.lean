import TunnelBench.Proofs.Handler.Standard
import TunnelBench.Proofs.Stream.Draining

/-!
# What a failing sink cuts off

A handler of the library decides what it sends without looking at its sink. On a sink that
takes everything all of it arrives; on a sink with a limit the front of it arrives that the
limit allows, and the handler fails if that is not all of it. So a sink that fails cuts the
answer short, and changes, repeats and reorders nothing.
-/
namespace TunnelBench

namespace Transfer

/-- What a transfer comes to on a sink that takes everything. -/
structure Emission (α : Type) where
  outcome : Except Failure α
  /-- The reads that are not made. -/
  left : Source
  sent : Bytes
  logged : List Event

variable {α β : Type}

/-- A transfer that sends the same bytes to every sink, as far as the sink takes them. -/
structure Emits (transfer : Transfer α) (source : Source) (emission : Emission α) : Prop where
  /-- Where the bytes fit all is done. -/
  whole : ∀ {sink : Sink} (events : List Event), sink.Patient → sink.Fits emission.sent →
    ∃ flushed, transfer.run ⟨source, sink, events⟩ = (emission.outcome,
      ⟨emission.left, sink.grown emission.sent flushed, events ++ emission.logged⟩)
  /-- Where they do not fit the transfer fails, and what the limit allows has been taken. -/
  cut : ∀ {sink : Sink} (events : List Event), sink.Patient → ¬sink.Fits emission.sent →
    ∃ failure left flushed noted, transfer.run ⟨source, sink, events⟩ = (.error failure,
      ⟨left, sink.grown (sink.withinLimit emission.sent) flushed, noted⟩)

/-- On a sink that takes everything all of the bytes arrive. -/
theorem Emits.run_takesAll {transfer : Transfer α} {source : Source} {emission : Emission α}
    (emits : transfer.Emits source emission) (events : List Event) {sink : Sink}
    (takes : sink.TakesAll) :
    (transfer.run ⟨source, sink, events⟩).1 = emission.outcome ∧
      (transfer.run ⟨source, sink, events⟩).2.sink.written.toList =
        sink.written.toList ++ emission.sent := by
  obtain ⟨flushed, ran⟩ := emits.whole events takes.patient (takes.fits emission.sent)
  rw [ran]
  exact ⟨rfl, Sink.written_grown⟩

/-- Under a limit the front of the bytes arrives, and the transfer succeeds if and only if that is
all of them and it succeeds without the limit. -/
theorem Emits.run_limited {transfer : Transfer α} {source : Source} {emission : Emission α}
    (emits : transfer.Emits source emission) (events : List Event) {sink : Sink}
    (patient : sink.Patient) {limit : Nat} (limited : sink.limit = some limit) :
    (transfer.run ⟨source, sink, events⟩).2.sink.written.toList =
        sink.written.toList ++ emission.sent.take (limit - sink.written.size) ∧
      ∀ value, (transfer.run ⟨source, sink, events⟩).1 = .ok value ↔
        emission.outcome = .ok value ∧ emission.sent.length ≤ limit - sink.written.size := by
  by_cases fits : sink.Fits emission.sent
  · have short := (Sink.fits_of_limit limited).1 fits
    obtain ⟨flushed, ran⟩ := emits.whole events patient fits
    rw [ran, List.take_of_length_le short]
    exact ⟨Sink.written_grown, fun value => (and_iff_left short).symm⟩
  · have allowed : sink.withinLimit emission.sent =
        emission.sent.take (limit - sink.written.size) := by
      simp only [Sink.withinLimit, limited]
    obtain ⟨failure, left, flushed, noted, ran⟩ := emits.cut events patient fits
    rw [ran, ← allowed]
    refine ⟨Sink.written_grown, fun value => ?_⟩
    rw [Sink.fits_of_limit limited] at fits
    simp [fits]

/-- A transfer emits one thing only. -/
theorem Emits.unique {transfer : Transfer α} {source : Source} {emission other : Emission α}
    (emits : transfer.Emits source emission) (again : transfer.Emits source other) :
    emission.sent = other.sent ∧ emission.outcome = other.outcome := by
  have takes : Sink.TakesAll {} := Sink.accepting_empty.takesAll
  obtain ⟨outcome, written⟩ := emits.run_takesAll [] takes
  obtain ⟨otherOutcome, otherWritten⟩ := again.run_takesAll [] takes
  exact ⟨List.append_cancel_left (written.symm.trans otherWritten),
    outcome.symm.trans otherOutcome⟩

/-- A transfer that runs as another one does emits what that one emits. -/
theorem Emits.of_run_eq {transfer other : Transfer α} {source rest : Source}
    {emission : Emission α} (emits : other.Emits rest emission)
    (same : ∀ sink events,
      transfer.run ⟨source, sink, events⟩ = other.run ⟨rest, sink, events⟩) :
    transfer.Emits source emission := by
  refine ⟨fun {sink} events patient fits => ?_, fun {sink} events patient tight => ?_⟩
  · rw [same]
    exact emits.whole events patient fits
  · rw [same]
    exact emits.cut events patient tight

/-- A transfer that sends nothing emits nothing. -/
theorem emits_nothing {transfer : Transfer α} {source left : Source} {outcome : Except Failure α}
    {logged : List Event}
    (ran : ∀ {sink : Sink} (events : List Event), sink.Patient →
      ∃ flushed, transfer.run ⟨source, sink, events⟩ =
        (outcome, ⟨left, { sink with flushed }, events ++ logged⟩)) :
    transfer.Emits source ⟨outcome, left, [], logged⟩ := by
  refine ⟨fun {sink} events patient _ => ?_, fun {sink} _ _ tight => ?_⟩
  · obtain ⟨flushed, result⟩ := ran events patient
    exact ⟨flushed, by rw [result, Sink.grown_nil]⟩
  · exact absurd sink.withinLimit_nil tight

/-- Two parts emit one after the other, the second if the first succeeds. -/
theorem Emits.bind {first : Transfer α} {next : α → Transfer β} {source middle : Source}
    {value : α} {sent : Bytes} {logged : List Event} {emission : Emission β}
    (front : first.Emits source ⟨.ok value, middle, sent, logged⟩)
    (back : (next value).Emits middle emission) :
    (first >>= next).Emits source
      ⟨emission.outcome, emission.left, sent ++ emission.sent, logged ++ emission.logged⟩ := by
  refine ⟨fun {sink} events patient fits => ?_, fun {sink} events patient tight => ?_⟩
  · obtain ⟨flushed, ran⟩ := front.whole events patient ((Sink.fits_append false).1 fits).1
    obtain ⟨later, ranOn⟩ := back.whole (events ++ logged) patient.grown
      ((Sink.fits_append flushed).1 fits).2
    refine ⟨later, ?_⟩
    rw [run_bind, ran]
    dsimp only
    rw [ranOn, Sink.grown_grown, List.append_assoc]
  · by_cases fits : sink.Fits sent
    · obtain ⟨flushed, ran⟩ := front.whole events patient fits
      have overflows : ¬(sink.grown sent flushed).Fits emission.sent := fun rest =>
        tight ((Sink.fits_append flushed).2 ⟨fits, rest⟩)
      obtain ⟨failure, left, later, noted, ranOn⟩ :=
        back.cut (events ++ logged) patient.grown overflows
      refine ⟨failure, left, later, noted, ?_⟩
      rw [run_bind, ran]
      dsimp only
      rw [ranOn, Sink.grown_grown, sink.withinLimit_append sent emission.sent flushed, fits]
    · obtain ⟨failure, left, flushed, noted, ran⟩ := front.cut events patient fits
      refine ⟨failure, left, flushed, noted, ?_⟩
      rw [run_bind, ran]
      dsimp only
      rw [Sink.withinLimit_append_of_not_fits fits]

/-- Two parts emit one after the other where the second one needs nothing of the first. -/
theorem Emits.seq {first : Transfer Unit} {second : Transfer β} {source middle : Source}
    {sent : Bytes} {logged : List Event} {emission : Emission β}
    (front : first.Emits source ⟨.ok (), middle, sent, logged⟩)
    (back : second.Emits middle emission) :
    (do first; second).Emits source
      ⟨emission.outcome, emission.left, sent ++ emission.sent, logged ++ emission.logged⟩ :=
  front.bind back

/-- A first part that sends and logs nothing adds nothing. -/
theorem Emits.behind {first : Transfer α} {next : α → Transfer β} {source middle : Source}
    {value : α} {emission : Emission β} (front : first.Emits source ⟨.ok value, middle, [], []⟩)
    (back : (next value).Emits middle emission) : (first >>= next).Emits source emission :=
  front.bind back

/-- Where the first part fails nothing more is emitted. -/
theorem Emits.bind_error {first : Transfer α} {next : α → Transfer β} {source left : Source}
    {failure : Failure} {sent : Bytes} {logged : List Event}
    (front : first.Emits source ⟨.error failure, left, sent, logged⟩) :
    (first >>= next).Emits source ⟨.error failure, left, sent, logged⟩ := by
  refine ⟨fun {sink} events patient fits => ?_, fun {sink} events patient tight => ?_⟩
  · obtain ⟨flushed, ran⟩ := front.whole events patient fits
    exact ⟨flushed, by rw [run_bind, ran]⟩
  · obtain ⟨failure, left, flushed, noted, ran⟩ := front.cut events patient tight
    exact ⟨failure, left, flushed, noted, by rw [run_bind, ran]⟩

/-- Receiving sends nothing. -/
theorem emits_receive (reader : Source → Reading α) (source : Source) :
    (receive reader).Emits source ⟨(reader source).outcome, (reader source).source, [], []⟩ :=
  emits_nothing fun {sink} events _ => ⟨sink.flushed, by rw [run_receive, List.append_nil]⟩

/-- A result that is at hand sends nothing. -/
theorem emits_liftExcept (outcome : Except Failure α) (source : Source) :
    (liftExcept outcome : Transfer α).Emits source ⟨outcome, source, [], []⟩ :=
  emits_nothing fun {sink} events _ => ⟨sink.flushed, by rw [run_liftExcept, List.append_nil]⟩

/-- Handing on sends nothing. -/
theorem emits_flush (source : Source) : flush.Emits source ⟨.ok (), source, [], []⟩ := by
  refine emits_nothing fun {sink} events patient => ⟨true, ?_⟩
  rw [run_flush, List.append_nil]
  simp only [Sink.flush, patient.flushes]

/-- Handing on what was sent adds nothing. -/
theorem Emits.handedOn {first : Transfer Unit} {source left : Source} {sent : Bytes}
    {logged : List Event} (emits : first.Emits source ⟨.ok (), left, sent, logged⟩) :
    (do first; flush).Emits source ⟨.ok (), left, sent, logged⟩ := by
  have whole := emits.seq (emits_flush left)
  rwa [List.append_nil, List.append_nil] at whole

/-- Sends a message, with the error for a write that takes nothing. -/
def sendOr (nothing : IoError) (bytes : Bytes) : Transfer Unit := fun exchange =>
  let (outcome, sink) := exchange.sink.writeAll nothing bytes
  (outcome, { exchange with sink })

/-- Sending has an effect on the sink only. -/
theorem run_sendOr (nothing : IoError) (bytes : Bytes) (exchange : Exchange) :
    run (sendOr nothing bytes) exchange = ((exchange.sink.writeAll nothing bytes).1,
      { exchange with sink := (exchange.sink.writeAll nothing bytes).2 }) := rfl

/-- A message is emitted. -/
theorem emits_sendOr (nothing : IoError) (bytes : Bytes) (source : Source) :
    (sendOr nothing bytes).Emits source ⟨.ok (), source, bytes, []⟩ := by
  refine ⟨fun {sink} events patient fits => ?_, fun {sink} events patient tight => ?_⟩
  · obtain ⟨taken, sent, -⟩ := patient.writeAll nothing bytes
    have allowed : sink.withinLimit bytes = bytes := fits
    rw [allowed] at taken
    refine ⟨sink.flushed && bytes.isEmpty, ?_⟩
    rw [run_sendOr, taken, sent fits, List.append_nil]
  · obtain ⟨taken, -, stopped⟩ := patient.writeAll nothing bytes
    obtain ⟨failure, failed⟩ := stopped tight
    refine ⟨failure, source, sink.flushed && (sink.withinLimit bytes).isEmpty, events, ?_⟩
    rw [run_sendOr, taken, failed]

/-- A message is emitted. -/
theorem emits_send (bytes : Bytes) (source : Source) :
    (send bytes).Emits source ⟨.ok (), source, bytes, []⟩ :=
  emits_sendOr .nothingWritten bytes source

/-- How copying ends where all of it is taken. -/
def copied : Option Fault → Except Failure Unit
  | none => .ok ()
  | some fault => .error (.io (.stream fault))

/-- An interrupted read is made again. -/
theorem run_copy_interrupted {source rest : Source} {text : String}
    (received : source.read blockSize = (.error (.interrupted text), rest)) (sink : Sink)
    (events : List Event) : run copy ⟨source, sink, events⟩ = run copy ⟨rest, sink, events⟩ := by
  simp only [run_copy]
  rw [copyBlocks]
  split <;> simp_all

/-- Copying ends at a read that fails otherwise. -/
theorem run_copy_error {source rest : Source} {fault : Fault}
    (lasting : ∀ text, fault ≠ .interrupted text)
    (received : source.read blockSize = (.error fault, rest)) (sink : Sink) (events : List Event) :
    run copy ⟨source, sink, events⟩ = (.error (.io (.stream fault)), ⟨rest, sink, events⟩) := by
  cases fault with
  | interrupted text => exact absurd rfl (lasting text)
  | broken text =>
    simp only [run_copy]
    rw [copyBlocks]
    split <;> simp_all
  | silent =>
    simp only [run_copy]
    rw [copyBlocks]
    split <;> simp_all

/-- Copying is done where a read brings nothing. -/
theorem run_copy_nothing {source rest : Source}
    (received : source.read blockSize = (.ok [], rest)) (sink : Sink) (events : List Event) :
    run copy ⟨source, sink, events⟩ = (.ok (), ⟨rest, sink, events⟩) := by
  simp only [run_copy]
  rw [copyBlocks]
  split <;> simp_all

/-- A block that is received is sent before the next one is read. -/
theorem run_copy_received {source rest : Source} {byte : UInt8} {bytes : Bytes}
    (received : source.read blockSize = (.ok (byte :: bytes), rest)) (sink : Sink)
    (events : List Event) : run copy ⟨source, sink, events⟩ =
      run (do sendOr .nothingCopied (byte :: bytes); copy) ⟨rest, sink, events⟩ := by
  rw [run_bind, run_sendOr, run_copy]
  dsimp only
  rw [copyBlocks]
  split <;> simp_all
  cases wrote : sink.writeAll .nothingCopied (byte :: bytes) with
  | mk outcome later =>
    cases outcome with
    | error failure => rfl
    | ok done => rfl

/-- Copying emits nothing where a read fails. -/
theorem emits_copy_error {source rest : Source} {fault : Fault}
    (lasting : ∀ text, fault ≠ .interrupted text)
    (received : source.read blockSize = (.error fault, rest)) :
    copy.Emits source ⟨copied source.halt?, rest, source.supply, []⟩ := by
  obtain ⟨supplied, halted⟩ := Source.supply_of_read_error lasting received
  rw [supplied, halted]
  refine emits_nothing fun {sink} events _ => ⟨sink.flushed, ?_⟩
  rw [run_copy_error lasting received, List.append_nil]
  rfl

/-- Copying emits nothing where a read brings nothing. -/
theorem emits_copy_nothing {source rest : Source}
    (received : source.read blockSize = (.ok [], rest)) :
    copy.Emits source ⟨copied source.halt?, rest, source.supply, []⟩ := by
  obtain ⟨supplied, halted⟩ := Source.supply_of_read_nothing (by decide) received
  rw [supplied, halted]
  refine emits_nothing fun {sink} events _ => ⟨sink.flushed, ?_⟩
  rw [run_copy_nothing received, List.append_nil]
  rfl

/-- Copying emits what the source supplies, and ends as the source does. -/
theorem exists_emits_copy (source : Source) :
    ∃ left, copy.Emits source ⟨copied source.halt?, left, source.supply, []⟩ := by
  match received : source.read blockSize with
  | (.error (.interrupted text), rest) =>
    obtain ⟨left, emits⟩ := exists_emits_copy rest
    obtain ⟨supplied, halted⟩ := Source.supply_of_read_interrupted received
    rw [supplied, halted]
    exact ⟨left, emits.of_run_eq (run_copy_interrupted received)⟩
  | (.error (.broken text), rest) => exact ⟨rest, emits_copy_error (by simp) received⟩
  | (.error .silent, rest) => exact ⟨rest, emits_copy_error (by simp) received⟩
  | (.ok [], rest) => exact ⟨rest, emits_copy_nothing received⟩
  | (.ok (byte :: bytes), rest) =>
    obtain ⟨left, emits⟩ := exists_emits_copy rest
    obtain ⟨supplied, halted⟩ := Source.supply_of_read_ok received
    rw [supplied, halted]
    exact ⟨left, ((emits_sendOr _ _ rest).seq emits).of_run_eq (run_copy_received received)⟩
termination_by source.weight
decreasing_by
  · exact Source.weight_read_error_lt received
  · exact (Source.weight_read_ok_lt received (by simp)).2

end Transfer

namespace Handler

/-- The byte echo emits what its source supplies, and ends as the source does. -/
theorem exists_emits_answerRaw (source : Source) :
    ∃ left, answerRaw.Emits source ⟨Transfer.copied source.halt?, left, source.supply, []⟩ := by
  obtain ⟨left, copies⟩ := Transfer.exists_emits_copy source
  refine ⟨left, ?_⟩
  unfold answerRaw
  cases halted : source.halt? with
  | none =>
    rw [halted] at copies
    have whole := copies.seq (Transfer.emits_flush left).handedOn
    rwa [List.append_nil, List.append_nil] at whole
  | some fault =>
    rw [halted] at copies
    exact copies.bind_error

/-- The echo of bodies emits the answer for a request that is read. -/
theorem emits_answerHttp_of_ok {source : Source} {request : Request}
    (accepted : (Request.read source).outcome = .ok request) :
    answerHttp.Emits source
      ⟨.ok (), (Request.read source).source, echoOf request.body, []⟩ := by
  have receives := Transfer.emits_receive Request.read source
  have renders := Transfer.emits_liftExcept (.ok (echoOf request.body)) (Request.read source).source
  have sends := Transfer.emits_send (echoOf request.body) (Request.read source).source
  rw [accepted] at receives
  refine receives.behind ?_
  rw [render_echoResponse]
  exact renders.behind sends.handedOn

/-- The echo of bodies emits nothing where no request is read. -/
theorem emits_answerHttp_of_error {source : Source} {failure : Failure}
    (refused : (Request.read source).outcome = .error failure) :
    answerHttp.Emits source ⟨.error failure, (Request.read source).source, [], []⟩ := by
  have receives := Transfer.emits_receive Request.read source
  rw [refused] at receives
  exact receives.bind_error

/-- A library emits its answer for the path, and leaves the source as it is. -/
theorem emits_answerFrom (library : Library) (descriptor : Descriptor) (source : Source) :
    (answerFrom library descriptor).Emits source
      ⟨.ok (), source, answered library descriptor.path, noted library descriptor⟩ := by
  have sends := (Transfer.emits_send (answered library descriptor.path) source).handedOn
  refine ⟨fun {sink} events patient fits => ?_, fun {sink} events patient tight => ?_⟩
  · obtain ⟨flushed, result⟩ := sends.whole (events ++ noted library descriptor) patient fits
    exact ⟨flushed, by rw [run_answerFrom_eq, result, List.append_nil]⟩
  · obtain ⟨failure, left, flushed, log, result⟩ :=
      sends.cut (events ++ noted library descriptor) patient tight
    exact ⟨failure, left, flushed, log, by rw [run_answerFrom_eq, result]⟩

/-- A standard handler emits the same to every sink. -/
theorem Standard.exists_emits {handler : Handler} (standard : handler.Standard)
    (descriptor : Descriptor) (source : Source) :
    ∃ emission, (handler.proxy descriptor).Emits source emission := by
  obtain raw | http | ⟨library, files⟩ := standard.proxy_eq descriptor
  · obtain ⟨left, emits⟩ := exists_emits_answerRaw source
    rw [raw]
    exact ⟨_, emits⟩
  · rw [http]
    cases outcome : (Request.read source).outcome with
    | ok request => exact ⟨_, emits_answerHttp_of_ok outcome⟩
    | error failure => exact ⟨_, emits_answerHttp_of_error outcome⟩
  · rw [files]
    exact ⟨_, emits_answerFrom library descriptor source⟩

/-- On a sink that fails past a limit a standard handler leaves the front of what it sends to a sink
that takes everything, as far as the limit allows, and it succeeds if and only if that is all and it
succeeds there. How many bytes one write takes and how writes fail makes no difference. What a byte
echo sends is what its source supplies, whatever the request is. -/
theorem Standard.truncates {handler : Handler} (standard : handler.Standard)
    (descriptor : Descriptor) (source : Source) (events : List Event) {free tight : Sink}
    (takes : free.TakesAll) (patient : tight.Patient) {limit : Nat}
    (limited : tight.limit = some limit) :
    ∃ sent : Bytes,
      (Transfer.run (handler.proxy descriptor) ⟨source, free, events⟩).2.sink.written.toList =
        free.written.toList ++ sent ∧
      (Transfer.run (handler.proxy descriptor) ⟨source, tight, events⟩).2.sink.written.toList =
        tight.written.toList ++ sent.take (limit - tight.written.size) ∧
      ((Transfer.run (handler.proxy descriptor) ⟨source, tight, events⟩).1 = .ok () ↔
        (Transfer.run (handler.proxy descriptor) ⟨source, free, events⟩).1 = .ok () ∧
          sent.length ≤ limit - tight.written.size) ∧
      (handler = .rawEcho → sent = source.supply ∧
        ((Transfer.run (handler.proxy descriptor) ⟨source, free, events⟩).1 = .ok () ↔
          source.halt? = none)) := by
  obtain ⟨emission, emits⟩ := standard.exists_emits descriptor source
  obtain ⟨outcome, written⟩ := emits.run_takesAll events takes
  obtain ⟨left, succeeds⟩ := emits.run_limited events patient limited
  rw [outcome]
  refine ⟨emission.sent, written, left, succeeds (), ?_⟩
  rintro rfl
  obtain ⟨rest, echoes⟩ := exists_emits_answerRaw source
  rw [proxy] at emits
  obtain ⟨sent, ends⟩ := emits.unique echoes
  refine ⟨sent, ?_⟩
  rw [ends]
  cases source.halt? with
  | none => simp [Transfer.copied]
  | some fault => simp [Transfer.copied]

/-- A source whose second read is interrupted, with an end in front of its last piece. -/
def haltingSource : Source :=
  [.data (.ofString "ab"), .fault (.interrupted "again"), .data (.ofString "cdef"), .data [],
    .data (.ofString "gh")]

/-- A sink that takes two bytes at a time, and none past a limit. -/
def shallowSink (limit : Nat) : Sink := { limit := some limit, perWrite := some 2 }

/-- Six bytes fill a sink that takes six, and one that takes five has the first five of them. -/
theorem truncates_shallow :
    Standard rawEcho ∧ Sink.TakesAll {} ∧ (∀ limit, (shallowSink limit).Patient) ∧
      (Transfer.run (rawEcho.proxy ⟨.other "smtp", "/x"⟩)
        ⟨haltingSource, shallowSink 6, []⟩).1 = .ok () ∧
      (Transfer.run (rawEcho.proxy ⟨.other "smtp", "/x"⟩)
        ⟨haltingSource, shallowSink 5, []⟩).1 ≠ .ok () ∧
      (Transfer.run (rawEcho.proxy ⟨.other "smtp", "/x"⟩)
        ⟨haltingSource, shallowSink 5, []⟩).2.sink.written.toList = Bytes.ofString "abcde" := by
  have takes : Sink.TakesAll {} := Sink.accepting_empty.takesAll
  have patient : ∀ limit, (shallowSink limit).Patient := fun _ => ⟨by simp [shallowSink], rfl⟩
  have supplied : haltingSource.supply = .ofString "abcdef" := by decide +kernel
  obtain ⟨sent, -, -, whole, raw⟩ := Standard.truncates .rawEcho ⟨.other "smtp", "/x"⟩
    haltingSource [] takes (patient 6) rfl
  obtain ⟨rfl, ends⟩ := raw rfl
  obtain ⟨other, -, left, cut, same⟩ := Standard.truncates .rawEcho ⟨.other "smtp", "/x"⟩
    haltingSource [] takes (patient 5) rfl
  obtain ⟨rfl, -⟩ := same rfl
  rw [supplied] at whole left cut
  refine ⟨.rawEcho, takes, patient, whole.2 ⟨ends.2 (by decide +kernel), by decide +kernel⟩, ?_, ?_⟩
  · rw [Ne, cut]
    exact fun fits => absurd fits.2 (by decide +kernel)
  · rw [left]
    decide +kernel

end Handler
end TunnelBench
