import TunnelBench.Proofs.Stream.Draining

/-!
# Bodies that are read and bodies at hand

A body may be given as bytes, whose length is declared at once, or as a reader, which is read
when the response is written and whose length is known only then. Whatever else is said about
the response after its body, both are written as the same bytes or refused for the same
length. A reader that fails fails the response, whatever length is declared.
-/
namespace TunnelBench.Response

/-- What may be said about a response after its body. -/
inductive Adjustment where
  | version (version : Version)
  | reason (reason : String)
  | header (name value : String)
  | length (length : Nat)

/-- A response with one more thing said about it. -/
def Adjustment.apply : Adjustment → Response → Response
  | .version spoken, response => response.withVersion spoken
  | .reason given, response => response.withReason given
  | .header name value, response => response.withHeader name value
  | .length declared, response => response.withLength (some declared)

/-- A response with several things said about it, one after another. -/
def adjust (adjustments : List Adjustment) (response : Response) : Response :=
  adjustments.foldl (fun response adjustment => adjustment.apply response) response

/-- The length that is declared in the end, by the last who declares one. -/
def declaredBy (before : Nat) : List Adjustment → Nat
  | [] => before
  | .length declared :: later => declaredBy declared later
  | _ :: later => declaredBy before later

/-- A response with a reader, and the same one with the bytes that the reader brings: where the
first declares no length, the second declares the number of the bytes. -/
structure Paired (source : Source) (bytes : Bytes) (left right : Response) : Prop where
  status : left.status = right.status
  reason : left.reason = right.reason
  version : left.version = right.version
  headers : left.headers = right.headers
  reads : left.body = some (.reader source)
  holds : right.body = some (.fixed bytes)
  lengths : right.contentLength = (left.contentLength <|> some bytes.length)

/-- A response without a declared length is paired by setting its body in the two ways. -/
theorem paired_of_undeclared {response : Response} (undeclared : response.contentLength = none)
    (source : Source) (bytes : Bytes) :
    Paired source bytes (response.withReader source) (response.withBody bytes) where
  status := rfl
  reason := rfl
  version := rfl
  headers := rfl
  reads := rfl
  holds := rfl
  lengths := by
    change some bytes.length = (response.contentLength <|> some bytes.length)
    rw [undeclared]
    rfl

variable {source : Source} {bytes : Bytes} {left right : Response}

/-- What is said about both responses keeps them paired. -/
theorem Paired.apply (paired : Paired source bytes left right) (adjustment : Adjustment) :
    Paired source bytes (adjustment.apply left) (adjustment.apply right) := by
  obtain ⟨status, reason, version, headers, reads, holds, lengths⟩ := paired
  cases adjustment with
  | version spoken => exact ⟨status, reason, rfl, headers, reads, holds, lengths⟩
  | reason given => exact ⟨status, rfl, version, headers, reads, holds, lengths⟩
  | header name value =>
    have same := congrArg (setHeader name value) headers
    exact ⟨status, reason, version, same, reads, holds, lengths⟩
  | length declared => exact ⟨status, reason, version, headers, reads, holds, rfl⟩

/-- Responses stay paired however much is said about both. -/
theorem Paired.adjust (paired : Paired source bytes left right) (adjustments : List Adjustment) :
    Paired source bytes (left.adjust adjustments) (right.adjust adjustments) := by
  induction adjustments generalizing left right with
  | nil => exact paired
  | cons adjustment later ih => exact ih (paired.apply adjustment)

/-- Paired responses are written alike if the reader brings the bytes. -/
theorem Paired.render_eq (paired : Paired source bytes left right)
    (drained : source.drain = .ok bytes) : left.render = right.render := by
  have read : left.measured = .ok (bytes, left.contentLength <|> some bytes.length) := by
    simp only [measured, paired.reads, Body.content, drained]
    rfl
  have held : right.measured = .ok (bytes, left.contentLength <|> some bytes.length) := by
    simp only [measured, paired.holds, paired.lengths, Body.content, Body.impliedLength]
    cases left.contentLength <;> rfl
  have phrase : left.writtenReason = right.writtenReason := by
    rw [writtenReason, writtenReason, paired.reason, paired.status]
  rw [render, render, settle, settle, read, held, phrase, paired.version, paired.status,
    paired.headers]

/-- The length that is declared in the end is known from what is said. -/
theorem contentLength_adjust {response : Response} {before : Nat}
    (declared : response.contentLength = some before) (adjustments : List Adjustment) :
    (response.adjust adjustments).contentLength = some (declaredBy before adjustments) := by
  induction adjustments generalizing response before with
  | nil => exact declared
  | cons adjustment later ih =>
    cases adjustment with
    | version spoken => exact ih declared
    | reason given => exact ih declared
    | header name value => exact ih declared
    | length length => exact ih rfl

/-- A response that declares the length of its bytes is written, and another length is refused. -/
theorem render_of_fixed {response : Response} {length : Nat}
    (holds : response.body = some (.fixed bytes))
    (declared : response.contentLength = some length) :
    (length = bytes.length → ∃ message, response.render = .ok message) ∧
      (length ≠ bytes.length → response.render = .error (.lengthMismatch length bytes.length)) := by
  have held : response.measured = .ok (bytes, some length) := by
    simp only [measured, holds, declared]
    rfl
  constructor
  · intro fits
    have settled : response.settle = .ok ⟨response.version, response.status,
        response.writtenReason, some length, response.headers, bytes⟩ := by
      rw [settle, held]
      exact if_pos fits
    exact ⟨_, render_of_settle settled⟩
  · intro differs
    have refused : response.settle = .error (.lengthMismatch length bytes.length) := by
      rw [settle, held]
      exact if_neg differs
    rw [render, refused]
    rfl

/-- A response whose reader fails is not written. -/
theorem render_of_drain_error {response : Response} {fault : Fault}
    (reads : response.body = some (.reader source)) (broken : source.drain = .error fault) :
    response.render = .error (.io (.stream fault)) := by
  have failed : response.measured = .error (.io (.stream fault)) := by
    simp only [measured, reads, Body.content, broken]
    rfl
  rw [render, settle, failed]
  rfl

/-- Every reader brings some bytes, and either ends or fails, in one way only. If it ends, and no
length was declared before the body, the response is written as it is with the bytes for its body:
as the same bytes if the length declared in the end is theirs, which it is if none is declared, and
else refused for that length. If it fails, the response fails with it, whatever is declared. -/
theorem reader_as_bytes (source : Source) :
    (∃ bytes stop, source.ReadsOut bytes stop ∧
      ∀ other last, source.ReadsOut other last → other = bytes ∧ last = stop) ∧
    (∀ (response : Response) (bytes : Bytes) (adjustments : List Adjustment),
      response.contentLength = none → source.ReadsOut bytes none →
        ((response.withReader source).adjust adjustments).render =
          ((response.withBody bytes).adjust adjustments).render ∧
        (declaredBy bytes.length adjustments = bytes.length → ∃ message,
          ((response.withReader source).adjust adjustments).render = .ok message) ∧
        (declaredBy bytes.length adjustments ≠ bytes.length →
          ((response.withReader source).adjust adjustments).render =
            .error (.lengthMismatch (declaredBy bytes.length adjustments) bytes.length))) ∧
    ∀ (response : Response) (bytes : Bytes) (fault : Fault),
      response.body = some (.reader source) → source.ReadsOut bytes (some fault) →
        response.render = .error (.io (.stream fault)) := by
  refine ⟨⟨source.supply, source.halt?, source.readsOut, fun other last out => out.eq⟩, ?_, ?_⟩
  · intro response bytes adjustments undeclared out
    -- The room of the single reads is gone here: what they bring is what the source supplies.
    obtain ⟨rfl, ended⟩ := out.eq
    have drained : source.drain = .ok source.supply := by rw [source.drain_eq, ← ended]
    have paired := (paired_of_undeclared undeclared source source.supply).adjust adjustments
    have same := paired.render_eq drained
    rw [same]
    exact ⟨rfl, render_of_fixed paired.holds (contentLength_adjust rfl adjustments)⟩
  · intro response bytes fault reads out
    have broken : source.drain = .error fault := by rw [source.drain_eq, ← out.eq.2]
    exact render_of_drain_error reads broken

/-- A reader that is interrupted twice and brings three bytes before its end. -/
def hesitantReader : Source :=
  [.fault (.interrupted "signal"), .data (.ofString "ab"), .fault (.interrupted "signal"),
    .data (.ofString "c"), .data [], .data (.ofString "never read")]

/-- A reader that fails behind two bytes. -/
def failingReader : Source :=
  [.data (.ofString "ab"), .fault (.broken "gone"), .data (.ofString "c")]

/-- A length that is declared behind the reader is compared with what the reader brings, and no
length saves a reader that fails. -/
theorem reader_as_bytes_hesitant :
    ((ok.withReader hesitantReader).adjust [.length 4, .header "A" "b", .length 3]).render =
        ((ok.withBody (.ofString "abc")).adjust [.length 4, .header "A" "b", .length 3]).render ∧
      (∃ message, ((ok.withReader hesitantReader).adjust
        [.length 4, .header "A" "b", .length 3]).render = .ok message) ∧
      ((ok.withReader hesitantReader).adjust [.version .http11, .length 4]).render =
        .error (.lengthMismatch 4 3) ∧
      (notFound.withReader failingReader).render = .error (.io (.stream (.broken "gone"))) := by
  have brings : hesitantReader.ReadsOut (.ofString "abc") none := hesitantReader.readsOut
  have fails : failingReader.ReadsOut (.ofString "ab") (some (.broken "gone")) :=
    failingReader.readsOut
  have alike := (reader_as_bytes hesitantReader).2.1 ok (.ofString "abc")
  obtain ⟨same, written, -⟩ := alike [.length 4, .header "A" "b", .length 3] rfl brings
  obtain ⟨-, -, refused⟩ := alike [.version .http11, .length 4] rfl brings
  have broken := (reader_as_bytes failingReader).2.2 (notFound.withReader failingReader)
    (.ofString "ab") (.broken "gone") rfl fails
  exact ⟨same, written rfl, refused (by decide), broken⟩

end TunnelBench.Response
