import Mathlib.Data.List.Induction
import TunnelBench.Proofs.Response.Recovering
import TunnelBench.Proofs.Stream.Draining

/-!
# What is said about a response

A response is described by saying one thing after another about it. For each part of it the last
word counts: for its body the last body that is set, and for the length that it declares the last
setting that declares one or takes it back, where bytes at hand declare their own number and a
reader says nothing. A response whose body can be had is written unless it declares another length.
-/
namespace TunnelBench.Response

/-- One thing that is said about a response. -/
inductive Setting where
  | version (version : Version)
  | reason (reason : String)
  | header (name value : String)
  | body (bytes : Bytes)
  | reader (source : Source)
  /-- A length is declared, or none is from here on. -/
  | length (length : Option Nat)

namespace Setting

/-- A response of which one more thing is said. -/
def apply : Setting → Response → Response
  | .version spoken, response => response.withVersion spoken
  | .reason given, response => response.withReason given
  | .header name value, response => response.withHeader name value
  | .body bytes, response => response.withBody bytes
  | .reader source, response => response.withReader source
  | .length declared, response => response.withLength declared

/-- The header that a setting sets, if it is about a header. -/
def header? : Setting → Option (String × String)
  | .header name value => some (name, value)
  | _ => none

/-- The body that a setting sets, if it is about the body. -/
def body? : Setting → Option Body
  | .body bytes => some (.fixed bytes)
  | .reader source => some (.reader source)
  | _ => none

/-- What a setting says about the declared length, if anything. -/
def length? : Setting → Option (Option Nat)
  | .body bytes => some (some bytes.length)
  | .length declared => some declared
  | _ => none

end Setting

/-- The response with a status of which some things are said, one after another. -/
def described (status : Status) (settings : List Setting) : Response :=
  settings.foldl (fun response setting => setting.apply response) (new status)

/-- The headers that are set, in their order. -/
def headerCalls (settings : List Setting) : List (String × String) :=
  settings.filterMap Setting.header?

/-- The last body that is set. -/
def lastBody (settings : List Setting) : Option Body := (settings.filterMap Setting.body?).getLast?

/-- The last word on the declared length. -/
def lastLength (settings : List Setting) : Option Nat :=
  ((settings.filterMap Setting.length?).getLast?).join

variable (status : Status) (settings : List Setting) (setting : Setting)

/-- The last setting is applied last. -/
theorem described_concat :
    described status (settings ++ [setting]) = setting.apply (described status settings) := by
  rw [described, List.foldl_append]
  rfl

/-- The headers of a response are those that are set, one after another. -/
theorem headers_described : (described status settings).headers =
    (headerCalls settings).foldl (fun headers call => setHeader call.1 call.2 headers) [] := by
  induction settings using List.reverseRecOn with
  | nil => rfl
  | append_singleton settings setting ih =>
    rw [described_concat, headerCalls, List.filterMap_append, List.foldl_append]
    change _ =
      (List.filterMap Setting.header? [setting]).foldl _ ((headerCalls settings).foldl _ [])
    rw [← ih]
    cases setting <;> rfl

/-- The body of a response is the last one that is set. -/
theorem body_described : (described status settings).body = lastBody settings := by
  induction settings using List.reverseRecOn with
  | nil => rfl
  | append_singleton settings setting ih =>
    rw [described_concat, lastBody, List.filterMap_append, List.getLast?_append]
    change _ = Option.or _ (lastBody settings)
    rw [← ih]
    cases setting <;> rfl

/-- The length that a response declares is the last word on it. -/
theorem contentLength_described :
    (described status settings).contentLength = lastLength settings := by
  induction settings using List.reverseRecOn with
  | nil => rfl
  | append_singleton settings setting ih =>
    rw [described_concat, lastLength, List.filterMap_append, List.getLast?_append]
    cases setting with
    | body bytes => rfl
    | length declared => rfl
    | version spoken => exact ih
    | reason given => exact ih
    | header name value => exact ih
    | reader source => exact ih

/-- The bytes that a body stands for: none if there is no body, those at hand, or those that a
reader brings up to its end. -/
inductive Carries : Option Body → Bytes → Prop
  | nothing : Carries none []
  | fixed (bytes : Bytes) : Carries (some (.fixed bytes)) bytes
  | reader {source : Source} {bytes : Bytes} (out : source.ReadsOut bytes none) :
    Carries (some (.reader source)) bytes

/-- A body that stands for some bytes stands for no others. -/
theorem Carries.eq {body : Option Body} {bytes other : Bytes} (carries : Carries body bytes)
    (again : Carries body other) : bytes = other := by
  cases carries with
  | nothing =>
    cases again
    rfl
  | fixed =>
    cases again
    rfl
  | reader out =>
    cases again with
    | reader same => rw [out.eq.1, same.eq.1]

/-- What is written of a response whose body stands for some bytes. -/
def written (response : Response) (bytes : Bytes) : Written where
  version := response.version
  status := response.status
  reason := response.writtenReason
  declared := response.contentLength <|> response.body.bind (·.impliedLength bytes)
  headers := response.headers
  body := bytes

variable {response : Response} {bytes : Bytes}

/-- A length that is written is the one that is declared, or the number of the bytes that a reader
brings. -/
theorem declared_written {length : Nat} :
    (response.written bytes).declared = some length ↔ response.contentLength = some length ∨
      response.contentLength = none ∧ (∃ source, response.body = some (.reader source)) ∧
        length = bytes.length := by
  rw [written]
  cases response.contentLength with
  | some known => simp
  | none =>
    cases response.body with
    | none => simp
    | some body =>
      cases body with
      | fixed data => simp [Body.impliedLength]
      | reader source => simp [Body.impliedLength, eq_comm]

/-- No other length than that of the bytes is written if no other is declared. -/
theorem declared_of_fits
    (fits : ∀ length, response.contentLength = some length → length = bytes.length) :
    ∀ length, (response.written bytes).declared = some length → length = bytes.length := by
  intro length declares
  obtain own | ⟨-, -, measured⟩ := declared_written.1 declares
  · exact fits length own
  · exact measured

/-- The bytes of a body are measured when the response is written. -/
theorem measured_of_carries (carries : Carries response.body bytes) :
    response.measured = .ok (bytes, (response.written bytes).declared) := by
  unfold measured written
  generalize response.body = body at carries
  cases carries with
  | nothing => cases response.contentLength <;> rfl
  | fixed => rfl
  | @reader source bytes out =>
    obtain ⟨supplied, ended⟩ := out.eq
    have drained : source.drain = .ok bytes := by rw [source.drain_eq, ← ended, ← supplied]
    simp only [Body.content, drained]
    rfl

/-- A response is settled by its bytes and the length that is written with them. -/
theorem settle_of_carries (carries : Carries response.body bytes) :
    response.settle = match (response.written bytes).declared with
      | none => .ok (response.written bytes)
      | some length => if length = bytes.length then .ok (response.written bytes)
        else .error (.lengthMismatch length bytes.length) := by
  rw [settle, measured_of_carries carries]
  rfl

/-- A response that declares no length but that of its bytes is settled with them. -/
theorem settle_of_fits (carries : Carries response.body bytes)
    (fits : ∀ length, response.contentLength = some length → length = bytes.length) :
    response.settle = .ok (response.written bytes) := by
  rw [settle_of_carries carries]
  cases declares : (response.written bytes).declared with
  | none => rfl
  | some length => exact if_pos (declared_of_fits fits length declares)

/-- A response that declares another length than that of its bytes is refused for it. -/
theorem settle_of_differs (carries : Carries response.body bytes) {length : Nat}
    (own : response.contentLength = some length) (differs : length ≠ bytes.length) :
    response.settle = .error (.lengthMismatch length bytes.length) := by
  have declares : (response.written bytes).declared = some length := declared_written.2 (.inl own)
  rw [settle_of_carries carries, declares]
  exact if_neg differs

/-- A response that declares another length than that of its bytes is not written. -/
theorem render_of_differs (carries : Carries response.body bytes) {length : Nat}
    (own : response.contentLength = some length) (differs : length ≠ bytes.length) :
    response.render = .error (.lengthMismatch length bytes.length) := by
  rw [render, settle_of_differs carries own differs]
  rfl

/-- A body stands for some bytes, unless it is a reader that fails. -/
theorem carries_or_fails (body : Option Body) : (∃ bytes, Carries body bytes) ∨
    ∃ source fault, body = some (.reader source) ∧ source.drain = .error fault := by
  cases body with
  | none => exact .inl ⟨[], .nothing⟩
  | some body =>
    cases body with
    | fixed data => exact .inl ⟨data, .fixed data⟩
    | reader source =>
      have out := source.readsOut
      have drained := source.drain_eq
      cases halted : source.halt? with
      | none =>
        rw [halted] at out
        exact .inl ⟨source.supply, .reader out⟩
      | some fault =>
        rw [halted] at drained
        exact .inr ⟨source, fault, rfl, drained⟩

/-- A response that is settled has bytes for its body, is written with them, and declares no other
length. -/
theorem carries_of_settle {final : Written} (settled : response.settle = .ok final) :
    ∃ bytes, Carries response.body bytes ∧ final = response.written bytes ∧
      ∀ length, response.contentLength = some length → length = bytes.length := by
  obtain ⟨bytes, carries⟩ | ⟨source, fault, reads, broken⟩ := carries_or_fails response.body
  · have fits : ∀ length, response.contentLength = some length → length = bytes.length := by
      intro length own
      by_contra differs
      rw [settle_of_differs carries own differs] at settled
      contradiction
    rw [settle_of_fits carries fits] at settled
    exact ⟨bytes, carries, (Except.ok.inj settled).symm, fits⟩
  · have failed : response.measured = .error (.io (.stream fault)) := by
      simp only [measured, reads, Body.content, broken]
      rfl
    rw [settle, failed] at settled
    contradiction

namespace Written

/-- The line of a header, made of its two texts. -/
def textLine (header : String × String) : Bytes :=
  .ofString (header.1 ++ ": " ++ header.2 ++ "\r\n")

/-- The header that declares the length, if there is one. -/
def lengthHeader? (written : Written) : Option (String × String) :=
  written.declared.map fun length => ("Content-Length", toString length)

/-- The headers of all lines are the one that declares the length and those of the response. -/
theorem fields_eq (written : Written) :
    written.fields = written.lengthHeader?.toList ++ written.headers := by
  rw [fields, lengthHeader?]
  cases written.declared <;> rfl

/-- The line of a header is made of its two texts. -/
theorem line_headerText (header : String × String) :
    line (headerText header) = textLine header := by
  have lineEnd : Bytes.ofString "\r\n" = Bytes.lineEnd := by decide
  rw [textLine, Bytes.ofString_append, Bytes.ofString_append, Bytes.ofString_append, lineEnd]
  rfl

/-- A response is written as its status line, the line of its length, a line for each of its headers
in their order, an empty line, and its body. -/
theorem bytes_parts (written : Written) : written.bytes = written.statusLine ++
    (written.lengthHeader?.toList.flatMap textLine ++ (written.headers.flatMap textLine ++
      (Bytes.lineEnd ++ written.body))) := by
  have status : written.statusLine = line written.statusText := rfl
  have texts : (fun header => line (headerText header)) = textLine := funext line_headerText
  rw [bytes_eq, lines, List.flatMap_cons, List.flatMap_map, texts, fields_eq, List.flatMap_append,
    status]
  simp only [List.append_assoc]

end Written

end TunnelBench.Response
