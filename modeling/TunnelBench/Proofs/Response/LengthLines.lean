import TunnelBench.Proofs.Response.Settings
import TunnelBench.Proofs.Text.Trimming
import TunnelBench.Request.Head

/-!
# The lengths that a head states

The head of a written response states a length on every line with the name that declares lengths.
One such line comes from the response itself and is true, because another length is refused. The
headers of a response are not compared with its body: whoever sets one with that name puts a line of
their own into the head.
-/
namespace TunnelBench.Response

/-- The name of a header line: what stands before the first colon. -/
def fieldName (line : Bytes) : Bytes := (cutAt 58 line).1

/-- The value of a header line: what stands behind the first colon, without the gaps around it. -/
def fieldValue (line : Bytes) : Bytes :=
  Bytes.dropTrailing RequestHead.isGap ((cutAt 58 line).2.dropWhile RequestHead.isGap)

/-- Whether a line has the name that declares the length of a body. -/
def statesLength (line : Bytes) : Bool := (fieldName line).sameName (.ofString "Content-Length")

/-- The lengths that a head states, as they are written. -/
def statedLengths (head : Bytes) : List Bytes := ((linesOf head).filter statesLength).map fieldValue

/-- A message that states no length, or once the number of the bytes behind its first empty line. -/
def Consistent (output : Bytes) : Prop := ∃ parts ∈ headAndBody? output,
  statedLengths parts.1 = [] ∨ statedLengths parts.1 = [.ofNat parts.2.length]
  deriving Decidable

/-- The lengths that are stated by the headers of a response. -/
def headerLengths (headers : List (String × String)) : List Bytes :=
  (headers.filter fun header => statesLength (headerText header)).map fun header =>
    fieldValue (headerText header)

/-- Texts that stay on their lines. -/
def Setting.Unbroken : Setting → Prop
  | .reason given => '\r' ∉ given.toList
  | .header name value => '\r' ∉ name.toList ∧ '\r' ∉ value.toList
  | _ => True

/-- A response whose texts stay on their lines. -/
structure Unbroken (response : Response) : Prop where
  reason : ∀ reason, response.reason = some reason → '\r' ∉ reason.toList
  headers : ∀ header ∈ response.headers, '\r' ∉ header.1.toList ∧ '\r' ∉ header.2.toList

/-- Setting a header brings no other texts than its own. -/
theorem forall_mem_setHeader (test : String → Prop) {name value : String} (named : test name)
    (valued : test value) {headers : List (String × String)}
    (all : ∀ header ∈ headers, test header.1 ∧ test header.2) :
    ∀ header ∈ setHeader name value headers, test header.1 ∧ test header.2 := by
  induction headers with
  | nil => exact List.forall_mem_singleton.2 ⟨named, valued⟩
  | cons header rest ih =>
    obtain ⟨first, later⟩ := List.forall_mem_cons.1 all
    rw [setHeader]
    split
    · exact List.forall_mem_cons.2 ⟨⟨first.1, valued⟩, later⟩
    · exact List.forall_mem_cons.2 ⟨first, ih later⟩

/-- A response stays unbroken when an unbroken thing is said about it. -/
theorem Unbroken.apply {response : Response} (unbroken : response.Unbroken) {setting : Setting}
    (plain : setting.Unbroken) : (setting.apply response).Unbroken := by
  obtain ⟨reason, headers⟩ := unbroken
  cases setting with
  | version spoken => exact ⟨reason, headers⟩
  | reason given =>
    refine ⟨fun other same => ?_, headers⟩
    rw [← Option.some.inj same]
    exact plain
  | header name value =>
    obtain ⟨named, valued⟩ := plain
    exact ⟨reason, forall_mem_setHeader (fun text => '\r' ∉ text.toList) named valued headers⟩
  | body bytes => exact ⟨reason, headers⟩
  | reader source => exact ⟨reason, headers⟩
  | length declared => exact ⟨reason, headers⟩

/-- A response of which only unbroken things are said is unbroken. -/
theorem unbroken_described (status : Status) {settings : List Setting}
    (plain : ∀ setting ∈ settings, setting.Unbroken) : (described status settings).Unbroken := by
  induction settings using List.reverseRecOn with
  | nil => exact ⟨nofun, List.forall_mem_nil _⟩
  | append_singleton settings setting ih =>
    obtain ⟨before, last⟩ := List.forall_mem_append.1 plain
    rw [described_concat]
    exact (ih before).apply (last setting (List.mem_singleton_self setting))

/-- What is written of an unbroken response stays on its lines. -/
theorem Unbroken.written {response : Response} (unbroken : response.Unbroken) (bytes : Bytes) :
    (response.written bytes).Unbroken :=
  ⟨writtenReason_plain unbroken.reason, unbroken.headers⟩

/-- The line of a header without a colon in its name states a length if the name is the one that
declares lengths. -/
theorem statesLength_headerText {header : String × String} (plain : ':' ∉ header.1.toList) :
    statesLength (headerText header) = declaresLength header := by
  have name : 58 ∉ Bytes.ofString header.1 := Bytes.not_mem_ofString_of_char ':' (by decide) plain
  rw [statesLength, fieldName, headerText_eq, cutAt_mark name]
  rfl

/-- The value of a line is the core of what stands behind its colon. -/
theorem fieldValue_of_isCore {name behind core : Bytes} (plain : 58 ∉ name)
    (isCore : IsCore RequestHead.isGap behind core) : fieldValue (name ++ 58 :: behind) = core := by
  rw [fieldValue, cutAt_mark plain]
  exact isCore.eq

/-- A number is the value of the line that declares it. -/
theorem fieldValue_declaration (length : Nat) :
    fieldValue (headerText ("Content-Length", toString length)) = .ofNat length := by
  have number : Bytes.ofString (toString length) = .ofNat length := (Bytes.ofNat_eq length).symm
  have name : 58 ∉ Bytes.ofString "Content-Length" := by decide
  have gapless : ∀ byte ∈ Bytes.ofNat length, RequestHead.isGap byte = false := by
    intro byte digit
    rw [Bool.eq_false_iff]
    intro gap
    rw [RequestHead.isGap, Bool.or_eq_true, beq_iff_eq, beq_iff_eq] at gap
    obtain rfl | rfl := gap
    · exact Bytes.not_mem_ofNat_of_char ' ' (by decide) (by decide) length digit
    · exact Bytes.not_mem_ofNat_of_char '\t' (by decide) (by decide) length digit
  have isCore : IsCore RequestHead.isGap (32 :: Bytes.ofNat length) (Bytes.ofNat length) := by
    refine ⟨⟨[32], [], (List.append_nil _).symm, ?_, List.forall_mem_nil _⟩, ?_, ?_⟩
    · exact List.forall_mem_singleton.2 rfl
    · exact fun first front => gapless first (List.mem_of_head? front)
    · exact fun last back => gapless last (List.mem_of_getLast? back)
  rw [headerText_eq, number]
  exact fieldValue_of_isCore name isCore

/-- A status line states no length. -/
theorem statesLength_statusText (final : Written) : statesLength final.statusText = false := by
  have start : ∃ rest, final.statusText = 72 :: rest := by
    cases version : final.version <;> exact ⟨_, by rw [Written.statusText, version]; rfl⟩
  obtain ⟨rest, start⟩ := start
  have named : fieldName final.statusText = 72 :: rest.takeWhile (· != 58) := by
    rw [start]
    rfl
  rw [statesLength, named]
  rfl

/-- The lengths stated by a head are the one that is declared, and those of the headers with the
same name. -/
theorem Written.statedLengths_lines {final : Written} (unbroken : final.Unbroken) :
    statedLengths (Bytes.lineEnd.intercalate final.lines) =
      (final.declared.map Bytes.ofNat).toList ++ headerLengths final.headers := by
  have status : ¬statesLength final.statusText = true := by
    rw [statesLength_statusText]
    exact Bool.false_ne_true
  have own : headerLengths final.lengthHeader?.toList =
      (final.declared.map Bytes.ofNat).toList := by
    rw [lengthHeader?]
    cases final.declared with
    | none => rfl
    | some length =>
      have states : statesLength (headerText ("Content-Length", toString length)) = true := by
        rw [statesLength_headerText (show ':' ∉ "Content-Length".toList by decide)]
        exact show sameHeader "Content-Length" "Content-Length" = true by decide
      simp only [headerLengths, Option.map_some, Option.toList_some, List.filter_cons, states,
        if_true, List.filter_nil, List.map_cons, List.map_nil, fieldValue_declaration]
  have parts : headerLengths (final.lengthHeader?.toList ++ final.headers) =
      headerLengths final.lengthHeader?.toList ++ headerLengths final.headers := by
    rw [headerLengths, List.filter_append, List.map_append]
    rfl
  rw [← own, ← parts, ← fields_eq, statedLengths, (headAndBody?_bytes unbroken).2, lines,
    List.filter_cons_of_neg status, List.filter_map, List.map_map]
  rfl

/-- A written message that stays on its lines is consistent if its headers state no length, or if
they state it once, as it is, and the response declares none itself. -/
theorem Written.consistent_bytes {final : Written} (unbroken : final.Unbroken)
    (fits : ∀ length, final.declared = some length → length = final.body.length) :
    Consistent final.bytes ↔ headerLengths final.headers = [] ∨
      final.declared = none ∧ headerLengths final.headers = [.ofNat final.body.length] := by
  have stated := statedLengths_lines unbroken
  have parts : Consistent final.bytes ↔ statedLengths (Bytes.lineEnd.intercalate final.lines) = [] ∨
      statedLengths (Bytes.lineEnd.intercalate final.lines) = [.ofNat final.body.length] := by
    rw [Consistent, (headAndBody?_bytes unbroken).1]
    simp
  rw [parts, stated]
  cases declares : final.declared with
  | none => simp
  | some length =>
    rw [fits length declares]
    simp

/-- Whatever is said about a response, a length that is declared for it in the end is refused if it
is not the number of the bytes of its body. If no text has a carriage return in it, the head of a
response that is written states the length that the response declares, which is the number of the
bytes behind the first empty line, and all lengths that its own headers state. So the head states
one length at most and a true one exactly if these headers state none, or if they state it once, as
it is, while the response declares none. -/
theorem stated_lengths_exact (status : Status) (settings : List Setting) :
    (∀ bytes length, Carries (lastBody settings) bytes → lastLength settings = some length →
      length ≠ bytes.length →
        (described status settings).render = .error (.lengthMismatch length bytes.length)) ∧
    ((∀ setting ∈ settings, setting.Unbroken) →
      ∀ output, (described status settings).render = .ok output →
        ∃ final head, (described status settings).settle = .ok final ∧
          headAndBody? output = some (head, final.body) ∧ Carries (lastBody settings) final.body ∧
          (∀ length, final.declared = some length → length = final.body.length) ∧
          statedLengths head = (final.declared.map Bytes.ofNat).toList ++
            headerLengths (described status settings).headers ∧
          (Consistent output ↔ headerLengths (described status settings).headers = [] ∨
            final.declared = none ∧ headerLengths (described status settings).headers =
              [.ofNat final.body.length])) := by
  rw [← body_described status, ← contentLength_described status]
  refine ⟨?_, ?_⟩
  · intro bytes length carries own differs
    exact render_of_differs carries own differs
  · intro plain output rendered
    obtain ⟨final, settled, -, rfl⟩ := render_eq_ok rendered
    obtain ⟨bytes, carries, rfl, fits⟩ := carries_of_settle settled
    have unbroken := (unbroken_described status plain).written bytes
    have stated := Written.statedLengths_lines unbroken
    have fits := declared_of_fits fits
    exact ⟨_, _, settled, (Written.headAndBody?_bytes unbroken).1, carries, fits, stated,
      Written.consistent_bytes unbroken fits⟩

/-- A body that is still to be read, behind a header that only looks as if it stated a length. -/
def lookalike : List Setting :=
  [.header "Content-Length-Of" "9", .length (some 4), .reader [.data (.ofString "hello")],
    .length none]

/-- The lookalike states its length once, and a declaration that is not taken back is refused. -/
theorem stated_lengths_of_lookalike :
    (described .ok (lookalike ++ [.length (some 9)])).render = .error (.lengthMismatch 9 5) ∧
      ∃ output, (described .ok lookalike).render = .ok output ∧ Consistent output := by
  have carries : Carries (lastBody lookalike) (.ofString "hello") := .reader (Source.readsOut _)
  have refused := (stated_lengths_exact .ok (lookalike ++ [.length (some 9)])).1
    (.ofString "hello") 9 carries rfl (by decide)
  have plain : ∀ setting ∈ lookalike, setting.Unbroken := by
    simp [lookalike, Setting.Unbroken]
  have rendered : ∃ output, (described .ok lookalike).render = .ok output := ⟨_, rfl⟩
  obtain ⟨output, rendered⟩ := rendered
  obtain ⟨final, head, -, -, -, -, -, decides⟩ :=
    (stated_lengths_exact .ok lookalike).2 plain output rendered
  have silent : headerLengths (described .ok lookalike).headers = [] := by decide
  exact ⟨refused, output, rendered, decides.2 (.inl silent)⟩

/-- A response with a body and a header that states another length. -/
def contradictory : List Setting :=
  [.header "Content-Length" "9", .body (.ofString "hello")]

/-- The contradictory response is written, and its head states both lengths. -/
theorem contradictory_written :
    (∀ setting ∈ contradictory, setting.Unbroken) ∧
      ∃ output, (described .ok contradictory).render = .ok output ∧ ¬Consistent output ∧
        (headAndBody? output).map (fun parts => (statedLengths parts.1, parts.2)) =
          some ([.ofString "5", .ofString "9"], .ofString "hello") := by
  have plain : ∀ setting ∈ contradictory, setting.Unbroken := by
    simp [contradictory, Setting.Unbroken]
  have bytes : (described .ok contradictory).render = .ok (.ofString
    "HTTP/1.0 200 OK\r\nContent-Length: 5\r\nContent-Length: 9\r\n\r\nhello") := by decide
  exact ⟨plain, _, bytes, by decide, by decide⟩

end TunnelBench.Response
