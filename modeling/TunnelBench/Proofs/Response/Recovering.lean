import TunnelBench.Proofs.Library.FileResponse
import TunnelBench.Proofs.Text.Marks
import TunnelBench.Proofs.Text.Utf8
import TunnelBench.Text.Decimal

/-!
# Responses are read back from their bytes

A written response is cut at its first empty line, its head at the line ends, the status line
at its first two spaces, and a header line at its first colon. A first line that declares a
length is no header of the response. So the bytes alone tell all that was written, whatever
stands in the body, as long as no text has a carriage return in it, no header name a colon, and
no header the name that declares the length.
-/
namespace TunnelBench

/-- The value of the digits of a number is the number. -/
theorem Decimal.value_toDigits (number : Nat) : value (Nat.toDigits 10 number) = number := by
  have shape : value (Nat.toDigits 10 number) =
      Nat.ofDigitChars 10 (Nat.toDigits 10 number) 0 := by
    rw [value, Nat.ofDigitChars_eq_foldl]
    congr 1
    funext total digit
    rw [Nat.mul_comm]
  rw [shape, Nat.ofDigitChars_toDigits (by decide) (by decide)]

/-- A number is written as the text of its digits. -/
theorem Bytes.ofNat_eq (number : Nat) :
    ofNat number = ofString (String.ofList (Nat.toDigits 10 number)) := by
  rw [ofString, String.toList_ofList, ofNat]

/-- A number is written without any byte that is no digit. -/
theorem Bytes.not_mem_ofNat_of_char (char : Char) (small : char.toNat < 128)
    (other : char.isDigit = false) (number : Nat) : char.toNat.toUInt8 ∉ ofNat number := by
  rw [ofNat_eq]
  apply not_mem_ofString_of_char char small
  rw [String.toList_ofList]
  intro member
  rw [Nat.isDigit_of_mem_toDigits (by decide) (by decide) member] at other
  contradiction

namespace Response

/-- What stands before the first mark, and what stands behind it. -/
def cutAt (mark : UInt8) (bytes : Bytes) : Bytes × Bytes :=
  (bytes.takeWhile (· != mark), (bytes.dropWhile (· != mark)).drop 1)

/-- What stands before the first empty line, and what stands behind it. -/
def headAndBody? (output : Bytes) : Option (Bytes × Bytes) :=
  (afterHead? output).map fun body => (output.take (output.length - (body.length + 4)), body)

/-- The lines of a head, without their ends. -/
def linesOf (head : Bytes) : List Bytes :=
  match head.splitOn 13 with
  | [] => []
  | first :: others => first :: others.map (·.drop 1)

/-- The version with a text. -/
def versionOf? (text : Bytes) : Option Version :=
  [Version.http09, .http10, .http11, .http2, .http3].find? fun version =>
    Bytes.ofString version.text == text

/-- The number with some digits. -/
def numberOf? (digits : Bytes) : Option Nat :=
  (Utf8.decode? digits).map fun text => Decimal.value text.toList

/-- The version, the status and the reason of a status line. -/
def statusOf? (line : Bytes) : Option (Version × Status × String) := do
  let (version, behind) := cutAt 32 line
  let (code, reason) := cutAt 32 behind
  let version ← versionOf? version
  let code ← numberOf? code
  let status ← Status.ofNat? code
  let reason ← Utf8.decode? reason
  some (version, status, reason)

/-- The name and the value of a header line. -/
def headerOf? (line : Bytes) : Option (String × String) := do
  let (name, value) := cutAt 58 line
  let name ← Utf8.decode? name
  let value ← Utf8.decode? (value.drop 1)
  some (name, value)

/-- Whether a header has the name that declares the length of the body. -/
def declaresLength (header : String × String) : Bool := sameHeader header.1 "Content-Length"

/-- The declared length, if the first header declares it, and the other headers. -/
def declaredOf : List (String × String) → Option Nat × List (String × String)
  | [] => (none, [])
  | header :: others =>
    if declaresLength header then (some (Decimal.value header.2.toList), others)
    else (none, header :: others)

/-- The response that some bytes were written for. -/
def recover? (output : Bytes) : Option Written := do
  let (head, body) ← headAndBody? output
  match linesOf head with
  | [] => none
  | first :: others =>
    let (version, status, reason) ← statusOf? first
    let headers ← others.mapM headerOf?
    let (declared, headers) := declaredOf headers
    some ⟨version, status, reason, declared, headers, body⟩

/-- Bytes are cut at the first mark. -/
theorem cutAt_mark {mark : UInt8} {front : Bytes} (plain : mark ∉ front) (back : Bytes) :
    cutAt mark (front ++ mark :: back) = (front, back) := by
  have passes : ∀ byte ∈ front, (byte != mark) = true := by
    intro byte member
    rw [bne_iff_ne]
    rintro rfl
    exact plain member
  have stops : ¬(mark != mark) = true := by
    rw [bne_self_eq_false]
    exact Bool.false_ne_true
  have before : (mark :: back).takeWhile (fun byte => byte != mark) = [] :=
    List.takeWhile_cons_of_neg stops
  have behind : (mark :: back).dropWhile (fun byte => byte != mark) = mark :: back :=
    List.dropWhile_cons_of_neg stops
  rw [cutAt, List.takeWhile_append_of_pos passes, List.dropWhile_append_of_pos passes, before,
    behind, List.append_nil, List.drop_succ_cons, List.drop_zero]

/-- Lines with their ends are lines between line ends, and one more line end. -/
theorem flatMap_line {lines : List Bytes} (given : lines ≠ []) :
    lines.flatMap line = Bytes.lineEnd.intercalate lines ++ Bytes.lineEnd := by
  obtain ⟨first, others, rfl⟩ := List.exists_cons_of_ne_nil given
  rw [intercalate_cons]
  clear given
  induction others generalizing first with
  | nil => simp [line]
  | cons second others ih =>
    rw [List.flatMap_cons, ih, List.flatMap_cons, line]
    simp only [List.append_assoc]

/-- Lines between line ends are found again. -/
theorem linesOf_intercalate {lines : List Bytes} (given : lines ≠ [])
    (plain : ∀ line ∈ lines, 13 ∉ line) :
    linesOf (Bytes.lineEnd.intercalate lines) = lines := by
  obtain ⟨first, others, rfl⟩ := List.exists_cons_of_ne_nil given
  obtain ⟨firstPlain, othersPlain⟩ := List.forall_mem_cons.1 plain
  have marked : others.flatMap (Bytes.lineEnd ++ ·) =
      (others.map (10 :: ·)).flatMap (13 :: ·) := by
    rw [List.flatMap_map]
    rfl
  have free : ∀ part ∈ first :: others.map (10 :: ·), 13 ∉ part := by
    refine List.forall_mem_cons.2 ⟨firstPlain, ?_⟩
    intro part member
    obtain ⟨line, present, rfl⟩ := List.mem_map.1 member
    rw [List.mem_cons, not_or]
    exact ⟨by decide, othersPlain line present⟩
  have dropped : (others.map (10 :: ·)).map (·.drop 1) = others := by
    rw [List.map_map]
    exact List.map_id others
  rw [linesOf, intercalate_cons, marked, splitOn_marked free]
  simp only [dropped]

/-- A head that ends with an empty line is cut off its body. -/
theorem headAndBody?_lines {lines : List Bytes} (given : lines ≠ [])
    (plain : ∀ line ∈ lines, line ≠ [] ∧ 13 ∉ line) (body : Bytes) :
    headAndBody? (lines.flatMap line ++ (Bytes.lineEnd ++ body)) =
      some (Bytes.lineEnd.intercalate lines, body) := by
  have behind := afterHead?_lines given plain body
  have whole : lines.flatMap line ++ (Bytes.lineEnd ++ body) =
      Bytes.lineEnd.intercalate lines ++ (Bytes.lineEnd ++ (Bytes.lineEnd ++ body)) := by
    rw [flatMap_line given, List.append_assoc]
  have lineEnd : Bytes.lineEnd.length = 2 := rfl
  have size : (Bytes.lineEnd.intercalate lines ++
      (Bytes.lineEnd ++ (Bytes.lineEnd ++ body))).length - (body.length + 4) =
        (Bytes.lineEnd.intercalate lines).length := by
    simp only [List.length_append, lineEnd]
    omega
  rw [headAndBody?, behind, Option.map_some, whole, size, List.take_left]

/-- A version is known by its text. -/
theorem versionOf?_text (version : Version) :
    versionOf? (Bytes.ofString version.text) = some version := by
  cases version <;> decide

/-- A number is known by its digits. -/
theorem numberOf?_ofNat (number : Nat) : numberOf? (Bytes.ofNat number) = some number := by
  rw [numberOf?, Utf8.decode?_eq_some.2 (Bytes.ofNat_eq number), Option.map_some,
    String.toList_ofList, Decimal.value_toDigits]

/-- A status is known by its code. -/
theorem ofNat?_code (status : Status) : Status.ofNat? status.code = some status :=
  dif_pos status.three_digits

/-- The status line without its end. -/
def Written.statusText (written : Written) : Bytes :=
  Bytes.ofString written.version.text ++ [32] ++ Bytes.ofNat written.status.code ++ [32] ++
    Bytes.ofString written.reason

/-- The status line is read back. -/
theorem statusOf?_statusText (written : Written) :
    statusOf? written.statusText = some (written.version, written.status, written.reason) := by
  have shape : written.statusText = Bytes.ofString written.version.text ++
      32 :: (Bytes.ofNat written.status.code ++ 32 :: Bytes.ofString written.reason) := by
    simp only [Written.statusText, List.append_assoc, List.cons_append, List.nil_append]
  have version : 32 ∉ Bytes.ofString written.version.text := by
    cases written.version <;> decide
  have code : 32 ∉ Bytes.ofNat written.status.code :=
    Bytes.not_mem_ofNat_of_char ' ' (by decide) (by decide) _
  rw [statusOf?, shape, cutAt_mark version]
  dsimp only
  rw [cutAt_mark code]
  simp only [versionOf?_text, numberOf?_ofNat, ofNat?_code, Utf8.decode?_eq_some.2 rfl, bind,
    Option.bind]

/-- The line of a header without its end. -/
def headerText (header : String × String) : Bytes :=
  Bytes.ofString header.1 ++ Bytes.ofString ": " ++ Bytes.ofString header.2

/-- Between a name and its value stand a colon and a space. -/
theorem headerText_eq (header : String × String) :
    headerText header = Bytes.ofString header.1 ++ 58 :: 32 :: Bytes.ofString header.2 := by
  rw [headerText, List.append_assoc]
  rfl

/-- A header line is read back if the name has no colon. -/
theorem headerOf?_headerText {header : String × String} (plain : ':' ∉ header.1.toList) :
    headerOf? (headerText header) = some header := by
  have name : 58 ∉ Bytes.ofString header.1 :=
    Bytes.not_mem_ofString_of_char ':' (by decide) plain
  rw [headerOf?, headerText_eq, cutAt_mark name]
  simp only [List.drop_succ_cons, List.drop_zero, Utf8.decode?_eq_some.2 rfl, bind, Option.bind]

namespace Written

/-- The headers of all header lines, the declared length in front. -/
def fields (written : Written) : List (String × String) :=
  (match written.declared with
    | some length => [("Content-Length", String.ofList (Nat.toDigits 10 length))]
    | none => []) ++ written.headers

/-- The lines of the head without their ends. -/
def lines (written : Written) : List Bytes :=
  written.statusText :: written.fields.map headerText

/-- A response is written as the lines of its head, an empty line and its body. -/
theorem bytes_eq (written : Written) :
    written.bytes = written.lines.flatMap line ++ (Bytes.lineEnd ++ written.body) := by
  have headerLines : written.headerLines = (written.fields.map headerText).flatMap line := by
    rw [List.flatMap_map, fields, List.flatMap_append, Written.headerLines]
    cases written.declared with
    | none => rfl
    | some length =>
      simp only [Bytes.ofNat_eq, List.flatMap_singleton]
      rfl
  have status : written.statusLine = line written.statusText := rfl
  rw [bytes, headerLines, status, lines, List.flatMap_cons, List.append_assoc]

end Written

/-- A text of some characters has no carriage return if they have none. -/
theorem not_mem_ofList {chars : List Char} (missing : '\r' ∉ chars) :
    '\r' ∉ (String.ofList chars).toList := by
  rw [String.toList_ofList]
  exact missing

/-- A header whose line can be read back, and that does not declare the length of the body. -/
structure PlainHeader (header : String × String) : Prop where
  name : '\r' ∉ header.1.toList
  colonless : ':' ∉ header.1.toList
  value : '\r' ∉ header.2.toList
  undeclared : declaresLength header = false

namespace Written

/-- A response whose texts stay on their lines. -/
structure Unbroken (written : Written) : Prop where
  reason : '\r' ∉ written.reason.toList
  headers : ∀ header ∈ written.headers, '\r' ∉ header.1.toList ∧ '\r' ∉ header.2.toList

/-- A response whose texts stay on their lines, and whose header lines can be read back. -/
structure Plain (written : Written) : Prop where
  reason : '\r' ∉ written.reason.toList
  headers : ∀ header ∈ written.headers, PlainHeader header

/-- What can be read back stays on its lines. -/
theorem Plain.unbroken {written : Written} (plain : written.Plain) : written.Unbroken :=
  ⟨plain.reason, fun header present =>
    ⟨(plain.headers header present).name, (plain.headers header present).value⟩⟩

/-- The declared length is told from the headers. -/
theorem declaredOf_fields {written : Written} (plain : written.Plain) :
    declaredOf written.fields = (written.declared, written.headers) := by
  rw [fields]
  cases declared : written.declared with
  | some length =>
    have declares : declaresLength
        ("Content-Length", String.ofList (Nat.toDigits 10 length)) = true :=
      show sameHeader "Content-Length" "Content-Length" = true by decide
    rw [List.singleton_append, declaredOf, if_pos declares, String.toList_ofList,
      Decimal.value_toDigits]
  | none =>
    rw [List.nil_append]
    cases split : written.headers with
    | nil => rfl
    | cons header others =>
      have member : header ∈ written.headers := by
        rw [split]
        exact List.mem_cons_self
      have undeclared : ¬declaresLength header = true := by
        rw [(plain.headers header member).undeclared]
        exact Bool.false_ne_true
      rw [declaredOf, if_neg undeclared]

/-- A property of all headers and of every declaration of a length holds of all fields. -/
theorem forall_mem_fields {written : Written} {test : String × String → Prop}
    (declaration : ∀ length, test ("Content-Length", String.ofList (Nat.toDigits 10 length)))
    (headers : ∀ header ∈ written.headers, test header) :
    ∀ header ∈ written.fields, test header := by
  rw [fields, List.forall_mem_append]
  refine ⟨?_, headers⟩
  cases written.declared with
  | none => exact List.forall_mem_nil _
  | some length => exact List.forall_mem_singleton.2 (declaration length)

/-- No field has a carriage return. -/
theorem fields_unbroken {written : Written} (unbroken : written.Unbroken) :
    ∀ header ∈ written.fields, '\r' ∉ header.1.toList ∧ '\r' ∉ header.2.toList := by
  have name : '\r' ∉ "Content-Length".toList := by decide
  refine forall_mem_fields (fun length => ⟨name, ?_⟩) unbroken.headers
  apply not_mem_ofList
  intro digit
  have decimal : '\r'.isDigit = true :=
    Nat.isDigit_of_mem_toDigits (by decide) (by decide) digit
  exact absurd decimal (by decide)

/-- No field has a colon in its name. -/
theorem fields_colonless {written : Written} (plain : written.Plain) :
    ∀ header ∈ written.fields, ':' ∉ header.1.toList := by
  have name : ':' ∉ "Content-Length".toList := by decide
  exact forall_mem_fields (fun _ => name) fun header present =>
    (plain.headers header present).colonless

/-- No line of a head is empty or has a carriage return. -/
theorem lines_plain {written : Written} (unbroken : written.Unbroken) :
    ∀ line ∈ written.lines, line ≠ [] ∧ 13 ∉ line := by
  have text : ∀ text : String, '\r' ∉ text.toList → 13 ∉ Bytes.ofString text :=
    fun _ missing => Bytes.not_mem_ofString_of_char '\r' (by decide) missing
  refine List.forall_mem_cons.2 ⟨?_, ?_⟩
  · have version : 13 ∉ Bytes.ofString written.version.text := by
      cases written.version <;> decide
    have code : 13 ∉ Bytes.ofNat written.status.code := Bytes.not_mem_ofNat _
    have reason := text written.reason unbroken.reason
    rw [statusText]
    simp [version, code, reason]
  · intro line member
    obtain ⟨header, present, rfl⟩ := List.mem_map.1 member
    obtain ⟨name, value⟩ := fields_unbroken unbroken header present
    have mark : 13 ∉ Bytes.ofString ": " := by decide
    have given : Bytes.ofString ": " ≠ [] := by decide
    rw [headerText]
    simp [text _ name, text _ value, mark, given]

/-- The head and the body of a response are told from its bytes, and the lines from its head. -/
theorem headAndBody?_bytes {written : Written} (unbroken : written.Unbroken) :
    headAndBody? written.bytes =
        some (Bytes.lineEnd.intercalate written.lines, written.body) ∧
      linesOf (Bytes.lineEnd.intercalate written.lines) = written.lines := by
  have given : written.lines ≠ [] := List.cons_ne_nil _ _
  have plain := lines_plain unbroken
  rw [bytes_eq]
  exact ⟨headAndBody?_lines given plain written.body,
    linesOf_intercalate given fun line member => (plain line member).2⟩

/-- A response is recovered from its bytes. -/
theorem recover?_bytes {written : Written} (plain : written.Plain) :
    recover? written.bytes = some written := by
  obtain ⟨cut, parted⟩ := headAndBody?_bytes plain.unbroken
  have headers : (written.fields.map headerText).mapM headerOf? = some written.fields := by
    have each := fields_colonless plain
    generalize written.fields = fields at each
    induction fields with
    | nil => rfl
    | cons header others ih =>
      obtain ⟨first, later⟩ := List.forall_mem_cons.1 each
      rw [List.map_cons, List.mapM_cons, headerOf?_headerText first, ih later]
      rfl
  rw [recover?, cut]
  simp only [bind, Option.bind, parted]
  rw [lines]
  simp only [statusOf?_statusText, headers, declaredOf_fields plain]

end Written

/-- No registered phrase has a carriage return. -/
theorem phrase_plain {status : Status} {phrase : String} (known : status.phrase? = some phrase) :
    '\r' ∉ phrase.toList := by
  unfold Status.phrase? Status.phraseOf at known
  split at known
  -- The characters of each phrase are found by unification, because decoding it would take long.
  all_goals
    first
    | contradiction
    | rw [← Option.some.inj known]
      exact not_mem_ofList (by decide)

/-- A response whose reason, header names and header values have no carriage return, and whose
header names have no colon and do not declare a length. -/
structure Plain (response : Response) : Prop where
  reason : ∀ reason, response.reason = some reason → '\r' ∉ reason.toList
  headers : ∀ header ∈ response.headers, PlainHeader header

/-- What is written of a response are its own parts. -/
structure Writes (response : Response) (written : Written) : Prop where
  version : written.version = response.version
  status : written.status = response.status
  reason : written.reason = response.writtenReason
  headers : written.headers = response.headers
  /-- A missing body is an empty one. -/
  measured : response.measured = .ok (written.body, written.declared)

/-- A response that can be written is settled as what is written. -/
theorem render_eq_ok {response : Response} {output : Bytes}
    (rendered : response.render = .ok output) :
    ∃ written, response.settle = .ok written ∧ response.Writes written ∧
      written.bytes = output := by
  unfold render at rendered
  cases settled : response.settle with
  | error failure =>
    rw [settled] at rendered
    contradiction
  | ok written =>
    rw [settled] at rendered
    refine ⟨written, rfl, ?_, Except.ok.inj rendered⟩
    unfold settle at settled
    cases measured : response.measured with
    | error failure =>
      rw [measured] at settled
      contradiction
    | ok parts =>
      obtain ⟨body, declared⟩ := parts
      simp only [measured, bind, Except.bind] at settled
      split at settled
      · rw [← Except.ok.inj settled]
        exact ⟨rfl, rfl, rfl, rfl, measured⟩
      · split at settled
        · rw [← Except.ok.inj settled]
          exact ⟨rfl, rfl, rfl, rfl, measured⟩
        · contradiction

/-- The reason that is written has no carriage return if the one that was given has none. -/
theorem writtenReason_plain {response : Response}
    (plain : ∀ reason, response.reason = some reason → '\r' ∉ reason.toList) :
    '\r' ∉ response.writtenReason.toList := by
  rw [writtenReason]
  cases given : response.reason with
  | some reason => exact plain reason given
  | none =>
    cases known : response.status.phrase? with
    | some phrase => exact phrase_plain known
    | none => exact List.not_mem_nil

/-- What is written of a plain response stays on its lines. -/
theorem Writes.plain {response : Response} {written : Written} (writes : response.Writes written)
    (plain : response.Plain) : written.Plain := by
  refine ⟨?_, ?_⟩
  · rw [writes.reason]
    exact writtenReason_plain plain.reason
  · rw [writes.headers]
    exact plain.headers

/-- The bytes of a response alone tell its version, its status, its reason, whether and which length
is declared, its headers in their order and its body. The head that is recovered does not depend on
the body, and two responses with the same bytes are written with the same parts. -/
theorem recover?_of_render {response : Response} (plain : response.Plain) {output : Bytes}
    (rendered : response.render = .ok output) :
    ∃ written, recover? output = some written ∧ response.settle = .ok written ∧
      response.Writes written ∧
      (∀ body, recover? { written with body := body }.bytes =
        some { written with body := body }) ∧
      ∀ other : Response, other.Plain → other.render = .ok output →
        other.settle = .ok written ∧ other.Writes written := by
  obtain ⟨written, settled, writes, bytes⟩ := render_eq_ok rendered
  have recovered := Written.recover?_bytes (writes.plain plain)
  rw [bytes] at recovered
  refine ⟨written, recovered, settled, writes, ?_, ?_⟩
  · intro body
    have texts := writes.plain plain
    exact Written.recover?_bytes ⟨texts.reason, texts.headers⟩
  · intro other otherPlain otherRendered
    obtain ⟨otherWritten, otherSettled, otherWrites, otherBytes⟩ := render_eq_ok otherRendered
    have again := Written.recover?_bytes (otherWrites.plain otherPlain)
    rw [otherBytes, recovered, Option.some.injEq] at again
    rw [again]
    exact ⟨otherSettled, otherWrites⟩

/-- A response without a registered phrase, with an empty header name and an empty value, and with a
body that looks like the end of a head. -/
def puzzling : Response :=
  (((new ⟨299, by decide⟩).withHeader "" " a: b").withHeader "X" "").withBody
    (.ofString "\r\n\r\nContent-Length: 9\r\n\r\n")

/-- The puzzling response can be read back. -/
theorem recover?_puzzling :
    puzzling.Plain ∧ ∃ output written, puzzling.render = .ok output ∧
      recover? output = some written ∧ written.headers = [("", " a: b"), ("X", "")] ∧
      written.body = .ofString "\r\n\r\nContent-Length: 9\r\n\r\n" := by
  have headers : puzzling.headers = [("", " a: b"), ("X", "")] := by decide
  have plain : puzzling.Plain := by
    refine ⟨nofun, ?_⟩
    rw [headers]
    refine List.forall_mem_cons.2 ⟨⟨by decide, by decide, by decide, by decide⟩, ?_⟩
    exact List.forall_mem_singleton.2 ⟨by decide, by decide, by decide, by decide⟩
  have rendered : ∃ output, puzzling.render = .ok output := ⟨_, rfl⟩
  obtain ⟨output, rendered⟩ := rendered
  obtain ⟨written, recovered, -, writes, -⟩ := recover?_of_render plain rendered
  have measured : puzzling.measured =
      .ok (.ofString "\r\n\r\nContent-Length: 9\r\n\r\n", some 25) := rfl
  have parts := writes.measured.symm.trans measured
  refine ⟨plain, output, written, rendered, recovered, writes.headers.trans headers, ?_⟩
  exact (Prod.mk.inj (Except.ok.inj parts)).1

end Response
end TunnelBench
