import TunnelBench.Proofs.Request.ChunkedBody
import TunnelBench.Proofs.Request.DeclaredLength
import TunnelBench.Proofs.Request.Delimiting
import TunnelBench.Proofs.Request.HeadRoundTrip
import TunnelBench.Proofs.Request.SizeLines
import TunnelBench.Proofs.Text.Utf8

/-!
# Requests are read as they are written

Reading undoes rendering: whatever a client writes as a request, in whatever pieces it
arrives and whatever stands behind it, is read as the request that the client means.
-/
namespace TunnelBench.Draft

/-- Decimal digits have their values. -/
theorem decimalDigit_char (digit : Fin 10) :
    decimalDigit digit < 128 ∧
      (Char.ofNat (decimalDigit digit).toNat).isDigit = true ∧
      (Char.ofNat (decimalDigit digit).toNat).toNat - '0'.toNat = digit := by
  revert digit
  decide

/-- Decimal digits are valued by their places. -/
theorem value_digits (digits : List (Fin 10)) :
    Decimal.value (digits.map fun digit => Char.ofNat (decimalDigit digit).toNat) =
      positional 10 (digits.map Fin.val) := by
  simp only [Decimal.value, positional, List.foldl_map, (decimalDigit_char _).2.2]

/-- A declared length is written as a numeral. -/
theorem Measured.exists_numeral (body : Measured) :
    ∃ numeral : Numeral, numeral.bytes = body.value ∧ numeral.size = body.data.length := by
  let chars := body.digits.map fun digit => Char.ofNat (decimalDigit digit).toNat
  have given : chars ≠ [] := by
    rw [Ne, List.map_eq_nil_iff]
    exact body.given
  have decimal : ∀ char ∈ chars, char.isDigit = true := by
    intro char member
    obtain ⟨digit, -, rfl⟩ := List.mem_map.1 member
    exact (decimalDigit_char digit).2.1
  have size : Decimal.value chars = body.data.length := (value_digits _).trans body.declares
  have fits : Decimal.value chars < UInt64.size := by
    rw [size]
    exact body.fits
  have small : ∀ byte ∈ body.value, byte < 128 := by
    intro byte member
    obtain ⟨digit, -, rfl⟩ := List.mem_map.1 member
    exact (decimalDigit_char digit).1
  have text : .ofList chars = body.value.toAscii := by
    rw [Bytes.toAscii, value, List.map_map]
    rfl
  refine ⟨⟨[], false, chars, [], by simp, by simp, given, decimal, fits⟩, ?_, size⟩
  have whole : Numeral.bytes ⟨[], false, chars, [], by simp, by simp, given, decimal, fits⟩ =
      .ofString (.ofList chars) := by
    simp [Numeral.bytes, Numeral.text, Numeral.sign]
  rw [whole, text]
  exact (Utf8.decode?_eq_some.1 (Utf8.decode?_ascii small)).symm

/-- A declared length is read as it is written. -/
theorem Measured.declaredLength? (body : Measured) :
    Framing.declaredLength? body.value = some body.data.length :=
  Framing.declaredLength?_eq_some.2 body.exists_numeral

/-- Headers that say nothing about the body are passed over, whatever is looked for. -/
theorem filter_headers (draft : Draft) {name : String}
    (looked : ∀ header : Header, header.IsFree → header.isNamed name = false) :
    draft.headers.filter (·.isNamed name) =
      draft.content.declaration.filter (·.isNamed name) := by
  have passed : ∀ list : List Header, (∀ header ∈ list, header.IsFree) →
      list.filter (·.isNamed name) = [] := by
    intro list free
    rw [List.filter_eq_nil_iff]
    intro header member
    simp [looked header (free header member)]
  have before := passed draft.before fun header member =>
    draft.free header (List.mem_append_left _ member)
  have after := passed draft.after fun header member =>
    draft.free header (List.mem_append_right _ member)
  rw [headers, List.filter_append, List.filter_append, before, after, List.nil_append,
    List.append_nil]

/-- A header that declares a length is no transfer coding. -/
theorem isNamed_contentLength (value : Bytes) :
    (⟨.ofString "Content-Length", value⟩ : Header).isNamed "content-length" = true ∧
      (⟨.ofString "Content-Length", value⟩ : Header).isNamed "transfer-encoding" = false := by
  constructor
  · change (Bytes.ofString "Content-Length").sameName (.ofString "content-length") = true
    decide +kernel
  · change (Bytes.ofString "Content-Length").sameName (.ofString "transfer-encoding") = false
    decide +kernel

/-- The headers declare the framing that the client means. -/
theorem ofHeaders_headers (draft : Draft) :
    Framing.ofHeaders draft.headers = .ok draft.content.framing := by
  have codings : draft.headers.filter (·.isNamed "transfer-encoding") = _ :=
    draft.filter_headers fun _ free => free.2
  have lengths : draft.headers.filter (·.isNamed "content-length") = _ :=
    draft.filter_headers fun _ free => free.1
  rw [Framing.ofHeaders, codings, lengths]
  cases draft.content with
  | absent => rfl
  | measured body =>
    obtain ⟨named, other⟩ := isNamed_contentLength body.value
    simp only [Content.declaration, List.filter_cons, List.filter_nil, named, other, ↓reduceIte,
      Bool.false_eq_true, List.getLast?_nil, List.map_cons, List.map_nil, Framing.agreedLength,
      body.declaredLength?]
    rfl
  | chunked body =>
    have coded : Framing.ofHeaders
        [⟨.ofString "Transfer-Encoding", .ofString "chunked"⟩] = .ok .chunked := rfl
    exact coded

/-- The characters of a path are bytes of a target. -/
theorem isTargetByte_of_isPathChar {char : Char} (plain : isPathChar char = true) :
    char.toNat < 128 ∧ RequestHead.isTargetByte char.toNat.toUInt8 = true := by
  have small : char.toNat < 128 := by
    simp only [isPathChar, Bool.or_eq_true, List.contains_iff_mem] at plain
    obtain alphanum | mark := plain
    · exact lt_of_isAlphanum alphanum
    · have marks : "-._~/?=&%".toList.all (fun mark => mark.toNat < 128) = true := by decide
      exact of_decide_eq_true (List.all_eq_true.1 marks char mark)
  have checked : ∀ code < 128, isPathChar (Char.ofNat code) = true →
      RequestHead.isTargetByte code.toUInt8 = true := by decide +kernel
  refine ⟨small, checked char.toNat small ?_⟩
  rwa [Char.ofNat_toNat]

/-- The path is read with the space behind it. -/
theorem reads_path (draft : Draft) :
    RequestHead.targetPart.Reads (Bytes.ofString draft.path ++ [32]) draft.path := by
  have small : ∀ char ∈ draft.path.toList, char.toNat < 128 := fun char member =>
    (isTargetByte_of_isPathChar (draft.pathPlain char member)).1
  refine RequestHead.reads_targetPart ?_ ?_ (Utf8.decode?_eq_some.2 rfl)
  · rw [Bytes.ofString_ascii small, Ne, List.map_eq_nil_iff, String.toList_eq_nil_iff]
    exact draft.pathGiven
  · intro byte member
    rw [Bytes.ofString_ascii small] at member
    obtain ⟨char, present, rfl⟩ := List.mem_map.1 member
    exact (isTargetByte_of_isPathChar (draft.pathPlain char present)).2

/-- Decimal digits are visible and no blanks. -/
theorem decimalDigit_solid (digit : Fin 10) :
    33 ≤ decimalDigit digit ∧ decimalDigit digit ≤ 126 := by
  revert digit
  decide

/-- A header without blanks in its value fits in a line. -/
theorem plain_of_solid {header : Header} (named : header.name ≠ [])
    (token : ∀ byte ∈ header.name, RequestHead.isTokenByte byte = true)
    (solid : ∀ byte ∈ header.value, 33 ≤ byte ∧ byte ≤ 126) : header.Plain where
  named := named
  token := token
  visible := fun byte member =>
    ⟨UInt8.le_trans (by decide) (solid byte member).1, (solid byte member).2⟩
  opens := fun blank => absurd (solid 32 (List.mem_of_head? blank)).1 (by decide)
  closes := fun blank => absurd (solid 32 (List.mem_of_getLast? blank)).1 (by decide)

/-- The header that declares the body fits in a line. -/
theorem plain_declaration (content : Content) : ∀ header ∈ content.declaration, header.Plain := by
  cases content with
  | absent => exact fun _ member => absurd member List.not_mem_nil
  | measured body =>
    intro header member
    rw [Content.declaration, List.mem_singleton] at member
    subst member
    refine plain_of_solid ?_ ?_ ?_
    · change Bytes.ofString "Content-Length" ≠ []
      decide
    · change ∀ byte ∈ Bytes.ofString "Content-Length", RequestHead.isTokenByte byte = true
      decide +kernel
    · intro byte member
      obtain ⟨digit, _, rfl⟩ := List.mem_map.1 member
      exact decimalDigit_solid digit
  | chunked body =>
    intro header member
    rw [Content.declaration, List.mem_singleton] at member
    subst member
    exact plain_of_solid (by decide) (by decide +kernel) (by decide +kernel)

/-- Every header of a draft fits in a line. -/
theorem plain_headers (draft : Draft) : ∀ header ∈ draft.headers, header.Plain := by
  intro header member
  rw [headers, List.mem_append, List.mem_append] at member
  obtain before | declared | after := member
  · exact draft.plain header (List.mem_append_left _ before)
  · exact plain_declaration draft.content header declared
  · exact draft.plain header (List.mem_append_right _ after)

/-- The words of the request line and the lines behind it are written one after the other. -/
theorem headBytes_eq (draft : Draft) :
    draft.headBytes = draft.method ++ [32] ++ (Bytes.ofString draft.path ++ [32] ++
      (Bytes.ofString "HTTP/1." ++ [minorDigit draft.minor] ++ (Bytes.lineEnd ++
        (draft.headers.flatMap Header.line ++ Bytes.lineEnd)))) := by
  simp only [headBytes, requestLine, List.append_assoc]

/-- The head is read as the client means it. -/
theorem reads_wholeHead (draft : Draft) :
    RequestHead.wholeHead.Reads draft.headBytes draft.head := by
  rw [headBytes_eq]
  exact RequestHead.reads_wholeHead_of_parts draft.methodGiven draft.methodToken draft.reads_path
    draft.minor (RequestHead.reads_headerLines draft.plain_headers draft.few)
    draft.ofHeaders_headers

/-- Hexadecimal digits of either case have their values. -/
theorem digit?_hexDigit (digit : Fin 16 × Bool) :
    Chunk.digit? (hexDigit digit) = some digit.1.val := by
  obtain ⟨digit, upper⟩ := digit
  cases upper with
  | false =>
    revert digit
    decide
  | true =>
    revert digit
    decide

/-- A size line by its parts, with no blanks among them. -/
def SizeLine.spelling (line : SizeLine) : Chunk.Spelling where
  digits := line.digits.map hexDigit
  gap := []
  extension := line.extension
  hexadecimal := by
    intro byte member
    obtain ⟨digit, -, rfl⟩ := List.mem_map.1 member
    rw [Chunk.mem_hexadecimals, digit?_hexDigit]
    rfl
  short := by
    rw [List.length_map]
    exact line.short
  blank := nofun
  single := fun text extended member =>
    absurd (line.printable text extended 13 member).1 (by decide)

/-- The parts of a size line are sent as the line is. -/
theorem SizeLine.bytes_spelling (line : SizeLine) : line.spelling.bytes = line.bytes := by
  obtain ⟨digits, extension, short, printable⟩ := line
  cases extension <;> rfl

/-- The digits of a size line stand for its size. -/
theorem SizeLine.size_spelling (line : SizeLine) : line.spelling.size = line.size := by
  rw [size, positional, List.foldl_map, Chunk.Spelling.size, Chunk.numberFrom, spelling,
    List.foldl_map]
  simp only [digit?_hexDigit, Option.getD_some]

/-- A size line is read as the size that it declares. -/
theorem SizeLine.reads_sizeLine (line : SizeLine) : Chunk.sizeLine.Reads line.bytes line.size := by
  rw [← line.bytes_spelling, ← line.size_spelling]
  exact line.spelling.reads_sizeLine

/-- A chunk is one of the grammar of chunked bodies. -/
def Portion.sized (portion : Portion) : Chunk.Sized where
  line := portion.line.bytes
  data := portion.data
  declares := portion.declares ▸ portion.line.reads_sizeLine.alone
  given := portion.given
  fits := portion.fits

/-- A trailer line is one of the grammar of chunked bodies. -/
def Trailer.line (trailer : Trailer) : Chunk.Trailer where
  text := trailer.text
  given := trailer.given
  single := fun inside => (trailer.single 13 (inside.subset List.mem_cons_self)).1 rfl

/-- A body in chunks is one of the grammar of chunked bodies. -/
def Chunked.parts (body : Chunked) : Chunk.Body where
  chunks := body.portions.map Portion.sized
  last := body.last.bytes
  ends := body.ends ▸ body.last.reads_sizeLine.alone
  trailers := body.trailers.map Trailer.line

/-- The parts of a body in chunks are sent as the body is. -/
theorem Chunked.bytes_parts (body : Chunked) : body.parts.bytes = body.bytes := by
  simp only [Chunk.Body.bytes, parts, bytes, List.flatMap_map]
  rfl

/-- The parts of a body in chunks make up the same data. -/
theorem Chunked.data_parts (body : Chunked) : body.parts.data = body.data := by
  simp only [Chunk.Body.data, parts, data, List.flatMap_map]
  rfl

/-- A head that declares no body is a request. -/
theorem decode_bodiless {start : Bytes} {head : RequestHead}
    (found : RequestHead.parse start = .done head []) (declared : head.framing = .none) :
    Request.staged.decode .start start = (.ok ⟨head, none⟩, []) := by
  have look : Request.Stage.start.step start = .finish ⟨head, none⟩ [] := by
    simp only [Request.Stage.step, found, declared]
  exact Staged.decode_finish look

/-- A request is decoded as the client means it. -/
theorem decode_render (draft : Draft) :
    Request.staged.decode .start draft.render = (.ok draft.request, []) := by
  have found : RequestHead.parse draft.headBytes = .done draft.head [] :=
    RequestHead.parse_eq_done.2 draft.reads_wholeHead.alone
  have declared : draft.head.framing = draft.content.framing := rfl
  unfold render request
  cases content : draft.content with
  | absent =>
    rw [content] at declared
    rw [Content.bytes, List.append_nil]
    exact decode_bodiless found declared
  | measured body =>
    rw [content] at declared
    exact Request.decode_sized found declared
  | chunked body =>
    rw [content] at declared
    have decoded := Request.decode_body draft.head [] body.parts []
    rw [List.append_nil, body.bytes_parts, body.data_parts] at decoded
    rw [Content.bytes, Request.decode_chunked found declared, decoded]
    rfl

/-- A request that a client writes is read as the client means it, in whatever pieces it arrives,
and what stands behind it is left. -/
theorem read_render (draft : Draft) (short : draft.headBytes.length ≤ RequestHead.sizeLimit)
    {pieces : Source} {rest : Bytes} (delivers : pieces.Delivers (draft.render ++ rest))
    (after : Source) :
    ∃ waiting left, Request.read (pieces ++ after) = ⟨.ok draft.request, waiting, left ++ after⟩ ∧
      waiting ++ left.content = rest := by
  obtain ⟨full, arrived⟩ := delivers
  have found : RequestHead.parse draft.headBytes = .done draft.head [] :=
    RequestHead.parse_eq_done.2 draft.reads_wholeHead.alone
  have within : RequestHead.DecidedInLimit (draft.render ++ rest) := by
    rw [render, List.append_assoc]
    exact RequestHead.decidedInLimit_append found short _
  obtain ⟨waiting, left, result, split⟩ :=
    Request.read_of_arrived full arrived within draft.decode_render after
  refine ⟨waiting, left, result, ?_⟩
  rw [arrived, List.append_assoc] at split
  exact (List.append_cancel_left split).symm

/-- The upload is read byte by byte as it is meant, and the byte behind it is left. -/
theorem read_lookalikeUpload :
    lookalikeUpload.headBytes.length ≤ RequestHead.sizeLimit ∧
      Source.Delivers ((lookalikeUpload.render ++ [33]).map fun byte => .data [byte])
        (lookalikeUpload.render ++ [33]) ∧
      ∃ (waiting : Bytes) (left : Source), Request.read
          (((lookalikeUpload.render ++ [33]).map fun byte => .data [byte]) ++ [.fault .silent]) =
        ⟨.ok ⟨⟨.ofString "PUT", "/a?b=c", 1,
            [⟨.ofString "Host", .ofString "x y"⟩,
              ⟨.ofString "Transfer-Encoding", .ofString "chunked"⟩, ⟨.ofString "X-Empty", []⟩],
            .chunked⟩, some (.ofString "0\r\n\r\nGET /")⟩, waiting, left ++ [.fault .silent]⟩ ∧
          waiting ++ left.content = [33] := by
  have short : lookalikeUpload.headBytes.length ≤ RequestHead.sizeLimit := by decide +kernel
  have delivers := Source.delivers_bytewise (lookalikeUpload.render ++ [33])
  exact ⟨short, delivers, read_render lookalikeUpload short delivers [.fault .silent]⟩

end TunnelBench.Draft
