import TunnelBench.Proofs.Request.Draft
import TunnelBench.Proofs.Request.FramingRule
import TunnelBench.Proofs.Request.HeadDecision
import TunnelBench.Proofs.Text.Utf8

/-!
# Which lengths are believed

A declared length is a number as texts in general hold it: digits with a value of a machine
word, which may follow a plus sign and have blanks of any kind around them. That is more than
a header should hold. In a head the gaps around a value are taken off before, so a value that
is believed is a run of digits, but for the sign and for blanks outside of ASCII.
-/
namespace TunnelBench

/-- A number as it may be written. -/
structure Numeral where
  lead : List Char
  signed : Bool
  digits : List Char
  trail : List Char
  leads : ∀ char ∈ lead, Blank.isBlank char = true
  trails : ∀ char ∈ trail, Blank.isBlank char = true
  given : digits ≠ []
  decimal : ∀ char ∈ digits, char.isDigit = true
  fits : Decimal.value digits < UInt64.size

namespace Numeral

/-- The sign, if there is one. -/
def sign (numeral : Numeral) : List Char := if numeral.signed then ['+'] else []

/-- The text of a numeral. -/
def text (numeral : Numeral) : List Char :=
  numeral.lead ++ (numeral.sign ++ numeral.digits) ++ numeral.trail

/-- The bytes of a numeral. -/
def bytes (numeral : Numeral) : Bytes := .ofString (.ofList numeral.text)

/-- The number that a numeral stands for. -/
def size (numeral : Numeral) : Nat := Decimal.value numeral.digits

/-- A digit is an ASCII digit. -/
theorem bounds_of_isDigit {char : Char} (digit : char.isDigit = true) :
    48 ≤ char.toNat ∧ char.toNat ≤ 57 := by
  simp only [Char.isDigit, Bool.and_eq_true, decide_eq_true_eq, ge_iff_le,
    UInt32.le_iff_toNat_le] at digit
  exact digit

/-- A digit is no blank and no sign. -/
theorem solid_of_isDigit {char : Char} (digit : char.isDigit = true) :
    Blank.isBlank char = false ∧ char ≠ '+' := by
  obtain ⟨least, most⟩ := bounds_of_isDigit digit
  constructor
  · simp only [Blank.isBlank, Bool.or_eq_false_iff, Bool.and_eq_false_iff,
      decide_eq_false_iff_not, beq_eq_false_iff_ne]
    omega
  · rintro rfl
    revert digit
    decide

/-- What stands between the blanks is the sign and the digits. -/
theorem isCore_text (numeral : Numeral) :
    IsCore Blank.isBlank numeral.text (numeral.sign ++ numeral.digits) where
  stands := ⟨numeral.lead, numeral.trail, rfl, numeral.leads, numeral.trails⟩
  begins := by
    intro first front
    by_cases signed : numeral.signed = true
    · simp only [sign, signed, ↓reduceIte, List.singleton_append, List.head?_cons,
        Option.mem_some_iff] at front
      rw [← front]
      decide
    · simp only [sign, signed, Bool.false_eq_true, ↓reduceIte, List.nil_append] at front
      exact (solid_of_isDigit (numeral.decimal first (List.mem_of_mem_head? front))).1
  ends := by
    intro last back
    rw [List.getLast?_append_of_ne_nil _ numeral.given] at back
    exact (solid_of_isDigit (numeral.decimal last (List.mem_of_mem_getLast? back))).1

/-- The sign is dropped and the digits are kept. -/
theorem dropPlus_digits (numeral : Numeral) :
    Decimal.dropPlus (numeral.sign ++ numeral.digits) = numeral.digits := by
  by_cases signed : numeral.signed = true
  · simp only [sign, signed, ↓reduceIte, List.singleton_append]
    rfl
  · simp only [sign, signed, Bool.false_eq_true, ↓reduceIte, List.nil_append]
    unfold Decimal.dropPlus
    split
    · rename_i rest split
      have digit := numeral.decimal '+' (by rw [split]; exact List.mem_cons_self)
      exact absurd rfl (solid_of_isDigit digit).2
    · rfl

/-- A numeral declares its number. -/
theorem declaredLength?_bytes (numeral : Numeral) :
    Framing.declaredLength? numeral.bytes = some numeral.size := by
  have decoded : Utf8.decode? numeral.bytes = some (.ofList numeral.text) :=
    Utf8.decode?_eq_some.2 rfl
  have trimmed := Blank.isCore_iff_trim.1 numeral.isCore_text
  have all : numeral.digits.all Char.isDigit = true := List.all_eq_true.2 numeral.decimal
  have fits : Decimal.value numeral.digits < Framing.sizeBound := numeral.fits
  simp only [Framing.declaredLength?, decoded, bind, Option.bind, String.toList_ofList, trimmed,
    Decimal.read?, numeral.dropPlus_digits]
  rw [if_pos ⟨numeral.given, all, fits⟩]
  rfl

end Numeral

/-- A text is its digits, or a plus sign and its digits. -/
theorem Decimal.dropPlus_cases (chars : List Char) :
    chars = '+' :: dropPlus chars ∨ chars = dropPlus chars := by
  unfold dropPlus
  split
  · exact .inl rfl
  · exact .inr rfl

/-- A value declares a number exactly if it is a numeral for that number. -/
theorem Framing.declaredLength?_eq_some {value : Bytes} {size : Nat} :
    declaredLength? value = some size ↔
      ∃ numeral : Numeral, numeral.bytes = value ∧ numeral.size = size := by
  constructor
  · intro declared
    cases decoded : Utf8.decode? value with
    | none => simp [declaredLength?, decoded] at declared
    | some text =>
      simp only [declaredLength?, decoded, bind, Option.bind, Decimal.read?] at declared
      split at declared
      · rename_i checked
        obtain ⟨given, all, fits⟩ := checked
        obtain ⟨⟨lead, trail, whole, leads, trails⟩, -, -⟩ :=
          Blank.isCore_iff_trim.2 (rfl : Blank.trim text.toList = _)
        have written := Utf8.decode?_eq_some.1 decoded
        rw [Option.some.injEq] at declared
        -- The text is put together again from its blanks, its sign and its digits.
        have assemble : ∀ sign : List Char,
            Blank.trim text.toList = sign ++ Decimal.dropPlus (Blank.trim text.toList) →
              Bytes.ofString (.ofList (lead ++
                (sign ++ Decimal.dropPlus (Blank.trim text.toList)) ++ trail)) = value := by
          intro sign split
          rw [← split, ← whole, String.ofList_toList, written]
        rcases Decimal.dropPlus_cases (Blank.trim text.toList) with plus | plain
        · exact ⟨⟨lead, true, _, trail, leads, trails, given, List.all_eq_true.1 all, fits⟩,
            assemble ['+'] plus, declared⟩
        · exact ⟨⟨lead, false, _, trail, leads, trails, given, List.all_eq_true.1 all, fits⟩,
            assemble [] plain, declared⟩
      · contradiction
  · rintro ⟨numeral, rfl, rfl⟩
    exact numeral.declaredLength?_bytes

/-- A value as it stands in a head: without gaps at its ends. -/
structure Header.Bare (header : Header) : Prop where
  visible : ∀ byte ∈ header.value, RequestHead.isValueByte byte = true
  begins : ∀ first ∈ header.value.head?, RequestHead.isGap first = false
  ends : ∀ last ∈ header.value.getLast?, RequestHead.isGap last = false

namespace RequestHead

/-- The gaps around a value are taken off. -/
theorem bare_of_headerLine {bytes rest : Bytes} {header : Header}
    (read : headerLine bytes = .done header rest) : header.Bare := by
  unfold headerLine at read
  obtain ⟨name, afterName, -, read⟩ := Parser.bind_eq_done.1 read
  obtain ⟨-, afterColon, -, read⟩ := Parser.bind_eq_done.1 read
  obtain ⟨-, start, -, read⟩ := Parser.bind_eq_done.1 read
  obtain ⟨gap, afterGap, gapRead, read⟩ := Parser.bind_eq_done.1 read
  obtain ⟨value, afterValue, valueRead, read⟩ := Parser.bind_eq_done.1 read
  obtain ⟨-, behind, -, read⟩ := Parser.bind_eq_done.1 read
  obtain ⟨rfl, -⟩ := Parser.pure_eq_done.1 read
  have begins : ∀ first ∈ value.head?, isGap first = false := by
    intro first front
    have stops := List.head?_dropWhile_not isGap start
    rw [(Parser.eq_of_many valueRead).1, (Parser.eq_of_many gapRead).2, List.head?_takeWhile,
      Option.mem_def, Option.filter_eq_some_iff] at front
    rw [front.1] at stops
    simpa using stops
  have core : IsCore isGap value (Bytes.dropTrailing isGap value) := by
    have untouched := dropWhile_of_begins begins
    have whole := isCore_dropWhile isGap value
    rwa [untouched] at whole
  refine ⟨?_, core.begins, core.ends⟩
  intro byte member
  obtain ⟨lead, trail, split, -, -⟩ := core.stands
  have inside : byte ∈ value := by
    rw [split]
    exact List.mem_append_left _ (List.mem_append_right _ member)
  rw [(Parser.eq_of_many valueRead).1] at inside
  exact List.mem_takeWhile_imp inside

/-- Where no empty line ends the headers, there is another one. -/
theorem emptyLineOr_eq_done {another : Parser (List Header)} {bytes rest : Bytes}
    {headers : List Header} (read : emptyLineOr another bytes = .done headers rest) :
    headers = [] ∨ another bytes = .done headers rest := by
  unfold emptyLineOr at read
  obtain ⟨first, same, peeked, read⟩ := Parser.bind_eq_done.1 read
  have kept : same = bytes := by
    cases bytes with
    | nil => contradiction
    | cons byte later => exact (Progress.done.inj peeked).2.symm
  split at read
  · obtain ⟨-, behind, -, read⟩ := Parser.bind_eq_done.1 read
    exact .inl (Parser.pure_eq_done.1 read).1.symm
  · rw [kept] at read
    exact .inr read

/-- No value in a head has gaps at its ends. -/
theorem bare_of_headerLines {allowed : Nat} {bytes rest : Bytes} {headers : List Header}
    (read : headerLines allowed bytes = .done headers rest) : ∀ header ∈ headers, header.Bare := by
  induction allowed generalizing bytes rest headers with
  | zero =>
    rcases emptyLineOr_eq_done read with rfl | more
    · simp
    · obtain ⟨header, behind, -, refused⟩ := Parser.bind_eq_done.1 more
      contradiction
  | succ allowed ih =>
    rcases emptyLineOr_eq_done read with rfl | more
    · simp
    · obtain ⟨header, behind, lineRead, more⟩ := Parser.bind_eq_done.1 more
      obtain ⟨later, last, laterRead, more⟩ := Parser.bind_eq_done.1 more
      obtain ⟨rfl, -⟩ := Parser.pure_eq_done.1 more
      rw [List.forall_mem_cons]
      exact ⟨bare_of_headerLine lineRead, ih laterRead⟩

/-- The lines of a head, before its framing is judged. -/
structure Lines where
  method : Bytes
  target : String
  version : Nat
  headers : List Header
  deriving DecidableEq, Repr

/-- Reads the lines of a head. -/
def lines : Parser Lines := do
  emptyLines
  let method ← methodPart
  let target ← targetPart
  let version ← versionPart
  Parser.newLine .newLine
  let headers ← headerLines headerLimit
  pure ⟨method, target, version, headers⟩

/-- A head from its lines. -/
def Lines.judged (lines : Lines) : Parser RequestHead :=
  match Framing.ofHeaders lines.headers with
  | .ok framing => pure ⟨lines.method, lines.target, lines.version, lines.headers, framing⟩
  | .error reason => Parser.fail reason

/-- The framing of a head is judged when its lines have been read. -/
theorem wholeHead_eq : wholeHead = lines >>= Lines.judged := by
  simp only [lines, Parser.bind_assoc]
  rfl

/-- The values in the lines of a head have no gaps at their ends. -/
theorem bare_of_lines {bytes rest : Bytes} {read : Lines} (found : lines bytes = .done read rest) :
    ∀ header ∈ read.headers, header.Bare := by
  unfold lines at found
  obtain ⟨-, afterEmpty, -, found⟩ := Parser.bind_eq_done.1 found
  obtain ⟨method, afterMethod, -, found⟩ := Parser.bind_eq_done.1 found
  obtain ⟨target, afterTarget, -, found⟩ := Parser.bind_eq_done.1 found
  obtain ⟨version, afterVersion, -, found⟩ := Parser.bind_eq_done.1 found
  obtain ⟨-, afterLine, -, found⟩ := Parser.bind_eq_done.1 found
  obtain ⟨headers, behind, headersRead, found⟩ := Parser.bind_eq_done.1 found
  obtain ⟨rfl, -⟩ := Parser.pure_eq_done.1 found
  exact bare_of_headerLines headersRead

/-- A head that is found has been judged well. -/
theorem exists_lines {bytes rest : Bytes} {head : RequestHead}
    (found : parse bytes = .done head rest) :
    ∃ read, lines bytes = .done read rest ∧ read.headers = head.headers ∧
      Framing.ofHeaders head.headers = .ok head.framing := by
  rw [parse_eq_done, wholeHead_eq] at found
  obtain ⟨read, behind, linesRead, judged⟩ := Parser.bind_eq_done.1 found
  unfold Lines.judged at judged
  cases framed : Framing.ofHeaders read.headers with
  | error reason =>
    rw [framed] at judged
    contradiction
  | ok framing =>
    rw [framed] at judged
    obtain ⟨rfl, rfl⟩ := Parser.pure_eq_done.1 judged
    exact ⟨read, linesRead, rfl, framed⟩

/-- Lines that are judged badly are refused. -/
theorem parse_of_lines_error {bytes rest : Bytes} {read : Lines} {reason : Malformed}
    (found : lines bytes = .done read rest)
    (refused : Framing.ofHeaders read.headers = .error reason) :
    parse bytes = .failed reason := by
  rw [parse_eq_failed, wholeHead_eq, Parser.bind_of_done found, Lines.judged, refused]
  exact .inl rfl

/-- Lines that are judged well are a head. -/
theorem parse_of_lines_ok {bytes rest : Bytes} {read : Lines} {framing : Framing}
    (found : lines bytes = .done read rest)
    (framed : Framing.ofHeaders read.headers = .ok framing) :
    parse bytes =
      .done ⟨read.method, read.target, read.version, read.headers, framing⟩ rest := by
  rw [parse_eq_done, wholeHead_eq, Parser.bind_of_done found, Lines.judged, framed]
  rfl

end RequestHead

/-- A run of digits for a machine word. -/
structure IsRun (value : Bytes) (size : Nat) : Prop where
  given : value ≠ []
  decimal : ∀ byte ∈ value, 48 ≤ byte.toNat ∧ byte.toNat ≤ 57
  number : positional 10 (value.map fun byte => byte.toNat - 48) = size
  fits : size < UInt64.size

/-- A run of digits holds no plus sign and no character outside of ASCII. -/
theorem IsRun.plain {value : Bytes} {size : Nat} (run : IsRun value size) :
    43 ∉ value ∧ ∀ byte ∈ value, byte < 128 := by
  constructor
  · intro member
    have digit := run.decimal 43 member
    simp only [UInt8.reduceToNat] at digit
    omega
  · intro byte member
    have digit := run.decimal byte member
    rw [UInt8.lt_iff_toNat_lt]
    simp only [UInt8.reduceToNat]
    omega

/-- An ASCII character of a value is a blank only where it is a gap. -/
theorem isBlank_eq_isGap {byte : UInt8} (ascii : byte < 128)
    (visible : RequestHead.isValueByte byte = true) :
    Blank.isBlank (Char.ofNat byte.toNat) = RequestHead.isGap byte := by
  have checked : ∀ code < 128, RequestHead.isValueByte code.toUInt8 = true →
      Blank.isBlank (Char.ofNat code) = RequestHead.isGap code.toUInt8 := by
    decide +kernel
  have same : byte.toNat.toUInt8 = byte := UInt8.ofNat_toNat
  have plain := checked byte.toNat (UInt8.lt_iff_toNat_lt.1 ascii)
  rw [same] at plain
  exact plain visible

/-- An ASCII character has its byte as its code point. -/
theorem toNat_ofNat_of_ascii {byte : UInt8} (ascii : byte < 128) :
    (Char.ofNat byte.toNat).toNat = byte.toNat := by
  have small := UInt8.lt_iff_toNat_lt.1 ascii
  simp only [UInt8.reduceToNat] at small
  exact Utf8.toNat_ofNat_of_valid (.inl (by omega))

/-- The characters of an ASCII numeral are its bytes. -/
theorem Numeral.text_of_ascii {numeral : Numeral} {value : Bytes} (written : numeral.bytes = value)
    (ascii : ∀ byte ∈ value, byte < 128) :
    numeral.text = value.map fun byte => Char.ofNat byte.toNat := by
  have decoded := Utf8.decode?_eq_some.2 written.symm
  rw [Utf8.decode?_ascii ascii, Option.some.injEq, Bytes.toAscii] at decoded
  exact (String.ofList_injective decoded).symm

/-- In a head no blank of ASCII stands around an ASCII numeral. -/
theorem Header.Bare.text_eq {header : Header} (bare : header.Bare) {numeral : Numeral}
    (written : numeral.bytes = header.value) (ascii : ∀ byte ∈ header.value, byte < 128) :
    numeral.text = numeral.sign ++ numeral.digits := by
  have text := Numeral.text_of_ascii written ascii
  have solid : ∀ byte ∈ header.value, RequestHead.isGap byte = false →
      Blank.isBlank (Char.ofNat byte.toNat) = false := by
    intro byte member gapless
    rw [isBlank_eq_isGap (ascii byte member) (bare.visible byte member), gapless]
  -- No blank stands at an end of the text, so the text is its own core.
  have core : IsCore Blank.isBlank numeral.text numeral.text := by
    refine ⟨⟨[], [], by simp, by simp, by simp⟩, ?_, ?_⟩
    · intro first front
      rw [text, List.head?_map, Option.mem_def, Option.map_eq_some_iff] at front
      obtain ⟨byte, present, rfl⟩ := front
      exact solid byte (List.mem_of_mem_head? present) (bare.begins byte present)
    · intro last back
      rw [text, List.getLast?_map, Option.mem_def, Option.map_eq_some_iff] at back
      obtain ⟨byte, present, rfl⟩ := back
      exact solid byte (List.mem_of_mem_getLast? present) (bare.ends byte present)
  rw [← isCore_iff.1 core, isCore_iff.1 numeral.isCore_text]

/-- A numeral without a sign that has only ASCII characters is a run of digits in a head. -/
theorem Header.Bare.isRun {header : Header} (bare : header.Bare) {numeral : Numeral}
    (written : numeral.bytes = header.value) (unsigned : 43 ∉ header.value)
    (ascii : ∀ byte ∈ header.value, byte < 128) : IsRun header.value numeral.size := by
  have text := Numeral.text_of_ascii written ascii
  have solid := bare.text_eq written ascii
  have plain : numeral.sign = [] := by
    by_cases signed : numeral.signed = true
    · have plus : '+' ∈ numeral.text := by
        rw [solid, Numeral.sign, if_pos signed]
        exact List.mem_cons_self
      rw [text, List.mem_map] at plus
      obtain ⟨byte, member, same⟩ := plus
      have number := toNat_ofNat_of_ascii (ascii byte member)
      rw [same] at number
      have sign : byte = 43 := UInt8.toNat_inj.1 number.symm
      exact absurd (sign ▸ member) unsigned
    · rw [Numeral.sign, if_neg signed]
  have digits : numeral.digits = header.value.map fun byte => Char.ofNat byte.toNat := by
    rw [← text, solid, plain, List.nil_append]
  refine ⟨?_, ?_, ?_, numeral.fits⟩
  · intro empty
    rw [empty, List.map_nil] at digits
    exact numeral.given digits
  · intro byte member
    have present : Char.ofNat byte.toNat ∈ numeral.digits := by
      rw [digits]
      exact List.mem_map_of_mem member
    rw [← toNat_ofNat_of_ascii (ascii byte member)]
    exact Numeral.bounds_of_isDigit (numeral.decimal _ present)
  · have values : header.value.map (fun byte => byte.toNat - 48) =
        numeral.digits.map fun digit => digit.toNat - '0'.toNat := by
      rw [digits, List.map_map]
      apply List.map_congr_left
      intro byte member
      rw [Function.comp_apply, toNat_ofNat_of_ascii (ascii byte member)]
      rfl
    rw [values, positional, List.foldl_map]
    rfl

/-- The value of a header that declares a length stands in a header of that name. -/
theorem Framing.mem_lengths {headers : List Header} {value : Bytes} :
    value ∈ lengths headers ↔
      ∃ header ∈ headers, header.isNamed "content-length" = true ∧ header.value = value := by
  simp [lengths, and_assoc]

/-- A head with a length has a value that declares one, and all of them declare it. -/
theorem RequestHead.lengths_of_parse {bytes rest : Bytes} {head : RequestHead} {size : Nat}
    (found : parse bytes = .done head rest) (measured : head.framing = .length size) :
    Framing.lengths head.headers ≠ [] ∧
      ∀ value ∈ Framing.lengths head.headers, Framing.declaredLength? value = some size := by
  obtain ⟨-, -, -, framed⟩ := exists_lines found
  rw [measured] at framed
  have uncoded : Framing.codings head.headers = [] := by
    by_contra coded
    have last := List.getLast?_eq_some_getLast coded
    rw [Framing.ofHeaders_of_getLast? last, Framing.ofTransferEncoding] at framed
    split at framed
    · simp at framed
    · contradiction
  exact ((Framing.ofHeaders_lengths uncoded).2.1 size).1 framed

namespace RequestHead

/-- All values that declare the length of a head are numerals for it, and runs of digits but for a
plus sign and for characters outside of ASCII. Lines with a value that is no numeral are refused,
unless a transfer coding decides, and numerals that agree are believed. -/
theorem believed_lengths (bytes rest : Bytes) :
    (∀ head size, parse bytes = .done head rest → head.framing = .length size →
      Framing.lengths head.headers ≠ [] ∧ ∀ value ∈ Framing.lengths head.headers,
        (∃ numeral : Numeral, numeral.bytes = value ∧ numeral.size = size) ∧
        (IsRun value size ↔ 43 ∉ value ∧ ∀ byte ∈ value, byte < 128)) ∧
      ∀ read, lines bytes = .done read rest → Framing.codings read.headers = [] →
        (∀ value ∈ Framing.lengths read.headers, (∀ numeral : Numeral, numeral.bytes ≠ value) →
          ∃ reason, parse bytes = .failed reason) ∧
        ∀ size, Framing.lengths read.headers ≠ [] →
          (∀ value ∈ Framing.lengths read.headers,
            ∃ numeral : Numeral, numeral.bytes = value ∧ numeral.size = size) →
          parse bytes = .done
            ⟨read.method, read.target, read.version, read.headers, .length size⟩ rest := by
  refine ⟨?_, ?_⟩
  · intro head size found measured
    obtain ⟨given, declared⟩ := lengths_of_parse found measured
    refine ⟨given, fun value member => ?_⟩
    have numbered := Framing.declaredLength?_eq_some.1 (declared value member)
    refine ⟨numbered, IsRun.plain, ?_⟩
    rintro ⟨unsigned, ascii⟩
    obtain ⟨read, linesRead, same, -⟩ := exists_lines found
    obtain ⟨header, present, -, rfl⟩ := Framing.mem_lengths.1 member
    have bare : header.Bare := bare_of_lines linesRead header (same ▸ present)
    obtain ⟨numeral, written, rfl⟩ := numbered
    exact bare.isRun written unsigned ascii
  · intro read linesRead uncoded
    obtain ⟨-, agreed, refused⟩ := Framing.ofHeaders_lengths uncoded
    refine ⟨?_, ?_⟩
    · intro value member unwritten
      have silent : Framing.declaredLength? value = none := by
        by_contra speaks
        obtain ⟨size, declared⟩ := Option.ne_none_iff_exists'.1 speaks
        obtain ⟨numeral, written, -⟩ := Framing.declaredLength?_eq_some.1 declared
        exact unwritten numeral written
      obtain ⟨reason, failed⟩ := refused.2 (.inl ⟨value, member, silent⟩)
      exact ⟨reason, parse_of_lines_error linesRead failed⟩
    · intro size given numerals
      have declared : ∀ value ∈ Framing.lengths read.headers,
          Framing.declaredLength? value = some size := fun value member =>
        Framing.declaredLength?_eq_some.2 (numerals value member)
      exact parse_of_lines_ok linesRead ((agreed size).2 ⟨given, declared⟩)

/-- A length with a plus sign, and the same one with a zero in front. -/
def signedLengths : Bytes :=
  .ofString "POST / HTTP/1.1\r\nContent-Length: +5\r\ncontent-length:\t05 \r\n\r\nhello"

/-- The head that declares a length so. -/
def signedHead : RequestHead :=
  ⟨.ofString "POST", "/", 1, [⟨.ofString "Content-Length", .ofString "+5"⟩,
    ⟨.ofString "content-length", .ofString "05"⟩], .length 5⟩

/-- Two lengths in one header. -/
def listedLengths : Bytes := .ofString "POST / HTTP/1.1\r\nContent-Length: 5, 5\r\n\r\n"

/-- The lines that hold them. -/
def listedLines : Lines :=
  ⟨.ofString "POST", "/", 1, [⟨.ofString "Content-Length", .ofString "5, 5"⟩]⟩

/-- A length behind a blank that is not of ASCII. -/
def blankLength : Bytes := .ofString "POST / HTTP/1.0\nContent-Length: \u00a05\n\n"

/-- The lines that hold it. -/
def blankLines : Lines :=
  ⟨.ofString "POST", "/", 0, [⟨.ofString "Content-Length", .ofString "\u00a05"⟩]⟩

/-- A sign and a blank outside of ASCII are let through, and a list is not. -/
theorem believed_lengths_of_signed :
    parse signedLengths = .done signedHead (.ofString "hello") ∧ IsRun (.ofString "05") 5 ∧
      (∃ reason, parse listedLengths = .failed reason) ∧
      parse blankLength = .done ⟨.ofString "POST", "/", 0, blankLines.headers, .length 5⟩ [] := by
  have parsed : parse signedLengths = .done signedHead (.ofString "hello") := by decide +kernel
  have plain := ((believed_lengths _ _).1 signedHead 5 parsed rfl).2 (.ofString "05")
    (by decide +kernel)
  have unsigned : 43 ∉ Bytes.ofString "05" := by decide +kernel
  have ascii : ∀ byte ∈ Bytes.ofString "05", byte < 128 := by decide +kernel
  have run : IsRun (.ofString "05") 5 := plain.2.2 ⟨unsigned, ascii⟩
  have listed : lines listedLengths = .done listedLines [] := by decide +kernel
  have refused := ((believed_lengths _ _).2 listedLines listed (by decide +kernel)).1
    (.ofString "5, 5") (by decide +kernel)
  have blank : lines blankLength = .done blankLines [] := by decide +kernel
  have values : Framing.lengths blankLines.headers = [.ofString "\u00a05"] := by decide +kernel
  have declared : Framing.declaredLength? (.ofString "\u00a05") = some 5 := by decide +kernel
  have framed := ((believed_lengths _ _).2 blankLines blank (by decide +kernel)).2 5
    (by decide +kernel)
  refine ⟨parsed, run, refused ?_, framed ?_⟩
  · intro numeral written
    have spoken := Framing.declaredLength?_eq_some.2 ⟨numeral, written, rfl⟩
    have silent : Framing.declaredLength? (.ofString "5, 5") = none := by decide +kernel
    rw [silent] at spoken
    exact absurd spoken (Option.some_ne_none _).symm
  · rw [values, List.forall_mem_singleton]
    exact Framing.declaredLength?_eq_some.1 declared

/-- A length with a plus sign is believed, and a plus sign is no digit. -/
theorem signed_length_believed :
    ∃ head, parse (.ofString "POST / HTTP/1.1\r\nContent-Length: +5\r\n\r\n") = .done head [] ∧
      head.framing = .length 5 ∧ Framing.lengths head.headers = [.ofString "+5"] ∧
      ¬IsRun (.ofString "+5") 5 := by
  refine ⟨⟨.ofString "POST", "/", 1, [⟨.ofString "Content-Length", .ofString "+5"⟩], .length 5⟩,
    by decide +kernel, rfl, by decide +kernel, fun run => run.plain.1 ?_⟩
  decide +kernel

end RequestHead

end TunnelBench
