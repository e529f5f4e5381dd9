import TunnelBench.Proofs.Request.Draft
import TunnelBench.Proofs.Stream.Writing
import TunnelBench.Proofs.Text.Ascii

/-!
# Heads are read as they are written

Each part of a head is read back from the bytes that it is written as: the words of the
request line, the header lines in their order, and the framing that the headers declare.
-/
namespace TunnelBench

namespace RequestHead

/-- A line end and the bytes that part the words of a head are not in tokens. -/
theorem ne_of_isTokenByte {byte other : UInt8} (token : isTokenByte byte = true)
    (outside : isTokenByte other = false) : byte ≠ other := by
  rintro rfl
  rw [token] at outside
  contradiction

/-- No empty line stands before a byte that begins none. -/
theorem reads_emptyLines_bind {α : Type} {next : Unit → Parser α} {first : UInt8} {bytes : Bytes}
    {value : α} (starts : bytes.head? = some first) (notFeed : first ≠ 10) (notReturn : first ≠ 13)
    (nextReads : (next ()).Reads bytes value) : (emptyLines >>= next).Reads bytes value := by
  obtain ⟨tail, rfl⟩ := List.head?_eq_some_iff.1 starts
  intro rest
  have skipped : emptyLines (first :: (tail ++ rest)) = .done () (first :: (tail ++ rest)) := by
    rw [emptyLines.eq_def]
    simp only [beq_iff_eq, notFeed, notReturn, ↓reduceIte]
  exact Parser.bind_eq_done.2 ⟨(), _, skipped, nextReads rest⟩

/-- A method is read with the space behind it. -/
theorem reads_methodPart {method : Bytes} (given : method ≠ [])
    (token : ∀ byte ∈ method, isTokenByte byte = true) :
    methodPart.Reads (method ++ [32]) method := by
  refine Parser.reads_many_bind token (by decide) ?_
  refine (Parser.reads_byte (by decide) _).bind ?_
  refine (Parser.reads_require ?_ _).bind_nil (Parser.reads_pure _)
  exact decide_eq_true given

/-- A target is read with the space behind it. -/
theorem reads_targetPart {bytes : Bytes} {target : String} (given : bytes ≠ [])
    (plain : ∀ byte ∈ bytes, isTargetByte byte = true)
    (decoded : Utf8.decode? bytes = some target) :
    targetPart.Reads (bytes ++ [32]) target := by
  refine Parser.reads_many_bind plain (by decide) ?_
  refine (Parser.reads_byte (by decide) _).bind ?_
  simp only [decoded, if_pos given]
  exact Parser.reads_pure _

/-- A version is read. -/
theorem reads_versionPart (minor : Fin 2) :
    versionPart.Reads (Bytes.ofString "HTTP/1." ++ [Draft.minorDigit minor]) minor := by
  have digit : (Draft.minorDigit minor == 48 || Draft.minorDigit minor == 49) = true ∧
      (Draft.minorDigit minor).toNat - 48 = minor := by
    revert minor
    decide
  refine (Parser.reads_literal _ _).bind ?_
  refine (Parser.reads_byte digit.1 _).bind ?_
  rw [digit.2]
  exact Parser.reads_pure _

/-- Nothing is taken off a value that does not end with a gap. -/
theorem dropTrailing_isGap {value : Bytes} (visible : ∀ byte ∈ value, 32 ≤ byte ∧ byte ≤ 126)
    (closes : value.getLast? ≠ some 32) : Bytes.dropTrailing isGap value = value := by
  unfold Bytes.dropTrailing
  rcases List.eq_nil_or_concat value with rfl | ⟨front, last, rfl⟩
  · rfl
  · have lastVisible := visible last (by simp)
    rw [List.concat_eq_append, List.getLast?_concat] at closes
    have stays : ¬isGap last = true := by
      simp only [isGap, Bool.or_eq_true, beq_iff_eq, not_or]
      refine ⟨fun same => closes (by rw [same]), ?_⟩
      rintro rfl
      exact absurd lastVisible.1 (by decide)
    rw [List.concat_eq_append, List.reverse_concat, List.dropWhile_cons_of_neg stays,
      List.reverse_cons, List.reverse_reverse]

/-- The bytes of visible text may stand in a value. -/
theorem isValueByte_of_visible {byte : UInt8} (visible : 32 ≤ byte ∧ byte ≤ 126) :
    isValueByte byte = true := by
  simp [isValueByte, visible]

/-- A value is read up to the line end, and the space in front of it is skipped. -/
theorem reads_value {α : Type} {next : Bytes → Parser α} {header : Header} (plain : header.Plain)
    {value : α} (nextReads : (next header.value).Reads Bytes.lineEnd value) :
    (Parser.many isGap >>= fun _ => Parser.many isValueByte >>= next).Reads
      ([32] ++ (header.value ++ Bytes.lineEnd)) value := by
  have valueReads : (Parser.many isValueByte >>= next).Reads
      (header.value ++ Bytes.lineEnd) value :=
    Parser.reads_many_bind (fun byte member => isValueByte_of_visible (plain.visible byte member))
      (by decide) nextReads
  have gap : ∀ byte ∈ [32], isGap byte = true := List.forall_mem_singleton.2 (by decide)
  -- The gap ends at the first byte of the value, or at the line end if the value is empty.
  cases split : header.value with
  | nil =>
    rw [split] at valueReads
    exact Parser.reads_many_bind gap (by decide) valueReads
  | cons first later =>
    rw [split] at valueReads
    have visible := plain.visible first (by rw [split]; exact List.mem_cons_self)
    have opens := plain.opens
    rw [split, List.head?_cons, Ne, Option.some.injEq] at opens
    refine Parser.reads_many_bind gap ?_ valueReads
    simp only [isGap, Bool.or_eq_false_iff, beq_eq_false_iff_ne]
    refine ⟨opens, ?_⟩
    rintro rfl
    exact absurd visible.1 (by decide)

/-- A header is read from its line. -/
theorem reads_headerLine {header : Header} (plain : header.Plain) :
    headerLine.Reads header.line header := by
  have colon : (Parser.byte (· == 58) .headerName).Reads [58] 58 := Parser.reads_byte (by decide) _
  have ending : (Parser.newLine .headerValue >>= fun _ => pure header).Reads
      (Bytes.lineEnd ++ []) header := (Parser.reads_newLine _).bind (Parser.reads_pure header)
  refine Parser.reads_many_bind plain.token (by decide) (colon.bind ?_)
  refine (Parser.reads_require (decide_eq_true plain.named) _).bind_nil (reads_value plain ?_)
  rw [dropTrailing_isGap plain.visible plain.closes]
  exact ending

/-- An empty line ends the headers. -/
theorem reads_emptyLineOr_end (another : Parser (List Header)) :
    (emptyLineOr another).Reads Bytes.lineEnd [] := fun _ => rfl

/-- A line that begins with another byte is another header. -/
theorem reads_emptyLineOr {another : Parser (List Header)} {first : UInt8} {bytes : Bytes}
    {headers : List Header} (starts : bytes.head? = some first) (notFeed : first ≠ 10)
    (notReturn : first ≠ 13) (reads : another.Reads bytes headers) :
    (emptyLineOr another).Reads bytes headers := by
  obtain ⟨tail, rfl⟩ := List.head?_eq_some_iff.1 starts
  refine Parser.reads_peek_bind ?_
  simp only [beq_iff_eq, notFeed, notReturn, Bool.or_eq_true, or_self, ↓reduceIte]
  exact reads

/-- Headers are read from their lines, in their order, if there are not too many. -/
theorem reads_headerLines {headers : List Header} (plain : ∀ header ∈ headers, header.Plain)
    {allowed : Nat} (few : headers.length ≤ allowed) :
    (headerLines allowed).Reads (headers.flatMap Header.line ++ Bytes.lineEnd) headers := by
  induction headers generalizing allowed with
  | nil =>
    cases allowed with
    | zero => exact reads_emptyLineOr_end _
    | succ allowed => exact reads_emptyLineOr_end _
  | cons header headers ih =>
    rw [List.forall_mem_cons] at plain
    cases allowed with
    | zero => simp at few
    | succ allowed =>
      obtain ⟨first, tail, start⟩ := List.exists_cons_of_ne_nil plain.1.named
      have token := plain.1.token first (by rw [start]; exact List.mem_cons_self)
      have later := ih plain.2 (Nat.le_of_succ_le_succ few)
      have reads : (headerLine >>= fun header => headerLines allowed >>= fun rest =>
          pure (header :: rest)).Reads
          (header.line ++ (headers.flatMap Header.line ++ Bytes.lineEnd ++ []))
            (header :: headers) :=
        (reads_headerLine plain.1).bind (later.bind (Parser.reads_pure _))
      rw [List.append_nil, ← List.append_assoc, ← List.flatMap_cons] at reads
      have starts : ((header :: headers).flatMap Header.line ++ Bytes.lineEnd).head? =
          some first := by
        rw [List.flatMap_cons, Header.line, start]
        rfl
      exact reads_emptyLineOr starts (ne_of_isTokenByte token (by decide))
        (ne_of_isTokenByte token (by decide)) reads

/-- A head is read from its method, its target, its version and its header lines. -/
theorem reads_wholeHead_of_parts {method word lines : Bytes} {target : String}
    {headers : List Header} {framing : Framing} (given : method ≠ [])
    (token : ∀ byte ∈ method, isTokenByte byte = true)
    (targetReads : targetPart.Reads (word ++ [32]) target) (minor : Fin 2)
    (linesRead : (headerLines headerLimit).Reads lines headers)
    (judged : Framing.ofHeaders headers = .ok framing) :
    wholeHead.Reads
      (method ++ [32] ++ (word ++ [32] ++
        (Bytes.ofString "HTTP/1." ++ [Draft.minorDigit minor] ++ (Bytes.lineEnd ++ lines))))
      ⟨method, target, minor, headers, framing⟩ := by
  obtain ⟨first, tail, start⟩ := List.exists_cons_of_ne_nil given
  have opens := token first (by rw [start]; exact List.mem_cons_self)
  have starts : (method ++ [32] ++ (word ++ [32] ++ (Bytes.ofString "HTTP/1." ++
      [Draft.minorDigit minor] ++ (Bytes.lineEnd ++ lines)))).head? = some first := by
    rw [start]
    rfl
  apply reads_emptyLines_bind starts (ne_of_isTokenByte opens (by decide))
    (ne_of_isTokenByte opens (by decide))
  apply (reads_methodPart given token).bind
  apply targetReads.bind
  apply (reads_versionPart minor).bind
  apply (Parser.reads_newLine .newLine).bind
  rw [← List.append_nil lines]
  apply linesRead.bind
  rw [judged]
  exact Parser.reads_pure _

end RequestHead
end TunnelBench
