import TunnelBench.Proofs.Request.ChunkDecision
import TunnelBench.Proofs.Stream.Writing

/-!
# How sizes of chunks are spelled

A size line is a run of hexadecimal digits, blanks, perhaps an extension behind a semicolon,
and a line end. Lines of this form are accepted and no others, and the size is the number
that the digits stand for. The run may be empty, which stands for zero: a line that starts
with no digit is taken for a last one if it is otherwise well formed, and refused if not.
-/
namespace TunnelBench

namespace Chunk

/-- The hexadecimal digits of either case. -/
def hexadecimals : Bytes := .ofString "0123456789abcdefABCDEF"

/-- What holds of the 256 codes of bytes holds of all bytes. -/
theorem forall_byte {property : UInt8 → Prop}
    (codes : ∀ code < 256, property (UInt8.ofNat code)) (byte : UInt8) : property byte := by
  have holds := codes byte.toNat byte.toNat_lt
  rw [UInt8.ofNat_toNat] at holds
  exact holds

/-- The hexadecimal digits are the bytes that have a value. -/
theorem mem_hexadecimals (byte : UInt8) : byte ∈ hexadecimals ↔ (digit? byte).isSome = true := by
  revert byte
  apply forall_byte
  decide +kernel

/-- Zero is the only digit without a value of its own. -/
theorem digit?_eq_some_zero (byte : UInt8) : digit? byte = some 0 ↔ byte = 48 := by
  revert byte
  apply forall_byte
  decide +kernel

/-- What digits stand for behind digits of a given value. -/
def numberFrom (total : Nat) (run : Bytes) : Nat :=
  run.foldl (fun total byte => total * 16 + (digit? byte).getD 0) total

/-- Digits stand for zero if and only if all of them are zeros. -/
theorem numberFrom_eq_zero {run : Bytes} (hexadecimal : ∀ byte ∈ run, byte ∈ hexadecimals)
    (total : Nat) : numberFrom total run = 0 ↔ total = 0 ∧ ∀ byte ∈ run, byte = 48 := by
  induction run generalizing total with
  | nil => simp [numberFrom]
  | cons byte run ih =>
    rw [List.forall_mem_cons, mem_hexadecimals, Option.isSome_iff_exists] at hexadecimal
    obtain ⟨⟨value, known⟩, later⟩ := hexadecimal
    have zero : byte = 48 ↔ value = 0 := by
      rw [← digit?_eq_some_zero, known, Option.some.injEq]
    have step : numberFrom total (byte :: run) = numberFrom (total * 16 + value) run := by
      rw [numberFrom, List.foldl_cons, known]
      rfl
    have both : total * 16 + value = 0 ↔ total = 0 ∧ value = 0 := by omega
    rw [step, ih later, List.forall_mem_cons, zero, both, and_assoc]

/-- Digits are read up to a byte that is none. -/
theorem digits_of_run {run : Bytes} (hexadecimal : ∀ byte ∈ run, byte ∈ hexadecimals)
    {allowed : Nat} (short : run.length ≤ allowed) {stop : UInt8} (stops : stop ∉ hexadecimals)
    (total : Nat) (later : Bytes) :
    digits allowed total (run ++ stop :: later) = .done (numberFrom total run) (stop :: later) := by
  induction run generalizing allowed total with
  | nil =>
    rw [mem_hexadecimals, Bool.not_eq_true, Option.isSome_eq_false_iff, Option.isNone_iff_eq_none]
      at stops
    rw [List.nil_append, digits, stops]
    rfl
  | cons byte run ih =>
    rw [List.forall_mem_cons, mem_hexadecimals, Option.isSome_iff_exists] at hexadecimal
    obtain ⟨⟨value, known⟩, onward⟩ := hexadecimal
    cases allowed with
    | zero => simp at short
    | succ allowed =>
      rw [List.cons_append, digits, known]
      dsimp only
      rw [ih onward (Nat.le_of_succ_le_succ short), numberFrom, numberFrom, List.foldl_cons, known]
      rfl

/-- Digits that are read are a run in front of a byte that is none. -/
theorem run_of_digits {allowed total size : Nat} {bytes rest : Bytes}
    (result : digits allowed total bytes = .done size rest) :
    ∃ run, bytes = run ++ rest ∧ (∀ byte ∈ run, byte ∈ hexadecimals) ∧ run.length ≤ allowed ∧
      numberFrom total run = size := by
  fun_induction digits allowed total bytes with
  | case1 => contradiction
  | case2 allowed total byte bytes other =>
    cases result
    exact ⟨[], rfl, List.forall_mem_nil _, Nat.zero_le _, rfl⟩
  | case3 => contradiction
  | case4 total byte bytes value known allowed ih =>
    obtain ⟨run, rfl, hexadecimal, short, sum⟩ := ih result
    refine ⟨byte :: run, rfl, List.forall_mem_cons.2 ⟨?_, hexadecimal⟩,
      Nat.succ_le_succ short, ?_⟩
    · rw [mem_hexadecimals, known]
      rfl
    · rw [← sum, numberFrom, List.foldl_cons, known]
      rfl

/-- A size line by its parts. -/
structure Spelling where
  digits : Bytes
  gap : Bytes
  /-- What stands behind a semicolon, if there is one. -/
  extension : Option Bytes
  hexadecimal : ∀ byte ∈ digits, byte ∈ hexadecimals
  short : digits.length ≤ digitLimit
  blank : ∀ byte ∈ gap, isGap byte = true
  single : ∀ text ∈ extension, 13 ∉ text

namespace Spelling

/-- An extension with the semicolon in front of it. -/
def tail (spelling : Spelling) : Bytes :=
  match spelling.extension with
  | none => []
  | some text => 59 :: text

/-- A size line as it is sent. -/
def bytes (spelling : Spelling) : Bytes :=
  spelling.digits ++ (spelling.gap ++ (spelling.tail ++ Bytes.lineEnd))

/-- The size that the digits stand for, which is zero where there are none. -/
def size (spelling : Spelling) : Nat := numberFrom 0 spelling.digits

/-- A size is zero if and only if all its digits are. -/
theorem size_eq_zero (spelling : Spelling) :
    spelling.size = 0 ↔ ∀ byte ∈ spelling.digits, byte = 48 := by
  rw [size, numberFrom_eq_zero spelling.hexadecimal]
  exact and_iff_right rfl

/-- Behind the digits stands a byte that is none. -/
theorem exists_stop (spelling : Spelling) : ∃ stop later, stop ∉ hexadecimals ∧
    spelling.gap ++ (spelling.tail ++ Bytes.lineEnd) = stop :: later := by
  obtain ⟨digits, gap, extension, -, -, blank, -⟩ := spelling
  cases gap with
  | nil =>
    cases extension with
    | none => exact ⟨13, [10], by decide, rfl⟩
    | some text => exact ⟨59, text ++ Bytes.lineEnd, by decide, rfl⟩
  | cons byte gap =>
    refine ⟨byte, _, ?_, rfl⟩
    have either := (List.forall_mem_cons.1 blank).1
    simp only [isGap, Bool.or_eq_true, beq_iff_eq] at either
    obtain rfl | rfl := either <;> decide

/-- A line feed ends a size line. -/
theorem reads_feed (size : Nat) : (Parser.byte (· == 10) .chunkSize >>= fun _ =>
    pure size : Parser Nat).Reads [10] size :=
  (Parser.reads_byte (by decide) _).bind (Parser.reads_pure _)

/-- A size line is read as the size that its digits stand for. -/
theorem reads_sizeLine (spelling : Spelling) : sizeLine.Reads spelling.bytes spelling.size := by
  have carriage : (Parser.byte (· == 13) .chunkSize).Reads [13] 13 :=
    Parser.reads_byte (by decide) _
  obtain ⟨stop, later, stops, split⟩ := spelling.exists_stop
  intro rest
  rw [bytes, split, List.append_assoc, List.cons_append]
  refine Parser.bind_eq_done.2
    ⟨_, _, digits_of_run spelling.hexadecimal spelling.short stops 0 _, ?_⟩
  rw [← List.cons_append, ← split, tail]
  cases extended : spelling.extension with
  | none =>
    have mark : (Parser.byte (fun byte => byte == 13 || byte == 59) .chunkSize).Reads [13] 13 :=
      Parser.reads_byte (by decide) _
    exact Parser.reads_many_bind spelling.blank (by decide) (mark.bind (reads_feed _)) rest
  | some text =>
    have mark : (Parser.byte (fun byte => byte == 13 || byte == 59) .chunkSize).Reads [59] 59 :=
      Parser.reads_byte (by decide) _
    have passes : ∀ byte ∈ text, (byte != 13) = true := by
      intro byte member
      rw [bne_iff_ne]
      rintro rfl
      exact spelling.single text extended member
    exact Parser.reads_many_bind spelling.blank (by decide)
      (mark.bind <| Parser.reads_many_bind passes (by decide) (carriage.bind (reads_feed _))) rest

end Spelling

/-- A line feed that is read is the end of a size line. -/
theorem feed_of_done {size value : Nat} {bytes rest : Bytes}
    (result : (Parser.byte (· == 10) .chunkSize >>= fun _ => pure value : Parser Nat) bytes =
      .done size rest) : bytes = 10 :: rest ∧ value = size := by
  obtain ⟨byte, behind, read, accepted⟩ := Parser.bind_eq_done.1 result
  obtain ⟨rfl, rfl⟩ := Parser.pure_eq_done.1 accepted
  obtain ⟨rfl, passed⟩ := Parser.byte_eq_done.1 read
  rw [beq_iff_eq] at passed
  exact ⟨by rw [passed], rfl⟩

/-- A size line is read where its parts stand, and nowhere else. -/
theorem sizeLine_eq_done {bytes rest : Bytes} {size : Nat} :
    sizeLine bytes = .done size rest ↔
      ∃ spelling : Spelling, bytes = spelling.bytes ++ rest ∧ spelling.size = size := by
  constructor
  · intro result
    obtain ⟨value, behind, digitsRead, lineRead⟩ := Parser.bind_eq_done.1 result
    obtain ⟨gap, marked, gapRead, markedRead⟩ := Parser.bind_eq_done.1 lineRead
    obtain ⟨mark, later, markRead, laterRead⟩ := Parser.bind_eq_done.1 markedRead
    obtain ⟨run, rfl, hexadecimal, short, rfl⟩ := run_of_digits digitsRead
    obtain ⟨blank, rfl⟩ := Parser.all_of_many gapRead
    obtain ⟨rfl, passed⟩ := Parser.byte_eq_done.1 markRead
    rw [Bool.or_eq_true, beq_iff_eq, beq_iff_eq] at passed
    obtain rfl | rfl := passed
    · obtain ⟨rfl, rfl⟩ := feed_of_done laterRead
      refine ⟨⟨run, gap, none, hexadecimal, short, blank, nofun⟩, ?_, rfl⟩
      simp [Spelling.bytes, Spelling.tail, Bytes.lineEnd]
    · obtain ⟨text, closed, textRead, closedRead⟩ := Parser.bind_eq_done.1 laterRead
      obtain ⟨carriage, last, carriageRead, lastRead⟩ := Parser.bind_eq_done.1 closedRead
      obtain ⟨passes, rfl⟩ := Parser.all_of_many textRead
      obtain ⟨rfl, ends⟩ := Parser.byte_eq_done.1 carriageRead
      rw [beq_iff_eq] at ends
      obtain ⟨rfl, rfl⟩ := feed_of_done lastRead
      have single : 13 ∉ text := fun member => by simpa using passes 13 member
      refine ⟨⟨run, gap, some text, hexadecimal, short, blank, ?_⟩, ?_, rfl⟩
      · rintro other ⟨⟩
        exact single
      · simp [Spelling.bytes, Spelling.tail, Bytes.lineEnd, ends]
  · rintro ⟨spelling, rfl, rfl⟩
    exact spelling.reads_sizeLine rest

/-- Some bytes start with a hexadecimal digit. -/
def StartsWithDigit (bytes : Bytes) : Prop := ∃ byte ∈ bytes.head?, byte ∈ hexadecimals
  deriving Decidable

/-- A size line starts with a digit if and only if it has one. -/
theorem Spelling.startsWithDigit_iff (spelling : Spelling) :
    StartsWithDigit spelling.bytes ↔ spelling.digits ≠ [] := by
  unfold StartsWithDigit Spelling.bytes
  cases written : spelling.digits with
  | nil =>
    obtain ⟨stop, later, stops, split⟩ := spelling.exists_stop
    simp [split, stops]
  | cons byte run =>
    have hexadecimal := spelling.hexadecimal byte (by rw [written]; exact List.mem_cons_self)
    simp [hexadecimal]

/-- Bytes that do not start with a digit are read as no digits. -/
theorem digits_of_no_digit {bytes : Bytes} (given : bytes ≠ [])
    (digitless : ¬StartsWithDigit bytes) : digits digitLimit 0 bytes = .done 0 bytes := by
  obtain ⟨stop, later, rfl⟩ := List.exists_cons_of_ne_nil given
  have stops : stop ∉ hexadecimals := by simpa [StartsWithDigit] using digitless
  exact digits_of_run (List.forall_mem_nil _) (Nat.zero_le _) stops 0 later

/-- A byte that does not pass the test is refused. -/
theorem refuses_byte {α : Type} (test : UInt8 → Bool) {byte : UInt8} (fails : test byte = false)
    (reason : Malformed) (next : UInt8 → Parser α) (later : Bytes) :
    (Parser.byte test reason >>= next) (byte :: later) = .failed reason := by
  have refused : Parser.byte test reason (byte :: later) = .failed reason := by
    rw [Parser.byte, fails, if_neg Bool.false_ne_true]
  exact Parser.bind_of_failed refused

/-- A carriage return within a line is refused for the byte behind it. -/
theorem refuses_feed {front behind : Bytes} (single : ¬Bytes.lineEnd <:+: front ++ 13 :: behind)
    (size : Nat) (rest : Bytes) : (Parser.byte (· == 10) .chunkSize >>= fun _ =>
      pure size : Parser Nat) (behind ++ (Bytes.lineEnd ++ rest)) = .failed .chunkSize := by
  cases behind with
  | nil => exact refuses_byte (· == 10) (by decide) _ _ _
  | cons next behind =>
    refine refuses_byte (· == 10) ?_ _ _ _
    rw [beq_eq_false_iff_ne]
    rintro rfl
    exact single ⟨front, behind, by simp [Bytes.lineEnd]⟩

/-- Bytes are a run that passes a test, and what begins at the first byte that does not. -/
theorem exists_run (test : UInt8 → Bool) (bytes : Bytes) :
    ∃ run behind, bytes = run ++ behind ∧ (∀ byte ∈ run, test byte = true) ∧
      ∀ stop later, behind = stop :: later → test stop = false := by
  refine ⟨bytes.takeWhile test, bytes.dropWhile test, List.takeWhile_append_dropWhile.symm,
    List.all_eq_true.1 List.all_takeWhile, fun stop later split => ?_⟩
  simpa [split] using List.head?_dropWhile_not test bytes

/-- A line that starts with no digit, and is no size line, is refused. -/
theorem sizeLine_of_no_digit {text : Bytes} (single : ¬Bytes.lineEnd <:+: text)
    (digitless : ¬StartsWithDigit (text ++ Bytes.lineEnd))
    (unspelled : ∀ spelling : Spelling, spelling.bytes ≠ text ++ Bytes.lineEnd) (rest : Bytes) :
    sizeLine (text ++ (Bytes.lineEnd ++ rest)) = .failed .chunkSize := by
  have undigited : digits digitLimit 0 (text ++ (Bytes.lineEnd ++ rest)) =
      .done 0 (text ++ (Bytes.lineEnd ++ rest)) := by
    refine digits_of_no_digit (by simp [Bytes.lineEnd]) fun digit => digitless ?_
    cases text with
    | nil => exact digit
    | cons byte text => exact digit
  rw [sizeLine, Parser.bind_of_done undigited]
  -- The first byte behind the blanks decides. If the line ended there, or went on with an extension
  -- up to its end, it would be spelled.
  obtain ⟨gap, behind, rfl, blank, stopped⟩ := exists_run isGap text
  cases behind with
  | nil =>
    exact absurd (by simp [Spelling.bytes, Spelling.tail])
      (unspelled ⟨[], gap, none, nofun, Nat.zero_le _, blank, nofun⟩)
  | cons mark behind =>
    have marked : Parser.many isGap (gap ++ mark :: behind ++ (Bytes.lineEnd ++ rest)) =
        .done gap (mark :: (behind ++ (Bytes.lineEnd ++ rest))) := by
      rw [List.append_assoc]
      exact Parser.many_of_stop blank (stopped mark behind rfl) _
    rw [Parser.bind_of_done marked]
    by_cases carriage : mark = 13
    · subst carriage
      rw [Parser.bind_of_done (Parser.byte_eq_done.2 ⟨rfl, by decide⟩)]
      exact refuses_feed single 0 rest
    by_cases semicolon : mark = 59
    · subst semicolon
      rw [Parser.bind_of_done (Parser.byte_eq_done.2 ⟨rfl, by decide⟩)]
      obtain ⟨extension, closing, rfl, passes, closed⟩ := exists_run (· != 13) behind
      cases closing with
      | nil =>
        have unended : ∀ text ∈ some extension, 13 ∉ text := by
          rintro text ⟨⟩ member
          simpa using passes 13 member
        exact absurd (by simp [Spelling.bytes, Spelling.tail])
          (unspelled ⟨[], gap, some extension, nofun, Nat.zero_le _, blank, unended⟩)
      | cons stop behind =>
        obtain rfl : stop = 13 := by simpa using closed stop behind rfl
        have read : Parser.many (· != 13) (extension ++ 13 :: behind ++ (Bytes.lineEnd ++ rest)) =
            .done extension (13 :: (behind ++ (Bytes.lineEnd ++ rest))) := by
          rw [List.append_assoc]
          exact Parser.many_of_stop passes (by decide) _
        have inside : ¬Bytes.lineEnd <:+: (gap ++ 59 :: extension) ++ 13 :: behind := by
          simpa using single
        rw [if_pos (by decide), Parser.bind_of_done read,
          Parser.bind_of_done (Parser.byte_eq_done.2 ⟨rfl, by decide⟩)]
        exact refuses_feed inside 0 rest
    · have other : (mark == 13 || mark == 59) = false := by simp [carriage, semicolon]
      exact refuses_byte (fun byte => byte == 13 || byte == 59) other _ _ _

end Chunk
end TunnelBench
