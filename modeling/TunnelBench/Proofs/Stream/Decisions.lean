import TunnelBench.Stream.Parser

/-!
# Decisions that stand

A parser reads from left to right. Once it has decided, bytes that arrive later change
neither its value nor the reason it fails for, and stand behind the rest it leaves. A
value depends on the bytes used alone, or on them and the one byte behind them that
showed their end. These properties pass from the single steps to whole parsers.
-/
namespace TunnelBench

/-- A decision on the bytes received so far, with more bytes received behind them. -/
def Progress.extend {α : Type} (later : Bytes) : Progress α → Progress α
  | .done value rest => .done value (rest ++ later)
  | .failed reason => .failed reason
  | .more => .more

namespace Parser

variable {α β : Type}

/-- A parser whose decisions stand whatever bytes follow. -/
def Steady (parser : Parser α) : Prop :=
  ∀ bytes later, parser bytes ≠ .more → parser (bytes ++ later) = (parser bytes).extend later

/-- A parser whose value depends on no byte that it leaves. -/
def Exact (parser : Parser α) : Prop :=
  ∀ ⦃bytes value rest⦄, parser bytes = .done value rest →
    ∃ used, bytes = used ++ rest ∧ ∀ other, parser (used ++ other) = .done value other

/-- A parser that leaves a byte, and whose value depends on no byte behind that one. -/
def Peeking (parser : Parser α) : Prop :=
  ∀ ⦃bytes value rest⦄, parser bytes = .done value rest →
    ∃ used byte later, bytes = used ++ byte :: later ∧ rest = byte :: later ∧
      ∀ other, parser (used ++ byte :: other) = .done value (byte :: other)

/-- An exact parser that, when it ends, has used at least one byte. -/
def Delimited (parser : Parser α) : Prop := parser.Exact ∧ parser.Consumes

/-- A value stands, with the later bytes behind the rest. -/
theorem Steady.done {parser : Parser α} (steady : parser.Steady) {bytes rest : Bytes} {value : α}
    (result : parser bytes = .done value rest) (later : Bytes) :
    parser (bytes ++ later) = .done value (rest ++ later) := by
  have stands := steady bytes later (by simp [result])
  rw [stands, result]
  rfl

/-- A failure stands. -/
theorem Steady.failed {parser : Parser α} (steady : parser.Steady) {bytes : Bytes}
    {reason : Malformed} (result : parser bytes = .failed reason) (later : Bytes) :
    parser (bytes ++ later) = .failed reason := by
  have stands := steady bytes later (by simp [result])
  rw [stands, result]
  rfl

/-- Bytes that leave a parser undecided have no decided start. -/
theorem Steady.more_of_prefix {parser : Parser α} (steady : parser.Steady) {start bytes : Bytes}
    (begins : start <+: bytes) (undecided : parser bytes = .more) : parser start = .more := by
  obtain ⟨later, rfl⟩ := begins
  cases result : parser start with
  | done value rest => simp [steady.done result later] at undecided
  | failed reason => simp [steady.failed result later] at undecided
  | more => rfl

/-- What a bind makes of bytes that its first part has read. -/
theorem bind_of_done {first : Parser α} {next : α → Parser β} {bytes suffix : Bytes} {middle : α}
    (result : first bytes = .done middle suffix) : (first >>= next) bytes = next middle suffix := by
  change Parser.bind first next bytes = _
  simp only [Parser.bind, result]

/-- What a bind makes of bytes that its first part refuses. -/
theorem bind_of_failed {first : Parser α} {next : α → Parser β} {bytes : Bytes}
    {reason : Malformed} (result : first bytes = .failed reason) :
    (first >>= next) bytes = .failed reason := by
  change Parser.bind first next bytes = _
  simp only [Parser.bind, result]

/-- What a bind makes of bytes that are too few for its first part. -/
theorem bind_of_more {first : Parser α} {next : α → Parser β} {bytes : Bytes}
    (result : first bytes = .more) : (first >>= next) bytes = .more := by
  change Parser.bind first next bytes = _
  simp only [Parser.bind, result]

/-- Three parsers in order may be put together either way. -/
theorem bind_assoc {γ : Type} (first : Parser α) (next : α → Parser β) (last : β → Parser γ) :
    ((first >>= next) >>= last) = (first >>= fun value => next value >>= last) := by
  funext bytes
  cases result : first bytes with
  | done middle suffix =>
    rw [bind_of_done result]
    change Parser.bind (first >>= next) last bytes = Parser.bind (next middle) last suffix
    simp only [Parser.bind, bind_of_done result]
  | failed reason => rw [bind_of_failed result, bind_of_failed (bind_of_failed result)]
  | more => rw [bind_of_more result, bind_of_more (bind_of_more result)]

/-- The decisions of two steady parsers in order stand. -/
theorem Steady.bind {first : Parser α} {next : α → Parser β} (firstSteady : first.Steady)
    (nextSteady : ∀ value, (next value).Steady) : (first >>= next).Steady := by
  intro bytes later decided
  cases result : first bytes with
  | done middle suffix =>
    rw [bind_of_done result] at decided ⊢
    rw [bind_of_done (firstSteady.done result later)]
    exact nextSteady middle suffix later decided
  | failed reason =>
    rw [bind_of_failed result, bind_of_failed (firstSteady.failed result later)]
    rfl
  | more => exact absurd (bind_of_more result) decided

/-- Two exact parsers in order are exact. -/
theorem Exact.bind {first : Parser α} {next : α → Parser β} (firstExact : first.Exact)
    (nextExact : ∀ value, (next value).Exact) : (first >>= next).Exact := by
  intro bytes value rest result
  obtain ⟨middle, suffix, firstResult, nextResult⟩ := bind_eq_done.1 result
  obtain ⟨front, rfl, frontStands⟩ := firstExact firstResult
  obtain ⟨back, rfl, backStands⟩ := nextExact middle nextResult
  refine ⟨front ++ back, by simp, fun other => ?_⟩
  rw [List.append_assoc, bind_of_done (frontStands _)]
  exact backStands other

/-- An exact parser gives no byte back that it did not get. -/
theorem Exact.keeps {parser : Parser α} (exact : parser.Exact) : parser.Keeps := by
  intro bytes value rest result
  obtain ⟨used, rfl, _⟩ := exact result
  rw [List.length_append]
  omega

/-- Where the first part stops before a byte, the second part uses that byte. -/
theorem Peeking.bind {first : Parser α} {next : α → Parser β} (firstPeeks : first.Peeking)
    (nextDelimited : ∀ value, (next value).Delimited) : (first >>= next).Delimited := by
  have whole : ∀ ⦃bytes value rest⦄, (first >>= next) bytes = .done value rest →
      ∃ byte used, bytes = byte :: used ++ rest ∧
        ∀ other, (first >>= next) (byte :: used ++ other) = .done value other := by
    intro bytes value rest result
    obtain ⟨middle, suffix, firstResult, nextResult⟩ := bind_eq_done.1 result
    obtain ⟨front, byte, later, rfl, rfl, frontStands⟩ := firstPeeks firstResult
    obtain ⟨back, split, backStands⟩ := (nextDelimited middle).1 nextResult
    have shorter := (nextDelimited middle).2 nextResult
    rw [split, List.length_append] at shorter
    obtain ⟨tail, rfl, rfl⟩ : ∃ tail, back = byte :: tail ∧ later = tail ++ rest := by
      cases back with
      | nil => simp at shorter
      | cons head tail =>
        simp only [List.cons_append, List.cons.injEq] at split
        exact ⟨tail, by rw [split.1], split.2⟩
    have stands : ∀ other, (first >>= next) (front ++ byte :: tail ++ other) =
        .done value other := by
      intro other
      rw [List.append_assoc, List.cons_append, bind_of_done (frontStands _)]
      exact backStands other
    cases front with
    | nil => exact ⟨byte, tail, by simp, stands⟩
    | cons head front => exact ⟨head, front ++ byte :: tail, by simp, stands⟩
  constructor
  · intro bytes value rest result
    obtain ⟨byte, used, rfl, stands⟩ := whole result
    exact ⟨byte :: used, rfl, stands⟩
  · intro bytes value rest result
    obtain ⟨byte, used, rfl, _⟩ := whole result
    rw [List.length_append, List.length_cons]
    omega

/-- It is enough that the first of two exact parsers uses up bytes. -/
theorem Delimited.bind {first : Parser α} {next : α → Parser β} (delimited : first.Delimited)
    (nextExact : ∀ value, (next value).Exact) : (first >>= next).Delimited :=
  ⟨delimited.1.bind nextExact, delimited.2.bind fun value => (nextExact value).keeps⟩

/-- Accepting without looking is steady. -/
theorem steady_pure (value : α) : (pure value : Parser α).Steady := fun _ _ _ => rfl

/-- Accepting without looking leaves all bytes. -/
theorem pure_eq_done {accepted value : α} {bytes rest : Bytes} :
    (pure accepted : Parser α) bytes = .done value rest ↔ accepted = value ∧ bytes = rest := by
  change Progress.done accepted bytes = _ ↔ _
  rw [Progress.done.injEq]

/-- Accepting without looking is exact. -/
theorem exact_pure (value : α) : (pure value : Parser α).Exact := by
  intro bytes got rest result
  obtain ⟨rfl, rfl⟩ := pure_eq_done.1 result
  exact ⟨[], rfl, fun other => rfl⟩

/-- Refusing without looking is steady. -/
theorem steady_fail (reason : Malformed) : (fail reason : Parser α).Steady := fun _ _ _ => rfl

/-- Refusing without looking has no value to depend on anything. -/
theorem exact_fail (reason : Malformed) : (fail reason : Parser α).Exact := by
  intro bytes value rest result
  simp [fail] at result

/-- A condition that holds leaves all bytes. -/
theorem require_eq_done {condition : Bool} {reason : Malformed} {bytes rest : Bytes} :
    require condition reason bytes = .done () rest ↔ condition = true ∧ bytes = rest := by
  cases condition with
  | true =>
    change Progress.done () bytes = _ ↔ _
    simp only [Progress.done.injEq, true_and]
  | false => simp [require, fail]

/-- A condition is steady. -/
theorem steady_require (condition : Bool) (reason : Malformed) :
    (require condition reason).Steady := by
  unfold require
  split
  · exact steady_pure ()
  · exact steady_fail reason

/-- A condition is exact. -/
theorem exact_require (condition : Bool) (reason : Malformed) :
    (require condition reason).Exact := by
  unfold require
  split
  · exact exact_pure ()
  · exact exact_fail reason

/-- Peeking is steady. -/
theorem steady_peek : peek.Steady := by
  intro bytes later decided
  cases bytes with
  | nil => exact absurd rfl decided
  | cons head tail => rfl

/-- Peeking looks at one byte and leaves it. -/
theorem peeking_peek : peek.Peeking := by
  intro bytes value rest result
  cases bytes with
  | nil => simp [peek] at result
  | cons head tail =>
    simp only [peek, Progress.done.injEq] at result
    obtain ⟨rfl, rfl⟩ := result
    exact ⟨[], head, tail, rfl, rfl, fun other => rfl⟩

/-- Reading a byte is steady. -/
theorem steady_byte (test : UInt8 → Bool) (reason : Malformed) : (byte test reason).Steady := by
  intro bytes later decided
  cases bytes with
  | nil => exact absurd rfl decided
  | cons head tail =>
    simp only [List.cons_append, byte]
    split <;> rfl

/-- Reading a byte is exact. -/
theorem exact_byte (test : UInt8 → Bool) (reason : Malformed) : (byte test reason).Exact := by
  intro bytes value rest result
  cases bytes with
  | nil => simp [byte] at result
  | cons head tail =>
    simp only [byte] at result
    split at result
    · rename_i passed
      simp only [Progress.done.injEq] at result
      obtain ⟨rfl, rfl⟩ := result
      refine ⟨[head], rfl, fun other => ?_⟩
      simp only [List.singleton_append, byte, passed, ↓reduceIte]
    · contradiction

/-- A byte is read where it stands and passes the test. -/
theorem byte_eq_done {test : UInt8 → Bool} {reason : Malformed} {bytes rest : Bytes}
    {value : UInt8} :
    byte test reason bytes = .done value rest ↔ bytes = value :: rest ∧ test value = true := by
  cases bytes with
  | nil => simp [byte]
  | cons head tail =>
    rw [byte]
    by_cases passes : test head = true
    · rw [if_pos passes, Progress.done.injEq, List.cons.injEq]
      constructor
      · rintro ⟨rfl, rfl⟩
        exact ⟨⟨rfl, rfl⟩, passes⟩
      · exact And.left
    · rw [if_neg passes, List.cons.injEq]
      constructor
      · intro refused
        contradiction
      · rintro ⟨⟨rfl, _⟩, passed⟩
        exact absurd passed passes

/-- A byte that is read is the one used. -/
theorem delimited_byte (test : UInt8 → Bool) (reason : Malformed) :
    (byte test reason).Delimited := ⟨exact_byte test reason, consumes_byte test reason⟩

/-- A run of bytes that pass a test ends at a byte that does not. -/
theorem many_of_stop {test : UInt8 → Bool} {run : Bytes} {stop : UInt8}
    (passes : ∀ byte ∈ run, test byte = true) (stops : test stop = false) (later : Bytes) :
    many test (run ++ stop :: later) = .done run (stop :: later) := by
  have fails : ¬test stop = true := by simp [stops]
  have skipped : (run ++ stop :: later).dropWhile test = stop :: later := by
    rw [List.dropWhile_append_of_pos passes, List.dropWhile_cons_of_neg fails]
  have kept : (run ++ stop :: later).takeWhile test = run := by
    rw [List.takeWhile_append_of_pos passes, List.takeWhile_cons_of_neg fails, List.append_nil]
  simp only [many, skipped, kept]

/-- A run of bytes ends where it ended, whatever follows the byte behind it. -/
theorem many_append {test : UInt8 → Bool} {bytes value rest : Bytes}
    (result : many test bytes = .done value rest) :
    ∃ next later, rest = next :: later ∧ bytes = value ++ next :: later ∧
      ∀ other, many test (value ++ next :: other) = .done value (next :: other) := by
  unfold many at result
  split at result
  · contradiction
  · rename_i next later dropped
    simp only [Progress.done.injEq] at result
    obtain ⟨rfl, rfl⟩ := result
    have stops : test next = false := by
      have head := List.head?_dropWhile_not test bytes
      simpa [dropped] using head
    refine ⟨next, later, rfl, ?_, many_of_stop (List.all_eq_true.1 List.all_takeWhile) stops⟩
    rw [← dropped, List.takeWhile_append_dropWhile]

/-- A run of bytes is the longest start of bytes that pass the test. -/
theorem eq_of_many {test : UInt8 → Bool} {bytes value rest : Bytes}
    (result : many test bytes = .done value rest) :
    value = bytes.takeWhile test ∧ rest = bytes.dropWhile test := by
  unfold many at result
  split at result
  · contradiction
  · rename_i next later dropped
    simp only [Progress.done.injEq] at result
    exact ⟨result.1.symm, result.2.symm.trans dropped.symm⟩

/-- A run of bytes passes the test and stands in front. -/
theorem all_of_many {test : UInt8 → Bool} {bytes value rest : Bytes}
    (result : many test bytes = .done value rest) :
    (∀ byte ∈ value, test byte = true) ∧ bytes = value ++ rest := by
  obtain ⟨rfl, rfl⟩ := eq_of_many result
  exact ⟨List.all_eq_true.1 List.all_takeWhile, List.takeWhile_append_dropWhile.symm⟩

/-- A run of bytes is steady. -/
theorem steady_many (test : UInt8 → Bool) : (many test).Steady := by
  intro bytes later decided
  cases result : many test bytes with
  | done value rest =>
    obtain ⟨next, behind, rfl, rfl, stands⟩ := many_append result
    rw [List.append_assoc, List.cons_append, stands]
    rfl
  | failed reason =>
    unfold many at result
    split at result <;> contradiction
  | more => exact absurd result decided

/-- A run of bytes leaves the byte that ended it. -/
theorem peeking_many (test : UInt8 → Bool) : (many test).Peeking := by
  intro bytes value rest result
  obtain ⟨next, later, rfl, rfl, stands⟩ := many_append result
  exact ⟨value, next, later, rfl, rfl, stands⟩

/-- A block of bytes is there or not, and then it is the front of what is there. -/
theorem block_eq_done {size : Nat} {bytes value rest : Bytes} :
    block size bytes = .done value rest ↔ bytes = value ++ rest ∧ value.length = size := by
  unfold block
  constructor
  · intro result
    split at result
    · contradiction
    · simp only [Progress.done.injEq] at result
      obtain ⟨rfl, rfl⟩ := result
      refine ⟨(List.take_append_drop size bytes).symm, ?_⟩
      rw [List.length_take]
      omega
  · rintro ⟨rfl, rfl⟩
    have enough : ¬(value ++ rest).length < value.length := by
      rw [List.length_append]
      omega
    rw [if_neg enough, List.take_left, List.drop_left]

/-- A block of bytes is steady. -/
theorem steady_block (size : Nat) : (block size).Steady := by
  intro bytes later decided
  cases result : block size bytes with
  | done value rest =>
    obtain ⟨rfl, sized⟩ := block_eq_done.1 result
    rw [List.append_assoc]
    exact block_eq_done.2 ⟨rfl, sized⟩
  | failed reason =>
    unfold block at result
    split at result <;> contradiction
  | more => exact absurd result decided

/-- Fixed bytes are steady. -/
theorem steady_literal (reason : Malformed) (expected : Bytes) :
    (literal reason expected).Steady := by
  induction expected with
  | nil => exact steady_pure ()
  | cons head tail ih => exact (steady_byte _ _).bind fun _ => ih

/-- Fixed bytes are exact. -/
theorem exact_literal (reason : Malformed) (expected : Bytes) :
    (literal reason expected).Exact := by
  induction expected with
  | nil => exact exact_pure ()
  | cons head tail ih => exact (exact_byte _ _).bind fun _ => ih

/-- A line end is steady. -/
theorem steady_newLine (reason : Malformed) : (newLine reason).Steady :=
  (steady_byte _ _).bind fun first => by
    split
    · exact (steady_byte _ _).bind fun _ => steady_pure ()
    · exact steady_pure ()

/-- A line end is exact. -/
theorem delimited_newLine (reason : Malformed) : (newLine reason).Delimited :=
  (delimited_byte _ _).bind fun first => by
    split
    · exact (exact_byte _ _).bind fun _ => exact_pure ()
    · exact exact_pure ()

end Parser
end TunnelBench
