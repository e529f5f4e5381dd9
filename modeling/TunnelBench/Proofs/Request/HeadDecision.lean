import TunnelBench.Proofs.Stream.Decisions
import TunnelBench.Request.Head

/-!
# When a head is decided

The parts of a head are read from left to right, so a head that is found, or found to be
malformed, stays so whatever follows. The limit on its size is the only judgement that a
later byte can overturn: a head that is still open past the limit is refused, though its
end may be on the way. It cannot be overturned where the first decision on the bytes
lies within the limit.
-/
namespace TunnelBench.RequestHead

/-- Skipping empty lines is steady. -/
theorem steady_emptyLines : emptyLines.Steady := by
  intro bytes later decided
  fun_induction emptyLines bytes with
  | case1 => exact absurd rfl decided
  | case2 byte rest feed ih =>
    rw [List.cons_append, emptyLines.eq_def]
    simp only [feed, ↓reduceIte]
    exact ih decided
  | case3 => exact absurd rfl decided
  | case4 byte notFeed carriage second behind feed ih =>
    rw [List.cons_append, emptyLines.eq_def]
    simp only [notFeed, carriage, List.cons_append, feed, ↓reduceIte]
    exact ih decided
  | case5 byte notFeed carriage second behind notPair =>
    rw [List.cons_append, emptyLines.eq_def]
    simp only [notFeed, carriage, List.cons_append, notPair, ↓reduceIte]
    rfl
  | case6 byte rest notFeed notCarriage =>
    rw [List.cons_append, emptyLines.eq_def]
    simp only [notFeed, notCarriage]
    rfl

/-- Skipping empty lines stops before the first byte of the method. -/
theorem peeking_emptyLines : emptyLines.Peeking := by
  intro bytes value rest result
  fun_induction emptyLines bytes with
  | case1 => contradiction
  | case2 byte bytes feed ih =>
    obtain ⟨used, next, later, rfl, left, stands⟩ := ih result
    refine ⟨byte :: used, next, later, rfl, left, fun other => ?_⟩
    rw [List.cons_append, emptyLines.eq_def]
    simp only [feed, ↓reduceIte]
    exact stands other
  | case3 => contradiction
  | case4 byte notFeed carriage second behind feed ih =>
    obtain ⟨used, next, later, rfl, left, stands⟩ := ih result
    refine ⟨byte :: second :: used, next, later, rfl, left, fun other => ?_⟩
    rw [List.cons_append, emptyLines.eq_def]
    simp only [notFeed, carriage, List.cons_append, feed, ↓reduceIte]
    exact stands other
  | case5 => contradiction
  | case6 byte bytes notFeed notCarriage =>
    simp only [Progress.done.injEq] at result
    refine ⟨[], byte, bytes, rfl, result.2.symm, fun other => ?_⟩
    rw [List.nil_append, emptyLines.eq_def]
    simp only [notFeed, notCarriage]
    rfl

/-- A method is steady. -/
theorem steady_methodPart : methodPart.Steady :=
  (Parser.steady_many _).bind fun _ =>
    (Parser.steady_byte _ _).bind fun _ =>
      (Parser.steady_require _ _).bind fun _ => Parser.steady_pure _

/-- A method is exact. -/
theorem delimited_methodPart : methodPart.Delimited :=
  (Parser.peeking_many _).bind fun _ =>
    (Parser.delimited_byte _ _).bind fun _ =>
      (Parser.exact_require _ _).bind fun _ => Parser.exact_pure _

/-- What a target reads behind its bytes is steady. -/
theorem steady_targetPart : targetPart.Steady :=
  (Parser.steady_many _).bind fun bytes =>
    (Parser.steady_byte _ _).bind fun _ => by
      cases Utf8.decode? bytes with
      | none => exact Parser.steady_fail _
      | some text =>
        change Parser.Steady (if bytes ≠ [] then _ else _)
        split
        · exact Parser.steady_pure _
        · exact Parser.steady_fail _

/-- A target is exact. -/
theorem delimited_targetPart : targetPart.Delimited :=
  (Parser.peeking_many _).bind fun bytes =>
    (Parser.delimited_byte _ _).bind fun _ => by
      cases Utf8.decode? bytes with
      | none => exact Parser.exact_fail _
      | some text =>
        change Parser.Exact (if bytes ≠ [] then _ else _)
        split
        · exact Parser.exact_pure _
        · exact Parser.exact_fail _

/-- A version is steady. -/
theorem steady_versionPart : versionPart.Steady :=
  (Parser.steady_literal _ _).bind fun _ =>
    (Parser.steady_byte _ _).bind fun _ => Parser.steady_pure _

/-- A version is exact. -/
theorem exact_versionPart : versionPart.Exact :=
  (Parser.exact_literal _ _).bind fun _ =>
    (Parser.exact_byte _ _).bind fun _ => Parser.exact_pure _

/-- A header line is steady. -/
theorem steady_headerLine : headerLine.Steady :=
  (Parser.steady_many _).bind fun _ =>
    (Parser.steady_byte _ _).bind fun _ =>
      (Parser.steady_require _ _).bind fun _ =>
        (Parser.steady_many _).bind fun _ =>
          (Parser.steady_many _).bind fun _ =>
            (Parser.steady_newLine _).bind fun _ => Parser.steady_pure _

/-- A header line is exact. -/
theorem delimited_headerLine : headerLine.Delimited :=
  (Parser.peeking_many _).bind fun _ =>
    (Parser.delimited_byte _ _).bind fun _ =>
      (Parser.exact_require _ _).bind fun _ =>
        And.left <| (Parser.peeking_many _).bind fun _ =>
          (Parser.peeking_many _).bind fun _ =>
            (Parser.delimited_newLine _).bind fun _ => Parser.exact_pure _

/-- The choice is steady if the other parser is. -/
theorem steady_emptyLineOr {another : Parser (List Header)} (steady : another.Steady) :
    (emptyLineOr another).Steady :=
  Parser.steady_peek.bind fun first => by
    split
    · exact (Parser.steady_newLine _).bind fun _ => Parser.steady_pure _
    · exact steady

/-- The choice is exact if the other parser is and uses up bytes. -/
theorem delimited_emptyLineOr {another : Parser (List Header)} (delimited : another.Delimited) :
    (emptyLineOr another).Delimited :=
  Parser.peeking_peek.bind fun first => by
    split
    · exact (Parser.delimited_newLine _).bind fun _ => Parser.exact_pure _
    · exact delimited

/-- Header lines are steady. -/
theorem steady_headerLines (allowed : Nat) : (headerLines allowed).Steady := by
  induction allowed with
  | zero => exact steady_emptyLineOr (steady_headerLine.bind fun _ => Parser.steady_fail _)
  | succ allowed ih =>
    exact steady_emptyLineOr
      (steady_headerLine.bind fun _ => ih.bind fun _ => Parser.steady_pure _)

/-- Header lines are exact. -/
theorem delimited_headerLines (allowed : Nat) : (headerLines allowed).Delimited := by
  induction allowed with
  | zero =>
    exact delimited_emptyLineOr (delimited_headerLine.bind fun _ => Parser.exact_fail _)
  | succ allowed ih =>
    exact delimited_emptyLineOr
      (delimited_headerLine.bind fun _ => ih.1.bind fun _ => Parser.exact_pure _)

/-- A whole head is steady. -/
theorem steady_wholeHead : wholeHead.Steady :=
  steady_emptyLines.bind fun _ =>
    steady_methodPart.bind fun _ =>
      steady_targetPart.bind fun _ =>
        steady_versionPart.bind fun _ =>
          (Parser.steady_newLine _).bind fun _ =>
            (steady_headerLines _).bind fun headers => by
              split
              · exact Parser.steady_pure _
              · exact Parser.steady_fail _

/-- A whole head is exact. -/
theorem delimited_wholeHead : wholeHead.Delimited :=
  peeking_emptyLines.bind fun _ =>
    delimited_methodPart.bind fun _ =>
      delimited_targetPart.1.bind fun _ =>
        exact_versionPart.bind fun _ =>
          (Parser.delimited_newLine _).1.bind fun _ =>
            (delimited_headerLines _).1.bind fun headers => by
              split
              · exact Parser.exact_pure _
              · exact Parser.exact_fail _

/-- A head is found where the bytes hold a whole one. -/
theorem parse_eq_done {bytes rest : Bytes} {head : RequestHead} :
    parse bytes = .done head rest ↔ wholeHead bytes = .done head rest := by
  unfold parse
  constructor
  · intro result
    split at result
    · simp_all
    · contradiction
    · split at result <;> contradiction
  · intro result
    rw [result]

/-- A head is refused because it is malformed, or because it is open past the limit. -/
theorem parse_eq_failed {bytes : Bytes} {reason : Malformed} :
    parse bytes = .failed reason ↔ wholeHead bytes = .failed reason ∨
      (wholeHead bytes = .more ∧ sizeLimit < bytes.length ∧ reason = .headTooLong sizeLimit) := by
  unfold parse
  cases wholeHead bytes with
  | done head rest => simp
  | failed cause => simp
  | more =>
    by_cases long : sizeLimit < bytes.length
    · simp [long, eq_comm]
    · simp [long]

/-- A head is waited for where it is open within the limit. -/
theorem parse_eq_more {bytes : Bytes} :
    parse bytes = .more ↔ wholeHead bytes = .more ∧ bytes.length ≤ sizeLimit := by
  unfold parse
  cases wholeHead bytes with
  | done head rest => simp
  | failed cause => simp
  | more =>
    by_cases long : sizeLimit < bytes.length
    · simp [long]
    · simp only [long, ↓reduceIte, true_and]
      exact ⟨fun _ => Nat.le_of_not_lt long, fun _ => trivial⟩

/-- A head that is found stands. -/
theorem parse_append_of_done {bytes rest : Bytes} {head : RequestHead}
    (found : parse bytes = .done head rest) (later : Bytes) :
    parse (bytes ++ later) = .done head (rest ++ later) :=
  parse_eq_done.2 (steady_wholeHead.done (parse_eq_done.1 found) later)

/-- A head that is found does not depend on the bytes behind it. -/
theorem exact_parse : parse.Exact := by
  intro bytes head rest found
  obtain ⟨used, split, stands⟩ := delimited_wholeHead.1 (parse_eq_done.1 found)
  exact ⟨used, split, fun other => parse_eq_done.2 (stands other)⟩

/-- Some bytes decide about a head if they hold one or start none, whatever their number. -/
def Decides (bytes : Bytes) : Prop :=
  (∃ head rest, parse bytes = .done head rest) ∨
    ∃ reason, parse bytes = .failed reason ∧ reason ≠ .headTooLong sizeLimit

/-- The shortest start of some bytes that decides about a head, if there is one, is within the
limit. -/
def DecidedInLimit (bytes : Bytes) : Prop :=
  ∀ start, start <+: bytes → Decides start →
    (∀ other, other <+: bytes → Decides other → start.length ≤ other.length) →
      start.length ≤ sizeLimit

/-- Bytes that decide hold a whole head or the start of none. -/
theorem Decides.ne_more {bytes : Bytes} (decides : Decides bytes) : wholeHead bytes ≠ .more := by
  intro undecided
  obtain ⟨head, rest, found⟩ | ⟨reason, refused, unsized⟩ := decides
  · rw [parse_eq_done, undecided] at found
    contradiction
  · rw [parse_eq_failed, undecided] at refused
    simp_all

/-- If any start decides, one within the limit does. -/
theorem DecidedInLimit.exists_decides {bytes start : Bytes} (within : DecidedInLimit bytes)
    (begins : start <+: bytes) (decides : Decides start) :
    ∃ first, first <+: bytes ∧ Decides first ∧ first.length ≤ sizeLimit := by
  induction size : start.length using Nat.strongRecOn generalizing start with
  | ind size ih =>
    by_cases shortest :
        ∀ other, other <+: bytes → Decides other → start.length ≤ other.length
    · exact ⟨start, begins, decides, within start begins decides shortest⟩
    · simp only [Classical.not_forall, Nat.not_le] at shortest
      obtain ⟨other, otherBegins, otherDecides, shorter⟩ := shortest
      exact ih other.length (size ▸ shorter) otherBegins otherDecides rfl

/-- Bytes that end within the limit are decided there if at all. -/
theorem decidedInLimit_of_length_le {bytes : Bytes} (short : bytes.length ≤ sizeLimit) :
    DecidedInLimit bytes :=
  fun _ begins _ _ => Nat.le_trans begins.length_le short

/-- A head that ends within the limit is decided there. -/
theorem decidedInLimit_of_done {bytes rest : Bytes} {head : RequestHead}
    (found : parse bytes = .done head rest) (short : bytes.length ≤ sizeLimit + rest.length) :
    DecidedInLimit bytes := by
  intro start begins decides shortest
  obtain ⟨used, split, stands⟩ := exact_parse found
  have usedDecides : Decides used := .inl ⟨head, [], by simpa using stands []⟩
  have bound := shortest used ⟨rest, split.symm⟩ usedDecides
  rw [split, List.length_append] at short
  omega

/-- A head that ends within the limit is decided there whatever follows it. -/
theorem decidedInLimit_append {start : Bytes} {head : RequestHead}
    (found : parse start = .done head []) (short : start.length ≤ sizeLimit) (later : Bytes) :
    DecidedInLimit (start ++ later) := by
  refine decidedInLimit_of_done (parse_append_of_done found later) ?_
  rw [List.nil_append, List.length_append]
  omega

/-- Where the first decision lies within the limit, every decision on a start stands. -/
theorem DecidedInLimit.parse_eq_extend {part later : Bytes}
    (within : DecidedInLimit (part ++ later)) (decided : parse part ≠ .more) :
    parse (part ++ later) = (parse part).extend later := by
  cases result : parse part with
  | done head rest => exact parse_append_of_done result later
  | failed reason =>
    obtain malformed | ⟨undecided, long, rfl⟩ := parse_eq_failed.1 result
    · exact parse_eq_failed.2 (.inl (steady_wholeHead.failed malformed later))
    · have silent : ¬Decides (part ++ later) := by
        intro decides
        obtain ⟨first, begins, firstDecides, short⟩ :=
          within.exists_decides (List.prefix_refl _) decides
        have inside : first <+: part :=
          List.prefix_of_prefix_length_le begins (List.prefix_append part later) (by omega)
        exact firstDecides.ne_more (steady_wholeHead.more_of_prefix inside undecided)
      cases whole : parse (part ++ later) with
      | done head rest => exact absurd (.inl ⟨head, rest, whole⟩) silent
      | failed reason =>
        by_cases sized : reason = .headTooLong sizeLimit
        · rw [sized]
          rfl
        · exact absurd (.inr ⟨reason, whole, sized⟩) silent
      | more =>
        have short := (parse_eq_more.1 whole).2
        rw [List.length_append] at short
        omega
  | more => exact absurd result decided

end TunnelBench.RequestHead
