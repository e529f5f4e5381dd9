import TunnelBench.Proofs.Stream.Decisions
import TunnelBench.Request.Chunk

/-!
# When the parts of a chunked body are decided

Size lines, chunk data and trailer lines are read from left to right. What each of them
accepts is settled by its own bytes: a size line by the line alone, data by their number
and the line end behind them, a trailer line by its first line end.
-/
namespace TunnelBench.Chunk

/-- Digits are steady. -/
theorem steady_digits (allowed total : Nat) : (digits allowed total).Steady := by
  intro bytes later decided
  fun_induction digits allowed total bytes with
  | case1 => exact absurd rfl decided
  | case2 allowed total byte rest other =>
    simp only [List.cons_append, digits, other]
    rfl
  | case3 total byte rest digit value =>
    simp only [List.cons_append, digits, value]
    rfl
  | case4 total byte rest digit value allowed ih =>
    simp only [List.cons_append, digits, value]
    exact ih decided

/-- Digits end before a byte that is none. -/
theorem peeking_digits (allowed total : Nat) : (digits allowed total).Peeking := by
  intro bytes value rest result
  fun_induction digits allowed total bytes with
  | case1 => contradiction
  | case2 allowed total byte bytes other =>
    simp only [Progress.done.injEq] at result
    obtain ⟨rfl, rfl⟩ := result
    refine ⟨[], byte, bytes, rfl, rfl, fun behind => ?_⟩
    simp only [List.nil_append, digits, other]
  | case3 => contradiction
  | case4 total byte bytes digit found allowed ih =>
    obtain ⟨used, next, later, rfl, left, stands⟩ := ih result
    refine ⟨byte :: used, next, later, rfl, left, fun behind => ?_⟩
    simp only [List.cons_append, digits, found]
    exact stands behind

/-- A size line is steady. -/
theorem steady_sizeLine : sizeLine.Steady :=
  (steady_digits _ _).bind fun _ =>
    (Parser.steady_many _).bind fun _ =>
      (Parser.steady_byte _ _).bind fun mark => by
        have ending : ∀ size : Nat,
            (Parser.byte (· == 10) .chunkSize >>= fun _ => pure size : Parser Nat).Steady :=
          fun _ => (Parser.steady_byte _ _).bind fun _ => Parser.steady_pure _
        split
        · exact (Parser.steady_many _).bind fun _ =>
            (Parser.steady_byte _ _).bind fun _ => ending _
        · exact ending _

/-- A size line is settled by its own bytes. -/
theorem delimited_sizeLine : sizeLine.Delimited :=
  (peeking_digits _ _).bind fun _ =>
    (Parser.peeking_many _).bind fun _ =>
      (Parser.delimited_byte _ _).bind fun mark => by
        have ending : ∀ size : Nat,
            (Parser.byte (· == 10) .chunkSize >>= fun _ => pure size : Parser Nat).Exact :=
          fun _ => (Parser.exact_byte _ _).bind fun _ => Parser.exact_pure _
        split
        · exact And.left <| (Parser.peeking_many _).bind fun _ =>
            (Parser.delimited_byte _ _).bind fun _ => ending _
        · exact ending _

/-- A size is steady. -/
theorem steady_size : size.Steady :=
  steady_sizeLine.bind fun _ =>
    (Parser.steady_require _ _).bind fun _ => Parser.steady_pure _

/-- Data are steady. -/
theorem steady_data (size : Nat) : (data size).Steady :=
  (Parser.steady_block _).bind fun _ =>
    (Parser.steady_require _ _).bind fun _ => Parser.steady_pure _

/-- A line is steady. -/
theorem steady_lineFrom (empty : Bool) : (lineFrom empty).Steady := by
  intro bytes later decided
  fun_induction lineFrom empty bytes with
  | case1 => exact absurd rfl decided
  | case2 empty byte rest ends =>
    obtain ⟨behind, rfl⟩ : ∃ behind, rest = 10 :: behind := by
      cases rest with
      | nil => simp at ends
      | cons head tail =>
        simp only [List.head?_cons, Bool.and_eq_true, beq_iff_eq, Option.some.injEq] at ends
        exact ⟨tail, by rw [ends.2]⟩
    simp only [List.head?_cons] at ends
    simp only [List.cons_append, lineFrom, List.head?_cons, ends, ↓reduceIte]
    rfl
  | case3 empty byte rest goesOn ih =>
    cases rest with
    | nil => exact absurd rfl decided
    | cons head tail =>
      simp only [List.head?_cons] at goesOn
      rw [List.cons_append, lineFrom]
      simp only [List.cons_append, List.head?_cons, goesOn]
      exact ih decided

/-- A trailer line is steady. -/
theorem steady_trailerLine : trailerLine.Steady := steady_lineFrom true

end TunnelBench.Chunk
