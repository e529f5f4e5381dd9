import TunnelBench.Proofs.Request.Stages

/-!
# Peeking at a request

Peeking looks for the head of a request as reading does, and gives its target. It uses up
nothing: the bytes that it received and the pieces that it left make up the whole stream.
-/
namespace TunnelBench.Request

/-- A target that is found is found whatever bytes follow, and the bytes still wait. -/
theorem peekStep_eq_finish {bytes rest : Bytes} {target : String} :
    peekStep () bytes = .finish target rest ↔
      (∃ head behind, RequestHead.parse bytes = .done head behind ∧ head.target = target) ∧
        bytes = rest := by
  unfold peekStep
  cases RequestHead.parse bytes with
  | done head behind => simp
  | failed reason => simp
  | more => simp

/-- Peeking has one stage only. -/
theorem step_peeked_ne_next {stage later : Unit} {bytes rest : Bytes} :
    peeked.step stage bytes ≠ .next later rest := @peekStep_ne_next bytes rest stage later

/-- What peeking finds stands. -/
theorem forward_peeked : peeked.Forward where
  finish := by
    intro current part target rest later decided
    obtain ⟨⟨head, behind, found, named⟩, rfl⟩ := peekStep_eq_finish.1 decided
    exact peekStep_eq_finish.2
      ⟨⟨head, behind ++ later, RequestHead.parse_append_of_done found later, named⟩, rfl⟩
  next := fun _ decided => absurd decided step_peeked_ne_next

/-- Peeking never leaves its only stage. -/
theorem eq_of_reaches_peeked {current later : Unit} {whole last : Bytes}
    (reached : peeked.Reaches current whole later last) : last = whole := by
  cases reached with
  | start => rfl
  | next decided _ => exact absurd decided step_peeked_ne_next

/-- Where the head is decided within the limit, a refusal to peek is confirmed. -/
theorem confirms_peeked {whole : Bytes} (within : RequestHead.DecidedInLimit whole)
    (reason : Malformed) : peeked.Confirms () whole reason := by
  intro later part rest reached refused
  cases eq_of_reaches_peeked reached
  change peekStep () part = _ at refused
  change peekStep () (part ++ rest) = _
  unfold peekStep at refused ⊢
  cases parsed : RequestHead.parse part with
  | done head behind => simp [parsed] at refused
  | failed cause =>
    have stands := within.parse_eq_extend (by simp [parsed])
    rw [parsed] at refused stands
    rw [stands]
    exact refused
  | more => simp [parsed] at refused

/-- Peeking at a delivery that finds a target leaves the whole of it. -/
theorem readTarget_of_ok {source : Source} {bytes : Bytes} (delivers : source.Delivers bytes)
    {target : String} (found : (readTarget source).outcome = .ok target) :
    (∃ head rest, RequestHead.parse bytes = .done head rest ∧ head.target = target) ∧
      (readTarget source).source.Full ∧
        (readTarget source).waiting ++ (readTarget source).source.content = bytes := by
  obtain ⟨full, rfl⟩ := delivers
  have ending := forward_peeked.read_ending () .empty full []
  rw [List.append_nil] at ending
  have decoded := ending.decode_of_ok forward_peeked found
  obtain look | ⟨_, _, look, _⟩ := Staged.decode_eq_ok.1 decoded
  · obtain ⟨named, left⟩ := peekStep_eq_finish.1 look
    exact ⟨named, ending.full_source, left.symm⟩
  · exact absurd look step_peeked_ne_next

/-- What peeking at a delivery finds is what the head of its bytes says. -/
theorem readTarget_outcome {source : Source} {bytes : Bytes}
    (within : RequestHead.DecidedInLimit bytes) (delivers : source.Delivers bytes) :
    (readTarget source).outcome = match RequestHead.parse bytes with
      | .done head _ => .ok head.target
      | .failed reason => .error (.malformed reason)
      | .more => .error .incompleteRequest := by
  obtain ⟨full, rfl⟩ := delivers
  have ending := forward_peeked.read_ending () .empty full []
  rw [List.append_nil] at ending
  have decoded := ending.outcome_eq_decode forward_peeked fun reason _ =>
    confirms_peeked within reason
  refine decoded.trans ?_
  change (peeked.decode () source.content).1 = _
  cases parsed : RequestHead.parse source.content with
  | done head rest =>
    rw [Staged.decode_finish (peekStep_eq_finish.2 ⟨⟨head, rest, parsed, rfl⟩, rfl⟩)]
  | failed reason =>
    have look : peeked.step () source.content = .failed reason := by
      simp only [peeked, peekStep, parsed]
    rw [Staged.decode_failed look]
  | more =>
    have look : peeked.step () source.content = .more 0 := by
      simp only [peeked, peekStep, parsed]
    rw [Staged.decode_more look]

end TunnelBench.Request
