import TunnelBench.Stream.Sink

/-!
# How limited sinks fill

A sink that takes some bytes with every write takes a whole message up to its limit: what
is left in it is the front of the message that the limit allows, and the message is sent
if and only if that is all of it. How many bytes one write takes makes no difference, and
neither does the way in which writes fail past the limit.
-/
namespace TunnelBench.Sink

/-- A sink that takes some bytes with every write before the limit, and whose flushes succeed. -/
structure Patient (sink : Sink) : Prop where
  progresses : sink.perWrite ≠ some 0
  flushes : sink.flushFault = none

/-- The sink behind some more bytes. -/
def grown (bytes : Bytes) (flushed : Bool) (sink : Sink) : Sink :=
  { sink with written := sink.written ++ bytes, flushed }

/-- Whether the limit leaves room for all of some bytes. -/
def Fits (bytes : Bytes) (sink : Sink) : Prop := sink.withinLimit bytes = bytes

variable {sink : Sink} {bytes more : Bytes} {flushed : Bool}

/-- Bytes that are taken are written behind the others. -/
@[simp] theorem written_grown :
    (sink.grown bytes flushed).written.toList = sink.written.toList ++ bytes := by
  simp only [grown, Array.toList_appendList]

/-- Nothing more is taken, and only the flush is noted. -/
theorem grown_nil : sink.grown [] flushed = { sink with flushed } := by
  simp only [grown, Array.appendList_nil]

/-- What is taken in two parts is taken. -/
theorem grown_grown (later : Bool) :
    (sink.grown bytes flushed).grown more later = sink.grown (bytes ++ more) later := by
  have joined : sink.written ++ bytes ++ more = sink.written ++ (bytes ++ more) := by
    apply Array.toList_inj.1
    simp only [Array.toList_appendList, List.append_assoc]
  simp only [grown, joined]

/-- A sink stays patient. -/
theorem Patient.grown (patient : sink.Patient) : (sink.grown bytes flushed).Patient :=
  ⟨patient.progresses, patient.flushes⟩

/-- The limit cuts bytes somewhere. -/
theorem front_withinLimit (sink : Sink) (bytes : Bytes) : sink.withinLimit bytes <+: bytes := by
  unfold withinLimit
  split
  · exact List.prefix_rfl
  · exact List.take_prefix _ _

/-- Nothing always fits. -/
@[simp] theorem withinLimit_nil (sink : Sink) : sink.withinLimit [] = [] :=
  List.prefix_nil.1 (sink.front_withinLimit [])

/-- The limit leaves of two parts what it leaves of the first one, and of the second one behind the
first. -/
theorem withinLimit_append (sink : Sink) (bytes more : Bytes) (flushed : Bool) :
    sink.withinLimit (bytes ++ more) =
      sink.withinLimit bytes ++ (sink.grown bytes flushed).withinLimit more := by
  unfold withinLimit
  cases limited : sink.limit with
  | none => simp only [grown, limited]
  | some limit =>
    have size : (sink.grown bytes flushed).written.size = sink.written.size + bytes.length := by
      rw [← Array.length_toList, written_grown, List.length_append, Array.length_toList]
    have same : (sink.grown bytes flushed).limit = some limit := limited
    simp only [same, size, List.take_append, Nat.sub_sub]

/-- Under a limit fits what is no longer than the room that is left. -/
theorem fits_of_limit {limit : Nat} (limited : sink.limit = some limit) :
    sink.Fits bytes ↔ bytes.length ≤ limit - sink.written.size := by
  simp only [Fits, withinLimit, limited]
  constructor
  · intro whole
    have length := congrArg List.length whole
    rw [List.length_take] at length
    omega
  · exact List.take_of_length_le

/-- Two parts fit if and only if each of them does. -/
theorem fits_append (flushed : Bool) :
    sink.Fits (bytes ++ more) ↔ sink.Fits bytes ∧ (sink.grown bytes flushed).Fits more := by
  unfold Fits
  rw [withinLimit_append sink bytes more flushed]
  constructor
  · intro whole
    have front := (sink.front_withinLimit bytes).length_le
    have back := ((sink.grown bytes flushed).front_withinLimit more).length_le
    have lengths := congrArg List.length whole
    simp only [List.length_append] at lengths
    exact List.append_inj whole (by omega)
  · rintro ⟨first, second⟩
    rw [first, second]

/-- What comes behind bytes that do not fit is left out. -/
theorem withinLimit_append_of_not_fits (tight : ¬sink.Fits bytes) (more : Bytes) :
    sink.withinLimit (bytes ++ more) = sink.withinLimit bytes := by
  cases limited : sink.limit with
  | none =>
    have fits : sink.Fits bytes := by simp only [Fits, withinLimit, limited]
    exact absurd fits tight
  | some limit =>
    rw [fits_of_limit limited] at tight
    simp only [withinLimit, limited]
    exact List.take_append_of_le_length (by omega)

/-- One write takes a part of what the limit allows, and nothing only where it allows nothing. -/
theorem Patient.write {sink : Sink} (patient : sink.Patient) (first : UInt8) (later : Bytes) :
    (sink.withinLimit (first :: later) = [] ∧
      ((∃ fault, sink.write (first :: later) = (.error fault, sink)) ∨
        sink.write (first :: later) = (.ok [], sink))) ∨
    ∃ taken rest, later = taken ++ rest ∧ sink.Fits (first :: taken) ∧
      sink.write (first :: later) = (.ok (first :: taken), sink.grown (first :: taken) false) := by
  obtain ⟨behind, cut⟩ := sink.front_withinLimit (first :: later)
  cases allowed : sink.withinLimit (first :: later) with
  | nil =>
    refine .inl ⟨rfl, ?_⟩
    have nothing : sink.withinWrite [] = [] := by
      unfold withinWrite
      split <;> simp
    cases fails : sink.limitFault with
    | some fault => exact .inl ⟨fault, by simp only [Sink.write, allowed, fails]⟩
    | none => exact .inr (by simp only [Sink.write, allowed, fails, nothing])
  | cons next most =>
    refine .inr ?_
    rw [allowed, List.cons_append, List.cons.injEq] at cut
    obtain ⟨rfl, rfl⟩ := cut
    -- What the limit leaves of the message fits, and so does every front of it.
    have fits : ∀ taken rest, most = taken ++ rest → sink.Fits (next :: taken) := by
      rintro taken rest rfl
      cases limited : sink.limit with
      | none => simp only [Fits, withinLimit, limited]
      | some limit =>
        simp only [withinLimit, limited] at allowed
        have length := congrArg List.length allowed
        simp only [List.length_take, List.length_cons, List.length_append] at length
        rw [fits_of_limit limited, List.length_cons]
        omega
    cases width : sink.perWrite with
    | none =>
      have chosen : sink.withinWrite (next :: most) = next :: most := by
        simp only [withinWrite, width]
      refine ⟨most, behind, rfl, fits most [] (List.append_nil most).symm, ?_⟩
      simp only [Sink.write, allowed, chosen]
      rfl
    | some limit =>
      cases limit with
      | zero => exact absurd width patient.progresses
      | succ limit =>
        have chosen : sink.withinWrite (next :: most) = next :: most.take limit := by
          simp only [withinWrite, width, List.take_succ_cons]
        refine ⟨most.take limit, most.drop limit ++ behind, ?_, ?_, ?_⟩
        · rw [← List.append_assoc, List.take_append_drop]
        · exact fits _ _ (List.take_append_drop limit most).symm
        · simp only [Sink.write, allowed, chosen]
          rfl

/-- A message is taken up to the limit, and it is sent if and only if it fits. -/
theorem Patient.writeAll {sink : Sink} (patient : sink.Patient) (nothing : IoError)
    (bytes : Bytes) :
    (sink.writeAll nothing bytes).2 =
        sink.grown (sink.withinLimit bytes)
          (sink.flushed && (sink.withinLimit bytes).isEmpty) ∧
      (sink.Fits bytes → (sink.writeAll nothing bytes).1 = .ok ()) ∧
      (¬sink.Fits bytes → ∃ failure, (sink.writeAll nothing bytes).1 = .error failure) := by
  cases bytes with
  | nil =>
    rw [Sink.writeAll, withinLimit_nil, grown_nil, List.isEmpty_nil, Bool.and_true]
    exact ⟨rfl, fun _ => rfl, fun tight => absurd sink.withinLimit_nil tight⟩
  | cons first later =>
    obtain ⟨full, refused⟩ | ⟨taken, rest, rfl, fits, wrote⟩ := patient.write first later
    · have tight : ¬sink.Fits (first :: later) := by
        rw [Fits, full]
        exact List.cons_ne_nil _ _ ∘ Eq.symm
      rw [full, grown_nil, List.isEmpty_nil, Bool.and_true]
      obtain ⟨fault, wrote⟩ | wrote := refused
      · rw [Sink.writeAll, wrote]
        exact ⟨rfl, fun whole => absurd whole tight, fun _ => ⟨_, rfl⟩⟩
      · rw [Sink.writeAll, wrote]
        exact ⟨rfl, fun whole => absurd whole tight, fun _ => ⟨_, rfl⟩⟩
    · have onward : (sink.grown (first :: taken) false).Patient := patient.grown
      obtain ⟨left, sent, stopped⟩ := onward.writeAll nothing rest
      have split : sink.withinLimit (first :: (taken ++ rest)) =
          first :: taken ++ (sink.grown (first :: taken) false).withinLimit rest := by
        rw [← List.cons_append, withinLimit_append sink (first :: taken) rest false, fits]
      have whole : sink.Fits (first :: (taken ++ rest)) ↔
          (sink.grown (first :: taken) false).Fits rest := by
        rw [← List.cons_append, fits_append false, and_iff_right fits]
      have unflushed : (sink.grown (first :: taken) false).flushed = false := rfl
      rw [Sink.writeAll, wrote]
      dsimp only
      rw [List.drop_left, left, split, whole, grown_grown, unflushed, Bool.false_and,
        List.cons_append, List.isEmpty_cons, Bool.and_false]
      exact ⟨rfl, sent, stopped⟩
termination_by bytes.length

end TunnelBench.Sink
