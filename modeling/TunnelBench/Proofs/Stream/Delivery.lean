import TunnelBench.Stream.Source

/-!
# Ways of delivery

The same bytes can arrive in many ways: as one piece, byte by byte, or cut anywhere. A
way of delivery is a source of non-empty pieces; its reads neither fail nor bring
nothing until all bytes have arrived. Whatever room a read has, it takes bytes from the
front and leaves a way of delivering the others.
-/
namespace TunnelBench.Source

/-- A source of non-empty pieces without faults. -/
def Full (source : Source) : Prop := ∀ piece ∈ source, ∃ bytes, piece = .data bytes ∧ bytes ≠ []

/-- A way of delivering some bytes. -/
def Delivers (source : Source) (bytes : Bytes) : Prop := source.Full ∧ source.content = bytes

/-- Nothing is a way of delivering nothing. -/
theorem full_nil : Full [] := fun _ member => absurd member List.not_mem_nil

/-- A piece in front of a way of delivery has to bring bytes. -/
theorem full_cons {piece : Piece} {rest : Source} :
    Full (piece :: rest) ↔ (∃ bytes, piece = .data bytes ∧ bytes ≠ []) ∧ Full rest :=
  List.forall_mem_cons

/-- Nothing is delivered by no pieces. -/
@[simp] theorem content_nil : content [] = [] := rfl

/-- The bytes of a piece are delivered before those of the later pieces. -/
@[simp] theorem content_cons (piece : Piece) (rest : Source) :
    content (piece :: rest) = piece.content ++ content rest := by
  simp [content]

/-- A way of delivery without bytes has no pieces. -/
theorem Full.eq_nil {source : Source} (full : source.Full) (empty : source.content = []) :
    source = [] := by
  cases source with
  | nil => rfl
  | cons piece rest =>
    obtain ⟨⟨bytes, rfl, given⟩, _⟩ := full_cons.1 full
    rw [content_cons, List.append_eq_nil_iff] at empty
    exact absurd empty.1 given

/-- Bytes delivered as one piece. -/
theorem delivers_whole {bytes : Bytes} (given : bytes ≠ []) : Delivers [.data bytes] bytes := by
  refine ⟨full_cons.2 ⟨⟨bytes, rfl, given⟩, full_nil⟩, ?_⟩
  rw [content_cons, content_nil, List.append_nil]
  rfl

/-- Bytes delivered one by one. -/
theorem delivers_bytewise (bytes : Bytes) :
    Delivers (bytes.map fun byte => .data [byte]) bytes := by
  induction bytes with
  | nil => exact ⟨full_nil, rfl⟩
  | cons head tail ih =>
    rw [List.map_cons]
    refine ⟨full_cons.2 ⟨⟨[head], rfl, List.cons_ne_nil _ _⟩, ih.1⟩, ?_⟩
    rw [content_cons, ih.2]
    rfl

/-- One read takes bytes from the front of what is delivered, whatever comes after it. -/
theorem Full.read_append {pieces : Source} (full : pieces.Full) (present : pieces ≠ []) {room : Nat}
    (positive : 0 < room) :
    ∃ byte received left, Full left ∧ pieces.content = byte :: received ++ left.content ∧
      ∀ after, read room (pieces ++ after) = (.ok (byte :: received), left ++ after) := by
  cases pieces with
  | nil => exact absurd rfl present
  | cons piece rest =>
    obtain ⟨⟨bytes, rfl, given⟩, restFull⟩ := full_cons.1 full
    rw [content_cons]
    cases long : bytes.drop room with
    | nil =>
      obtain ⟨byte, received, rfl⟩ := List.exists_cons_of_ne_nil given
      refine ⟨byte, received, rest, restFull, rfl, fun after => ?_⟩
      rw [List.cons_append, read, long]
    | cons byte later =>
      have taken : bytes.take room ≠ [] := by
        rw [Ne, List.take_eq_nil_iff]
        exact not_or.2 ⟨Nat.ne_of_gt positive, given⟩
      obtain ⟨first, received, front⟩ := List.exists_cons_of_ne_nil taken
      refine ⟨first, received, .data (byte :: later) :: rest,
        full_cons.2 ⟨⟨byte :: later, rfl, List.cons_ne_nil _ _⟩, restFull⟩, ?_, fun after => ?_⟩
      · rw [content_cons, ← front, ← List.append_assoc]
        simp only [Piece.content]
        rw [← long, List.take_append_drop]
      · rw [List.cons_append, read, long, front]
        rfl

/-- One read takes bytes from the front of what is delivered, and from nowhere else. -/
theorem Full.read_eq {pieces : Source} (full : pieces.Full) (present : pieces ≠ []) {room : Nat}
    (positive : 0 < room) (after : Source) :
    ∃ byte received left, read room (pieces ++ after) = (.ok (byte :: received), left ++ after) ∧
      Full left ∧ pieces.content = byte :: received ++ left.content := by
  obtain ⟨byte, received, left, leftFull, split, result⟩ := full.read_append present positive
  exact ⟨byte, received, left, result after, leftFull, split⟩

end TunnelBench.Source
