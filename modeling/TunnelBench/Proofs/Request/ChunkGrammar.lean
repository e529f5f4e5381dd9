import TunnelBench.Proofs.Request.ChunkDecision

/-!
# The grammar of chunked bodies

A chunked body is written down here as what it is made of: chunks that declare the size of
their data, a last size line that declares none, and trailer lines up to an empty one. Each
part carries the proof that it is well formed. A parser of a part finds it exactly where it
stands, and so no bytes can be taken for two different bodies.
-/
namespace TunnelBench.Chunk

/-- A chunk with its data. -/
structure Sized where
  /-- The size line, with its line end. -/
  line : Bytes
  data : Bytes
  /-- The whole line is a size line, and it declares the size of the data. -/
  declares : sizeLine line = .done data.length []
  /-- The size is not the zero that ends the chunks. -/
  given : data ≠ []
  /-- The size fits a machine word together with a line end. -/
  fits : data.length ≤ UInt64.size - 3

/-- A trailer line. -/
structure Trailer where
  /-- The line without its line end. -/
  text : Bytes
  /-- The line is not the empty one that ends the trailers. -/
  given : text ≠ []
  /-- The line ends at its first line end. -/
  single : ¬Bytes.lineEnd <:+: text

/-- A chunked body. -/
structure Body where
  chunks : List Sized
  /-- The size line behind the chunks, with its line end. -/
  last : Bytes
  /-- The whole line is a size line, and it declares zero. -/
  ends : sizeLine last = .done 0 []
  trailers : List Trailer

/-- A chunk as it is sent. -/
def Sized.bytes (chunk : Sized) : Bytes := chunk.line ++ (chunk.data ++ Bytes.lineEnd)

/-- A trailer line as it is sent. -/
def Trailer.bytes (trailer : Trailer) : Bytes := trailer.text ++ Bytes.lineEnd

/-- The chunked body as it is sent. -/
def Body.bytes (body : Body) : Bytes :=
  body.chunks.flatMap Sized.bytes ++ (body.last ++ (body.trailers.flatMap Trailer.bytes ++
    Bytes.lineEnd))

/-- The data of all chunks. -/
def Body.data (body : Body) : Bytes := body.chunks.flatMap Sized.data

/-- A size is found behind a whole size line, whatever comes then. -/
theorem size_eq_done {bytes rest : Bytes} {value : Nat} :
    size bytes = .done value rest ↔
      ∃ line, bytes = line ++ rest ∧ sizeLine line = .done value [] ∧ value ≤ UInt64.size - 3 := by
  have fits : (decide (value + 2 < Framing.sizeBound) = true) ↔ value ≤ UInt64.size - 3 := by
    rw [decide_eq_true_iff, Framing.sizeBound, UInt64.size]
    omega
  unfold size
  constructor
  · intro result
    obtain ⟨found, suffix, lineResult, required⟩ := Parser.bind_eq_done.1 result
    obtain ⟨_, behind, required, accepted⟩ := Parser.bind_eq_done.1 required
    obtain ⟨small, rfl⟩ := Parser.require_eq_done.1 required
    obtain ⟨rfl, rfl⟩ := Parser.pure_eq_done.1 accepted
    obtain ⟨line, rfl, stands⟩ := delimited_sizeLine.1 lineResult
    have alone := stands []
    rw [List.append_nil] at alone
    exact ⟨line, rfl, alone, fits.1 small⟩
  · rintro ⟨line, rfl, lineResult, small⟩
    have stands := steady_sizeLine.done lineResult rest
    rw [List.nil_append] at stands
    rw [Parser.bind_of_done stands,
      Parser.bind_of_done (Parser.require_eq_done.2 ⟨fits.2 small, rfl⟩)]
    rfl

/-- Data are found in front of a line end. -/
theorem data_eq_done {length : Nat} {bytes value rest : Bytes} :
    data length bytes = .done value rest ↔
      bytes = value ++ (Bytes.lineEnd ++ rest) ∧ value.length = length := by
  unfold data
  constructor
  · intro result
    obtain ⟨block, suffix, blockResult, required⟩ := Parser.bind_eq_done.1 result
    obtain ⟨_, behind, required, accepted⟩ := Parser.bind_eq_done.1 required
    obtain ⟨ending, rfl⟩ := Parser.require_eq_done.1 required
    obtain ⟨rfl, rfl⟩ := Parser.pure_eq_done.1 accepted
    obtain ⟨rfl, sized⟩ := Parser.block_eq_done.1 blockResult
    have split := List.take_append_drop length block
    rw [eq_of_beq ending] at split
    constructor
    · rw [← List.append_assoc, split]
    · rw [List.length_take]
      omega
  · rintro ⟨rfl, rfl⟩
    have block : Parser.block (value.length + 2) (value ++ (Bytes.lineEnd ++ rest)) =
        .done (value ++ Bytes.lineEnd) rest :=
      Parser.block_eq_done.2 ⟨(List.append_assoc _ _ _).symm, List.length_append⟩
    rw [Parser.bind_of_done block, List.drop_left, List.take_left,
      Parser.bind_of_done (Parser.require_eq_done.2 ⟨beq_self_eq_true _, rfl⟩)]
    rfl

/-- A line is found in front of the first line end. -/
theorem lineFrom_eq_done {empty value : Bool} {bytes rest : Bytes} :
    lineFrom empty bytes = .done value rest ↔
      ∃ text, bytes = text ++ (Bytes.lineEnd ++ rest) ∧ ¬Bytes.lineEnd <:+: text ∧
        value = (empty && text.isEmpty) := by
  constructor
  · intro result
    fun_induction lineFrom empty bytes with
    | case1 => contradiction
    | case2 empty byte behind ends =>
      simp only [Progress.done.injEq] at result
      obtain ⟨rfl, rfl⟩ := result
      simp only [Bool.and_eq_true, beq_iff_eq] at ends
      obtain ⟨rfl, feed⟩ := ends
      obtain ⟨tail, rfl⟩ := List.head?_eq_some_iff.1 feed
      exact ⟨[], rfl, by simp [Bytes.lineEnd], by simp⟩
    | case3 empty byte behind goesOn ih =>
      obtain ⟨text, rfl, single, rfl⟩ := ih result
      refine ⟨byte :: text, rfl, ?_, by simp⟩
      rw [List.infix_cons_iff, not_or]
      refine ⟨?_, single⟩
      rintro ⟨later, split⟩
      simp only [Bytes.lineEnd, List.cons_append, List.nil_append, List.cons.injEq] at split
      obtain ⟨rfl, rfl⟩ := split
      simp at goesOn
  · rintro ⟨text, rfl, single, rfl⟩
    induction text generalizing empty with
    | nil => simp [lineFrom, Bytes.lineEnd]
    | cons byte text ih =>
      rw [List.infix_cons_iff, not_or] at single
      have goesOn : ¬(byte == 13 && (text ++ (Bytes.lineEnd ++ rest)).head? == some 10) = true := by
        intro ends
        simp only [Bool.and_eq_true, beq_iff_eq] at ends
        obtain ⟨rfl, feed⟩ := ends
        cases text with
        | nil => simp [Bytes.lineEnd] at feed
        | cons second text =>
          simp only [List.cons_append, List.head?_cons, Option.some.injEq] at feed
          subst feed
          exact single.1 ⟨text, rfl⟩
      rw [List.cons_append, lineFrom, if_neg goesOn, ih single.2]
      simp

/-- The trailers end at an empty line. -/
theorem trailerLine_eq_done_true {bytes rest : Bytes} :
    trailerLine bytes = .done true rest ↔ bytes = Bytes.lineEnd ++ rest := by
  rw [trailerLine, lineFrom_eq_done]
  constructor
  · rintro ⟨text, rfl, _, blank⟩
    rw [Bool.true_and, eq_comm, List.isEmpty_iff] at blank
    rw [blank]
    rfl
  · rintro rfl
    exact ⟨[], rfl, by simp [Bytes.lineEnd], rfl⟩

/-- A trailer line is found in front of its line end. -/
theorem trailerLine_eq_done_false {bytes rest : Bytes} :
    trailerLine bytes = .done false rest ↔ ∃ trailer : Trailer, bytes = trailer.bytes ++ rest := by
  rw [trailerLine, lineFrom_eq_done]
  constructor
  · rintro ⟨text, rfl, single, filled⟩
    have given : text ≠ [] := by
      rintro rfl
      contradiction
    exact ⟨⟨text, given, single⟩, (List.append_assoc _ _ _).symm⟩
  · rintro ⟨trailer, rfl⟩
    refine ⟨trailer.text, List.append_assoc _ _ _, trailer.single, ?_⟩
    rw [Bool.true_and, List.isEmpty_eq_false_iff.2 trailer.given]

/-- Bytes start with one size line at most. -/
theorem sizeLine_unique {left right behind after : Bytes} {size other : Nat}
    (leftDeclares : sizeLine left = .done size []) (rightDeclares : sizeLine right = .done other [])
    (same : left ++ behind = right ++ after) : left = right ∧ size = other ∧ behind = after := by
  have leftResult := steady_sizeLine.done leftDeclares behind
  have rightResult := steady_sizeLine.done rightDeclares after
  rw [same, rightResult, Progress.done.injEq] at leftResult
  obtain ⟨rfl, rfl⟩ := leftResult
  exact ⟨List.append_cancel_right same, rfl, rfl⟩

/-- Bytes start with one chunk at most. -/
theorem Sized.eq_of_append {left right : Sized} {behind after : Bytes}
    (same : left.bytes ++ behind = right.bytes ++ after) : left = right ∧ behind = after := by
  obtain ⟨line, data, declares, _, _⟩ := left
  obtain ⟨other, another, otherDeclares, _, _⟩ := right
  simp only [Sized.bytes, List.append_assoc] at same
  obtain ⟨rfl, sized, onward⟩ := sizeLine_unique declares otherDeclares same
  obtain ⟨rfl, ending⟩ := List.append_inj onward sized
  exact ⟨rfl, List.append_cancel_left ending⟩

/-- Bytes start with one trailer line at most. -/
theorem Trailer.eq_of_append {left right : Trailer} {behind after : Bytes}
    (same : left.bytes ++ behind = right.bytes ++ after) : left = right ∧ behind = after := by
  have leftResult := trailerLine_eq_done_false.2 ⟨left, same.symm⟩
  have rightResult := trailerLine_eq_done_false.2 ⟨right, Eq.refl (right.bytes ++ after)⟩
  rw [rightResult, Progress.done.injEq] at leftResult
  obtain ⟨_, rfl⟩ := leftResult
  have text := List.append_cancel_right (List.append_cancel_right same)
  cases left
  cases right
  cases text
  exact ⟨rfl, rfl⟩

/-- Bytes that start with a trailer line do not start with the end of the trailers. -/
theorem Trailer.bytes_append_ne (trailer : Trailer) (behind rest : Bytes) :
    trailer.bytes ++ behind ≠ Bytes.lineEnd ++ rest := by
  intro same
  have filled := trailerLine_eq_done_false.2 ⟨trailer, same.symm⟩
  rw [trailerLine_eq_done_true.2 rfl] at filled
  simp at filled

/-- Bytes start with trailers up to their end in one way at most. -/
theorem trailers_unique {left right : List Trailer} {behind after : Bytes}
    (same : left.flatMap Trailer.bytes ++ (Bytes.lineEnd ++ behind) =
      right.flatMap Trailer.bytes ++ (Bytes.lineEnd ++ after)) : left = right ∧ behind = after := by
  induction left generalizing right with
  | nil =>
    cases right with
    | nil => exact ⟨rfl, List.append_cancel_left same⟩
    | cons trailer right =>
      rw [List.flatMap_nil, List.nil_append, List.flatMap_cons, List.append_assoc] at same
      exact absurd same.symm (Trailer.bytes_append_ne _ _ _)
  | cons first left ih =>
    cases right with
    | nil =>
      rw [List.flatMap_nil, List.nil_append, List.flatMap_cons, List.append_assoc] at same
      exact absurd same (Trailer.bytes_append_ne _ _ _)
    | cons second right =>
      simp only [List.flatMap_cons, List.append_assoc] at same
      obtain ⟨rfl, onward⟩ := Trailer.eq_of_append same
      obtain ⟨rfl, rfl⟩ := ih onward
      exact ⟨rfl, rfl⟩

/-- Bytes that start with a chunk do not start with the size line that ends the chunks. -/
theorem Sized.bytes_append_ne (chunk : Sized) {last : Bytes} (ends : sizeLine last = .done 0 [])
    (behind rest : Bytes) : chunk.bytes ++ behind ≠ last ++ rest := by
  intro same
  rw [Sized.bytes, List.append_assoc] at same
  obtain ⟨_, empty, _⟩ := sizeLine_unique chunk.declares ends same
  exact chunk.given (List.length_eq_zero_iff.1 empty)

/-- Bytes start with chunks and a last size line in one way at most. -/
theorem chunks_unique {left right : List Sized} {last other behind after : Bytes}
    (lastEnds : sizeLine last = .done 0 []) (otherEnds : sizeLine other = .done 0 [])
    (same : left.flatMap Sized.bytes ++ (last ++ behind) =
      right.flatMap Sized.bytes ++ (other ++ after)) :
    left = right ∧ last = other ∧ behind = after := by
  induction left generalizing right with
  | nil =>
    cases right with
    | nil =>
      obtain ⟨rfl, _, rfl⟩ := sizeLine_unique lastEnds otherEnds same
      exact ⟨rfl, rfl, rfl⟩
    | cons chunk right =>
      rw [List.flatMap_nil, List.nil_append, List.flatMap_cons, List.append_assoc] at same
      exact absurd same.symm (chunk.bytes_append_ne lastEnds _ _)
  | cons first left ih =>
    cases right with
    | nil =>
      rw [List.flatMap_nil, List.nil_append, List.flatMap_cons, List.append_assoc] at same
      exact absurd same (first.bytes_append_ne otherEnds _ _)
    | cons second right =>
      simp only [List.flatMap_cons, List.append_assoc] at same
      obtain ⟨rfl, onward⟩ := Sized.eq_of_append same
      obtain ⟨rfl, rfl, rfl⟩ := ih onward
      exact ⟨rfl, rfl, rfl⟩

/-- Bytes start with one chunked body at most. -/
theorem Body.eq_of_append {left right : Body} {behind after : Bytes}
    (same : left.bytes ++ behind = right.bytes ++ after) : left = right ∧ behind = after := by
  obtain ⟨chunks, last, ends, trailers⟩ := left
  obtain ⟨others, other, otherEnds, another⟩ := right
  simp only [Body.bytes, List.append_assoc] at same
  obtain ⟨rfl, rfl, onward⟩ := chunks_unique ends otherEnds same
  obtain ⟨rfl, rfl⟩ := trailers_unique onward
  exact ⟨rfl, rfl⟩

end TunnelBench.Chunk
