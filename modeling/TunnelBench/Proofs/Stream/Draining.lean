import TunnelBench.Response.Rendering

/-!
# Reading to the end

A source is read to its end by one read after another. A read that is interrupted is made
again, every other fault ends the reading, and so does a read that brings nothing. What
comes out is known from the pieces alone: it does not depend on the room of the reads.
-/
namespace TunnelBench.Source

/-- The bytes that reading to the end brings. -/
def supply : Source → Bytes
  | [] => []
  | .fault (.interrupted _) :: rest => supply rest
  | .fault _ :: _ => []
  | .data [] :: _ => []
  | .data (byte :: bytes) :: rest => byte :: bytes ++ supply rest

/-- The fault that ends the reading, unless the end is reached. -/
def halt? : Source → Option Fault
  | [] => none
  | .fault (.interrupted _) :: rest => halt? rest
  | .fault fault :: _ => some fault
  | .data [] :: _ => none
  | .data (_ :: _) :: rest => halt? rest

/-- What reads bring, each with a room of its own, and the fault that ends them. -/
inductive ReadsOut : Source → Bytes → Option Fault → Prop
  /-- A read with room brings nothing. -/
  | ended {source rest : Source} {room : Nat} (positive : 0 < room)
      (result : source.read room = (.ok [], rest)) : ReadsOut source [] none
  /-- An interrupted read is made again. -/
  | again {source rest : Source} {room : Nat} {text : String} {bytes : Bytes} {stop : Option Fault}
      (result : source.read room = (.error (.interrupted text), rest))
      (later : ReadsOut rest bytes stop) : ReadsOut source bytes stop
  /-- A read fails otherwise. -/
  | broken {source rest : Source} {room : Nat} {fault : Fault}
      (lasting : ∀ text, fault ≠ .interrupted text)
      (result : source.read room = (.error fault, rest)) : ReadsOut source [] (some fault)
  /-- A read brings bytes, and another one follows. -/
  | received {source rest : Source} {room : Nat} {byte : UInt8} {bytes more : Bytes}
      {stop : Option Fault} (result : source.read room = (.ok (byte :: bytes), rest))
      (later : ReadsOut rest more stop) : ReadsOut source (byte :: bytes ++ more) stop

/-- A read with room that brings nothing has met the end. -/
theorem supply_of_read_nothing {room : Nat} (positive : 0 < room) {source rest : Source}
    (result : source.read room = (.ok [], rest)) : source.supply = [] ∧ source.halt? = none := by
  obtain ⟨-, rfl, -⟩ | ⟨-, rfl⟩ | ⟨_, _, _, narrow, -, -⟩ := piece_of_read result
  · exact ⟨rfl, rfl⟩
  · exact ⟨rfl, rfl⟩
  · exact absurd narrow (Nat.ne_of_lt positive)

/-- What a read brings comes before what the later reads bring. -/
theorem supply_of_read_ok {room : Nat} {source rest : Source} {byte : UInt8} {bytes : Bytes}
    (result : source.read room = (.ok (byte :: bytes), rest)) :
    source.supply = byte :: bytes ++ rest.supply ∧ source.halt? = rest.halt? := by
  obtain ⟨nothing, -, -⟩ | ⟨-, rfl⟩ | ⟨next, left, later, -, rfl, rfl⟩ := piece_of_read result
  · exact absurd nothing (List.cons_ne_nil byte bytes)
  · exact ⟨rfl, rfl⟩
  · refine ⟨?_, rfl⟩
    rw [List.cons_append, supply, supply, List.cons_append, List.cons_append, List.append_assoc]

/-- An interrupted read brings nothing and ends nothing. -/
theorem supply_of_read_interrupted {room : Nat} {source rest : Source} {text : String}
    (result : source.read room = (.error (.interrupted text), rest)) :
    source.supply = rest.supply ∧ source.halt? = rest.halt? := by
  rw [fault_of_read result]
  exact ⟨rfl, rfl⟩

/-- A read that fails otherwise ends the reading. -/
theorem supply_of_read_error {room : Nat} {source rest : Source} {fault : Fault}
    (lasting : ∀ text, fault ≠ .interrupted text)
    (result : source.read room = (.error fault, rest)) :
    source.supply = [] ∧ source.halt? = some fault := by
  rw [fault_of_read result]
  cases fault with
  | interrupted text => exact absurd rfl (lasting text)
  | broken text => exact ⟨rfl, rfl⟩
  | silent => exact ⟨rfl, rfl⟩

/-- Whatever room the reads have, they bring the same bytes and end in the same way. -/
theorem ReadsOut.eq {source : Source} {bytes : Bytes} {stop : Option Fault}
    (out : source.ReadsOut bytes stop) : bytes = source.supply ∧ stop = source.halt? := by
  induction out with
  | ended positive result =>
    obtain ⟨supplied, halted⟩ := supply_of_read_nothing positive result
    exact ⟨supplied.symm, halted.symm⟩
  | again result later ih =>
    obtain ⟨supplied, halted⟩ := supply_of_read_interrupted result
    rw [supplied, halted]
    exact ih
  | broken lasting result =>
    obtain ⟨supplied, halted⟩ := supply_of_read_error lasting result
    exact ⟨supplied.symm, halted.symm⟩
  | received result later ih =>
    obtain ⟨supplied, halted⟩ := supply_of_read_ok result
    rw [supplied, halted, ← ih.1]
    exact ⟨rfl, ih.2⟩

/-- Every source can be read to its end or to a fault. -/
theorem readsOut (source : Source) : source.ReadsOut source.supply source.halt? := by
  fun_induction supply source with
  | case1 => exact .ended Nat.one_pos rfl
  | case2 text rest ih =>
    have result : read 1 (.fault (.interrupted text) :: rest) =
        (.error (.interrupted text), rest) := rfl
    exact .again result ih
  | case3 fault rest lasting =>
    have result : read 1 (.fault fault :: rest) = (.error fault, rest) := rfl
    have halted := (supply_of_read_error (fun text => lasting text) result).2
    rw [halted]
    exact .broken (fun text => lasting text) result
  | case4 rest => exact .ended Nat.one_pos rfl
  | case5 byte bytes rest ih =>
    have result : read (bytes.length + 1) (.data (byte :: bytes) :: rest) =
        (.ok (byte :: bytes), rest) := by
      simp only [read, List.drop_succ_cons, List.drop_length]
    exact .received result ih

/-- What a source is drained of is what reads of any room bring. -/
theorem drain_eq (source : Source) : source.drain =
    match source.halt? with
    | none => .ok source.supply
    | some fault => .error fault := by
  fun_induction drain source with
  | case1 => rfl
  | case2 text rest ih =>
    rw [ih]
    rfl
  | case3 fault rest lasting =>
    have result : read 1 (.fault fault :: rest) = (.error fault, rest) := rfl
    rw [(supply_of_read_error (fun text => lasting text) result).2]
  | case4 rest => rfl
  | case5 byte bytes rest ih =>
    rw [ih, supply, halt?]
    cases halt? rest with
    | none => rfl
    | some fault => rfl

end TunnelBench.Source
