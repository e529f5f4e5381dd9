import TunnelBench.Proofs.Stream.Ending
import TunnelBench.Proofs.Stream.Receiving

/-!
# Passes of a reader

A reader goes round in passes. A pass looks at the waiting bytes, and then it leaves with what has
been read, goes on with fewer waiting bytes, or goes on with more of them that a read has brought. A
byte that is not yet received can be received once and used once, so the number of the passes is
bounded by the bytes of the source.
-/
namespace TunnelBench

/-- Where a reader stands before a pass. -/
structure Standing (stage : Type) where
  /-- The stage that looks at the waiting bytes. -/
  current : stage
  buffer : Buffer
  source : Source

/-- What is left to do: a byte to come is received and used, a waiting byte is only used. -/
def Standing.work {stage : Type} (standing : Standing stage) : Nat :=
  2 * standing.source.content.length + standing.buffer.bytes.length

namespace Staged

variable {stage result : Type}

/-- Reads one message from where a reader stands. -/
def readFrom (staged : Staged stage result) (standing : Standing stage) : Reading result :=
  staged.read standing.current standing.buffer standing.source

/-- A pass of a reader, which goes on from another standing or leaves with what has been read. -/
def pass (staged : Staged stage result) (standing : Standing stage) :
    Standing stage ⊕ Reading result :=
  match staged.step standing.current standing.buffer.bytes with
  | .finish value rest => .inr ⟨.ok value, rest, standing.source⟩
  | .next later rest => .inl ⟨later, standing.buffer.keep rest, standing.source⟩
  | .failed reason => .inr ⟨.error (.malformed reason), standing.buffer.bytes, standing.source⟩
  | .more wanted =>
    let prepared := standing.buffer.prepare wanted
    match standing.source.read prepared.room with
    | (.error fault, rest) => .inr ⟨.error (.io (.stream fault)), prepared.bytes, rest⟩
    | (.ok [], rest) => .inr ⟨.error .incompleteRequest, prepared.bytes, rest⟩
    | (.ok (byte :: bytes), rest) =>
      .inl ⟨standing.current, prepared.append (byte :: bytes), rest⟩

/-- What a pass does to the waiting bytes and to those that are still to come. -/
inductive Proceeds (staged : Staged stage result) (standing : Standing stage) : Prop
  /-- The pass is the last one. -/
  | leaves {reading : Reading result} (left : staged.pass standing = .inr reading) :
    Proceeds staged standing
  /-- Waiting bytes are used up, and nothing is read. -/
  | consumes {later : Standing stage} (onward : staged.pass standing = .inl later)
    (fewer : later.buffer.bytes.length < standing.buffer.bytes.length)
    (source : later.source = standing.source) : Proceeds staged standing
  /-- The next bytes of the source come behind those that wait, at least one. -/
  | receives {later : Standing stage} {received : Bytes}
    (onward : staged.pass standing = .inl later)
    (given : received ≠ []) (stage : later.current = standing.current)
    (bytes : later.buffer.bytes = standing.buffer.bytes ++ received)
    (source : standing.source.content = received ++ later.source.content) :
    Proceeds staged standing

/-- A pass goes on with the rest where a stage hands over. -/
theorem pass_next {staged : Staged stage result} {standing : Standing stage} {later : stage}
    {rest : Bytes}
    (decided : staged.step standing.current standing.buffer.bytes = .next later rest) :
    staged.pass standing = .inl ⟨later, standing.buffer.keep rest, standing.source⟩ := by
  rw [pass, decided]

/-- A pass goes on with the bytes that a read brings. -/
theorem pass_received {staged : Staged stage result} {standing : Standing stage} {wanted : Nat}
    {byte : UInt8} {bytes : Bytes} {rest : Source}
    (undecided : staged.step standing.current standing.buffer.bytes = .more wanted)
    (received : standing.source.read (standing.buffer.prepare wanted).room =
      (.ok (byte :: bytes), rest)) :
    staged.pass standing = .inl ⟨standing.current,
      (standing.buffer.prepare wanted).append (byte :: bytes), rest⟩ := by
  simp only [pass, undecided, received]

/-- Every pass leaves, uses up waiting bytes, or receives new ones. -/
theorem proceeds (staged : Staged stage result) (standing : Standing stage) :
    staged.Proceeds standing := by
  cases decided : staged.step standing.current standing.buffer.bytes with
  | finish value rest => exact .leaves (by rw [pass, decided])
  | failed reason => exact .leaves (by rw [pass, decided])
  | next later rest => exact .consumes (pass_next decided) (staged.shrinks decided) rfl
  | more wanted =>
    match received : standing.source.read (standing.buffer.prepare wanted).room with
    | (.error fault, rest) => exact .leaves (by simp only [pass, decided, received]; rfl)
    | (.ok [], rest) => exact .leaves (by simp only [pass, decided, received]; rfl)
    | (.ok (byte :: bytes), rest) =>
      have behind : ((standing.buffer.prepare wanted).append (byte :: bytes)).bytes =
          standing.buffer.bytes ++ byte :: bytes := by
        rw [Buffer.bytes_append, Buffer.bytes_prepare]
      exact .receives (pass_received decided received) (List.cons_ne_nil byte bytes) rfl behind
        (Source.content_of_read_ok received)

variable {staged : Staged stage result} {standing later : Standing stage}

/-- A pass that goes on leaves less to do. -/
theorem work_lt_of_pass (onward : staged.pass standing = .inl later) :
    later.work < standing.work := by
  cases staged.proceeds standing with
  | leaves left =>
    rw [onward] at left
    contradiction
  | consumes same fewer source =>
    obtain rfl := Sum.inl.inj (onward.symm.trans same)
    rw [Standing.work, Standing.work, source]
    omega
  | receives same given stage bytes source =>
    obtain rfl := Sum.inl.inj (onward.symm.trans same)
    have positive := List.length_pos_iff.2 given
    rw [Standing.work, Standing.work, source, bytes, List.length_append, List.length_append]
    omega

/-- Reading is a pass, and reading from where it goes on. -/
theorem readFrom_eq_pass (staged : Staged stage result) (standing : Standing stage) :
    staged.readFrom standing = match staged.pass standing with
      | .inl later => staged.readFrom later
      | .inr reading => reading := by
  rw [readFrom, pass]
  cases decided : staged.step standing.current standing.buffer.bytes with
  | finish value rest => rw [read_finish decided]
  | next later rest => exact read_next decided standing.source
  | failed reason => rw [read_failed decided]
  | more wanted =>
    match received : standing.source.read (standing.buffer.prepare wanted).room with
    | (.error fault, rest) =>
      rw [read_fault decided received]
      simp only [received, Buffer.bytes_prepare]
    | (.ok [], rest) =>
      rw [read_ended decided received]
      simp only [received, Buffer.bytes_prepare]
    | (.ok (byte :: bytes), rest) =>
      rw [read_received decided received]
      simp only [received]
      rfl

/-- Where a reader stands before each of its passes, from the first one on. -/
def standings (staged : Staged stage result) (standing : Standing stage) : List (Standing stage) :=
  standing :: match _ : staged.pass standing with
    | .inl later => staged.standings later
    | .inr _ => []
termination_by standing.work
decreasing_by exact work_lt_of_pass ‹_›

/-- A pass that goes on is followed by those from there. -/
theorem standings_of_onward (onward : staged.pass standing = .inl later) :
    staged.standings standing = standing :: staged.standings later := by
  rw [standings]
  split <;> simp_all

/-- A pass that leaves is the last one. -/
theorem standings_of_left {reading : Reading result} (left : staged.pass standing = .inr reading) :
    staged.standings standing = [standing] := by
  rw [standings]
  split <;> simp_all

/-- A reader stands where it starts. -/
theorem mem_standings_self (standing : Standing stage) : standing ∈ staged.standings standing := by
  rw [standings]
  exact List.mem_cons_self

/-- A reader stands where it goes on, and wherever it stands from there. -/
theorem mem_standings_of_onward (onward : staged.pass standing = .inl later)
    {visited : Standing stage} (member : visited ∈ staged.standings later) :
    visited ∈ staged.standings standing := by
  rw [standings_of_onward onward]
  exact List.mem_cons_of_mem standing member

/-- What every pass keeps holds before all passes if it holds before the first one. -/
theorem forall_standings {property : Standing stage → Prop}
    (keeps : ∀ earlier next, staged.pass earlier = .inl next → property earlier → property next)
    (standing : Standing stage) (start : property standing) :
    ∀ visited ∈ staged.standings standing, property visited := by
  cases passed : staged.pass standing with
  | inl later =>
    have onward := forall_standings keeps later (keeps standing later passed start)
    rw [standings_of_onward passed]
    exact List.forall_mem_cons.2 ⟨start, onward⟩
  | inr reading =>
    rw [standings_of_left passed]
    exact List.forall_mem_singleton.2 start
termination_by standing.work
decreasing_by exact work_lt_of_pass passed

/-- A pass that goes on keeps its stage, or the stage hands over. -/
theorem stage_of_pass (onward : staged.pass standing = .inl later) :
    later.current = standing.current ∨ ∃ rest,
      staged.step standing.current standing.buffer.bytes = .next later.current rest := by
  rw [pass] at onward
  cases decided : staged.step standing.current standing.buffer.bytes with
  | next stage rest =>
    rw [decided] at onward
    rw [← Sum.inl.inj onward]
    exact .inr ⟨rest, rfl⟩
  | more wanted =>
    rw [decided] at onward
    match received : standing.source.read (standing.buffer.prepare wanted).room with
    | (.ok (byte :: bytes), rest) =>
      simp only [received] at onward
      rw [← Sum.inl.inj onward]
      exact .inl rfl
    | (.error fault, rest) => simp [received] at onward
    | (.ok [], rest) => simp [received] at onward
  | finish value rest => simp [decided] at onward
  | failed reason => simp [decided] at onward

/-- What holds of every stage that is handed over to holds of all stages if it holds of the first.
-/
theorem forall_stages {property : stage → Prop}
    (next : ∀ {current bytes later rest}, staged.step current bytes = .next later rest →
      property later) (start : property standing.current) :
    ∀ visited ∈ staged.standings standing, property visited.current := by
  have keeps : ∀ earlier later, staged.pass earlier = .inl later → property earlier.current →
      property later.current := by
    intro earlier later onward before
    obtain same | ⟨rest, decided⟩ := stage_of_pass onward
    · rw [same]
      exact before
    · exact next decided
  exact forall_standings keeps standing start

/-- Reading comes to the same from wherever the reader stands on its way. -/
theorem readFrom_of_mem_standings {visited : Standing stage}
    (member : visited ∈ staged.standings standing) :
    staged.readFrom visited = staged.readFrom standing := by
  have keeps : ∀ earlier next, staged.pass earlier = .inl next →
      staged.readFrom earlier = staged.readFrom standing →
        staged.readFrom next = staged.readFrom standing := by
    intro earlier next onward same
    rw [readFrom_eq_pass, onward] at same
    exact same
  exact forall_standings keeps standing rfl visited member

/-- The passes are no more than what is left to do, and the last one. -/
theorem length_standings_le (staged : Staged stage result) (standing : Standing stage) :
    (staged.standings standing).length ≤ standing.work + 1 := by
  cases passed : staged.pass standing with
  | inl later =>
    have less := work_lt_of_pass passed
    have bound := length_standings_le staged later
    rw [standings_of_onward passed, List.length_cons]
    omega
  | inr reading =>
    rw [standings_of_left passed, List.length_singleton]
    omega
termination_by standing.work

/-- Some pass leaves with what reading gives. -/
theorem exists_last_pass (staged : Staged stage result) (standing : Standing stage) :
    ∃ last ∈ staged.standings standing, staged.pass last = .inr (staged.readFrom standing) := by
  rw [staged.readFrom_eq_pass standing]
  cases passed : staged.pass standing with
  | inl later =>
    obtain ⟨last, member, left⟩ := exists_last_pass staged later
    exact ⟨last, mem_standings_of_onward passed member, left⟩
  | inr reading => exact ⟨standing, mem_standings_self standing, passed⟩
termination_by standing.work
decreasing_by exact work_lt_of_pass passed

end Staged
end TunnelBench
