import TunnelBench.Proofs.Stream.Decisions

/-!
# What parsers read back

A parser reads some bytes as a value if it does so whatever follows them. Bytes that two
parsers read one after the other are written one after the other; a run of bytes is read
together with the byte that ends it.
-/
namespace TunnelBench.Parser

variable {α β : Type}

/-- A parser takes some bytes for a value, whatever follows them. -/
def Reads (parser : Parser α) (bytes : Bytes) (value : α) : Prop :=
  ∀ rest, parser (bytes ++ rest) = .done value rest

/-- What is read when nothing follows. -/
theorem Reads.alone {parser : Parser α} {bytes : Bytes} {value : α}
    (reads : parser.Reads bytes value) : parser bytes = .done value [] := by
  have whole := reads []
  rwa [List.append_nil] at whole

/-- Nothing is read as a value that is accepted without looking. -/
theorem reads_pure (value : α) : (pure value : Parser α).Reads [] value := fun _ => rfl

/-- Bytes written one after the other are read one after the other. -/
theorem Reads.bind {first : Parser α} {next : α → Parser β} {front back : Bytes} {middle : α}
    {value : β} (firstReads : first.Reads front middle)
    (nextReads : (next middle).Reads back value) :
    (first >>= next).Reads (front ++ back) value := by
  intro rest
  rw [List.append_assoc]
  exact bind_eq_done.2 ⟨middle, back ++ rest, firstReads _, nextReads rest⟩

/-- A condition that holds takes no bytes. -/
theorem reads_require {condition : Bool} (holds : condition = true) (reason : Malformed) :
    (require condition reason).Reads [] () := by
  intro rest
  rw [holds]
  rfl

/-- A part that takes no bytes leaves them to the next. -/
theorem Reads.bind_nil {first : Parser α} {next : α → Parser β} {bytes : Bytes} {middle : α}
    {value : β} (firstReads : first.Reads [] middle) (nextReads : (next middle).Reads bytes value) :
    (first >>= next).Reads bytes value := firstReads.bind nextReads

/-- A byte that passes the test is read. -/
theorem reads_byte {test : UInt8 → Bool} {byte : UInt8} (passes : test byte = true)
    (reason : Malformed) : (Parser.byte test reason).Reads [byte] byte := by
  intro rest
  rw [List.singleton_append, Parser.byte, if_pos passes]

/-- Fixed bytes are read. -/
theorem reads_literal (reason : Malformed) (expected : Bytes) :
    (literal reason expected).Reads expected () := by
  induction expected with
  | nil => exact reads_pure ()
  | cons head tail ih => exact (reads_byte (beq_self_eq_true head) reason).bind ih

/-- A carriage return and a line feed are a line end. -/
theorem reads_newLine (reason : Malformed) : (newLine reason).Reads Bytes.lineEnd () := by
  intro rest
  rfl

/-- A run of bytes is read together with what begins at the byte that ends it. -/
theorem reads_many_bind {test : UInt8 → Bool} {next : Bytes → Parser α} {run tail : Bytes}
    {stop : UInt8} {value : α} (passes : ∀ byte ∈ run, test byte = true)
    (stops : test stop = false) (nextReads : (next run).Reads (stop :: tail) value) :
    (many test >>= next).Reads (run ++ stop :: tail) value := by
  intro rest
  rw [List.append_assoc, List.cons_append]
  exact bind_eq_done.2 ⟨run, _, many_of_stop passes stops _, nextReads rest⟩

/-- The next byte is looked at before it is read. -/
theorem reads_peek_bind {next : UInt8 → Parser α} {first : UInt8} {tail : Bytes} {value : α}
    (nextReads : (next first).Reads (first :: tail) value) :
    (peek >>= next).Reads (first :: tail) value := by
  intro rest
  exact bind_eq_done.2 ⟨first, first :: (tail ++ rest), rfl, nextReads rest⟩

end TunnelBench.Parser
