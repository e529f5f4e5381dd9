/-!
# Admission of connections

The server counts the connections that it serves, in a machine word. Its accept loop
looks at the counter before it serves another one.
-/
namespace TunnelBench.Admission

/-- The number of values of the counter. -/
def counterBound : Nat := UInt64.size

/-- Whether a connection may be served beside some others. -/
def admits (limit current : Nat) : Bool := current < limit

end TunnelBench.Admission
