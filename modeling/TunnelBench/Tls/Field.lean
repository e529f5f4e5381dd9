/-!
# Arithmetic modulo a prime

Powers by squaring, and inverses by Fermat's theorem.
-/
namespace TunnelBench.Field

/-- A power modulo a number, the exponent being halved in each step. -/
def power (modulus base exponent : Nat) : Nat :=
  if exponent = 0 then 1 % modulus
  else
    let half := power modulus (base * base % modulus) (exponent / 2)
    if exponent % 2 = 1 then base * half % modulus else half
termination_by exponent

/-- The inverse modulo a prime. -/
def inverse (prime value : Nat) : Nat := power prime value (prime - 2)

/-- A difference of numbers below a modulus. -/
def subtract (modulus left right : Nat) : Nat := (left + (modulus - right)) % modulus

/-- The multiple of an element, by doubling and adding; the factor's binary digits are used
from the lowest on. -/
def multiple {α : Type} (add : α → α → α) (zero element : α) (factor : Nat) : α :=
  if factor = 0 then zero
  else
    let later := multiple add zero (add element element) (factor / 2)
    if factor % 2 = 1 then add element later else later
termination_by factor

end TunnelBench.Field
