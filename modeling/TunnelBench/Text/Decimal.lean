import TunnelBench.Bytes

/-!
# Decimal numbers and blanks

Numbers in headers, filters and arguments share one written form: an optional plus
sign and one or more decimal digits, with a value below a bound. Blanks around a
number are the characters of the White_Space property. A real number may also have
either sign, a fraction and an exponent, or be a word.
-/
namespace TunnelBench

namespace Blank

/-- The characters with the White_Space property. -/
def isBlank (char : Char) : Bool :=
  let code := char.toNat
  (9 ≤ code && code ≤ 13) || code == 0x20 || code == 0x85 || code == 0xA0 || code == 0x1680 ||
    (0x2000 ≤ code && code ≤ 0x200A) || code == 0x2028 || code == 0x2029 || code == 0x202F ||
    code == 0x205F || code == 0x3000

/-- Removes blanks from both ends. -/
def trim (chars : List Char) : List Char :=
  ((chars.dropWhile isBlank).reverse.dropWhile isBlank).reverse

end Blank

namespace Decimal

/-- The value of a digit string, the first digit being the most significant. -/
def value (digits : List Char) : Nat :=
  digits.foldl (fun total digit => total * 10 + (digit.toNat - '0'.toNat)) 0

/-- The characters after one leading plus sign, if there is one. -/
def dropPlus : List Char → List Char
  | '+' :: rest => rest
  | chars => chars

/-- Reads a number below a bound from a whole text. -/
def read? (bound : Nat) (chars : List Char) : Option Nat :=
  let digits := dropPlus chars
  if digits ≠ [] ∧ digits.all Char.isDigit ∧ value digits < bound then some (value digits)
  else none

/-- The characters after one leading sign, if there is one. -/
def dropSign : List Char → List Char
  | '+' :: rest => rest
  | '-' :: rest => rest
  | chars => chars

/-- The words that stand for real numbers, in lower case. -/
def realWords : List String := ["inf", "infinity", "nan"]

/-- Whether characters are an exponent, or nothing. -/
def isExponent : List Char → Bool
  | [] => true
  | letter :: rest =>
    let digits := dropSign rest
    letter.toLower == 'e' && !digits.isEmpty && digits.all Char.isDigit

/-- Whether a text is a real number. -/
def isReal (chars : List Char) : Bool :=
  let chars := dropSign chars
  let whole := chars.takeWhile Char.isDigit
  let afterWhole := chars.dropWhile Char.isDigit
  let afterPoint := if afterWhole.head? == some '.' then afterWhole.drop 1 else []
  let fraction := afterPoint.takeWhile Char.isDigit
  let exponent :=
    if afterWhole.head? == some '.' then afterPoint.dropWhile Char.isDigit else afterWhole
  realWords.contains (String.ofList (chars.map Char.toLower)) ||
    (!(whole.isEmpty && fraction.isEmpty) && isExponent exponent)

end Decimal
end TunnelBench
