import TunnelBench.Log.Pattern.Layout

/-!
# Atoms of patterns

The smallest parts of a pattern: characters as they stand or escaped, shorthands for
sets of characters, and the edges of texts and words. Flags decide what an atom means,
and some meanings are out of reach, because nothing is known of the properties and cases
of characters outside of ASCII and because only whole characters may match.
-/
namespace TunnelBench.Pattern

/-- The flags that matter to whether a pattern can be used. -/
structure Flags where
  /-- Blanks and comments do not count. -/
  free : Bool := false
  /-- Upper and lower case do not differ. -/
  caseless : Bool := false
  /-- Characters are matched, not bytes. -/
  unicode : Bool := true
  deriving DecidableEq, Repr

/-- A smallest part of a pattern. -/
inductive Atom where
  /-- A character; the flag tells whether it is written as a byte. -/
  | literal (char : Char) (isByte : Bool)
  /-- Anything. -/
  | any
  /-- An edge of the text or of a line. -/
  | edge
  /-- An edge of a word, or no such edge. -/
  | wordEdge
  /-- A letter that stands for digits, blanks or word characters, or for all others. -/
  | shorthand (negated : Bool)
  deriving DecidableEq, Repr

/-- A character outside of ASCII. -/
def isWide (char : Char) : Bool := 128 ≤ char.toNat

/-- Whether an atom has a meaning under flags. -/
def Atom.fits (flags : Flags) : Atom → Bool
  | .literal char isByte => if flags.unicode then !flags.caseless else !(isByte && isWide char)
  | .any => flags.unicode
  | .edge => true
  | .wordEdge => true
  | .shorthand negated => !flags.unicode && !negated

/-- The value of a hexadecimal digit. -/
def hexValue? (char : Char) : Option Nat :=
  if '0' ≤ char ∧ char ≤ '9' then some (char.toNat - '0'.toNat)
  else if 'a' ≤ char ∧ char ≤ 'f' then some (char.toNat - 'a'.toNat + 10)
  else if 'A' ≤ char ∧ char ≤ 'F' then some (char.toNat - 'A'.toNat + 10)
  else none

/-- A number of hexadecimal digits after a value, and what follows them. -/
def hex? (free : Bool) (value : Nat) : Nat → List Char → Option (Nat × List Char)
  | 0, text => some (value, text)
  | count + 1, text =>
    match skip free text with
    | char :: rest => do
      let digit ← hexValue? char
      hex? free (value * 16 + digit) count rest
    | [] => none

/-- A character given by a number of hexadecimal digits, and what follows it. -/
def coded? (free : Bool) (count : Nat) (text : List Char) : Option (Atom × List Char) := do
  let (code, rest) ← hex? free 0 count text
  if code.isValidChar then some (.literal (Char.ofNat code) (count == 2), rest) else none

/-- A character that stands for itself behind a backslash. -/
def isEscapable (char : Char) : Bool :=
  !isWide char && !char.isAlphanum && char != '<' && char != '>'

/-- The control character that a letter stands for behind a backslash. -/
def control? : Char → Option Char
  | 'a' => some '\x07'
  | 'f' => some '\x0C'
  | 't' => some '\t'
  | 'n' => some '\n'
  | 'r' => some '\r'
  | 'v' => some '\x0B'
  | _ => none

/-- The atom behind a backslash, and what follows it. A digit stands for nothing, and the names
of properties are unknown. -/
def escaped? (free : Bool) : List Char → Option (Atom × List Char)
  | [] => none
  | char :: rest =>
    if isEscapable char then some (.literal char false, rest)
    else
      match control? char with
      | some control => some (.literal control false, rest)
      | none =>
        match char with
        | 'x' => coded? free 2 rest
        | 'u' => coded? free 4 rest
        | 'U' => coded? free 8 rest
        | 'd' | 's' | 'w' => some (.shorthand false, rest)
        | 'D' | 'S' | 'W' => some (.shorthand true, rest)
        | 'A' | 'z' => some (.edge, rest)
        | 'b' | 'B' | '<' | '>' => some (.wordEdge, rest)
        | _ => none

/-- The first atom of a text outside of classes, and what follows it. -/
def atom? (free : Bool) : List Char → Option (Atom × List Char)
  | [] => none
  | '\\' :: rest => escaped? free rest
  | '.' :: rest => some (.any, rest)
  | '^' :: rest => some (.edge, rest)
  | '$' :: rest => some (.edge, rest)
  | char :: rest => some (.literal char false, rest)

end TunnelBench.Pattern
