import TunnelBench.Log.Pattern.Atom
import TunnelBench.Log.Pattern.Nesting

/-!
# Classes in patterns

A class in brackets is a set of characters: single ones, ranges, named sets, classes inside
of it, and what signs make of two sets. Under the flags for bytes a class must not be
negated, because it would hold parts of characters.
-/
namespace TunnelBench.Pattern

/-- A member of a class. -/
inductive Member where
  /-- A character, or all between two characters. -/
  | range (first last : Char)
  /-- A shorthand. -/
  | shorthand (negated : Bool)
  /-- A named set. -/
  | named (negated : Bool)
  deriving DecidableEq, Repr

/-- Whether a member has a meaning under flags. -/
def Member.fits (flags : Flags) : Member → Bool
  | .range first last =>
    if flags.unicode then !flags.caseless else !isWide first && !isWide last
  | .shorthand negated => !flags.unicode && !negated
  | .named negated => if flags.unicode then !flags.caseless else !negated

/-- The names of sets. -/
def setNames : List String :=
  ["alnum", "alpha", "ascii", "blank", "cntrl", "digit", "graph", "lower", "print", "punct",
    "space", "upper", "word", "xdigit"]

/-- The negation of a named set, and what follows it, from behind its bracket on. -/
def named? : List Char → Option (Bool × List Char)
  | ':' :: text =>
    let negated := text.head? == some '^'
    let text := if negated then text.drop 1 else text
    let name := String.ofList (text.takeWhile (· != ':'))
    match text.dropWhile (· != ':') with
    | ':' :: ']' :: rest => if setNames.contains name then some (negated, rest) else none
    | _ => none
  | _ => none

/-- The first atom of a text in a class, and what follows it. -/
def classAtom? (free : Bool) : List Char → Option (Atom × List Char)
  | [] => none
  | '\\' :: rest => escaped? free rest
  | char :: rest => some (.literal char false, rest)

/-- The member that an atom alone makes. -/
def Member.ofAtom? : Atom → Option Member
  | .literal char _ => some (.range char char)
  | .shorthand negated => some (.shorthand negated)
  | _ => none

/-- The member that two atoms around a hyphen make. -/
def Member.ofAtoms? : Atom → Atom → Option Member
  | .literal first _, .literal last _ => if first ≤ last then some (.range first last) else none
  | _, _ => none

/-- The first member of a text, and what follows it. A hyphen makes a range unless the class or
another hyphen follows it. -/
def member? (free : Bool) (text : List Char) : Option (Member × List Char) := do
  let (first, rest) ← classAtom? free text
  match skip free rest with
  | [] => none
  | '-' :: after =>
    match peek? free after with
    | some ']' => some (← Member.ofAtom? first, '-' :: after)
    | some '-' => some (← Member.ofAtom? first, '-' :: after)
    | _ => do
      let (last, rest) ← classAtom? free (skip free after)
      some (← Member.ofAtoms? first last, rest)
  | after => some (← Member.ofAtom? first, after)

/-- The number of hyphens that a text starts with, and what follows them. -/
def hyphens (free : Bool) (text : List Char) : Nat × List Char :=
  match _ : skip free text with
  | '-' :: rest =>
    let (count, later) := hyphens free rest
    (count + 1, later)
  | other => (0, other)
termination_by text.length
decreasing_by
  have shorter := length_skip_le free text
  rw [‹skip free text = _›, List.length_cons] at shorter
  omega

/-- How a class starts. -/
structure ClassHead where
  negated : Bool
  /-- The number of members that count as characters because of their place. -/
  members : Nat
  deriving DecidableEq, Repr

/-- The start of a class, and what follows it, from behind its bracket on. Hyphens at the start,
or else a closing bracket, are members. -/
def classHead? (free : Bool) (text : List Char) : Option (ClassHead × List Char) :=
  let text := skip free text
  let negated := text.head? == some '^'
  let (count, rest) := hyphens free (if negated then text.drop 1 else text)
  let (members, rest) :=
    match count, rest with
    | 0, ']' :: rest => (1, skip free rest)
    | _, _ => (count, rest)
  if rest.isEmpty then none else some (⟨negated, members⟩, rest)

/-- Whether the start of a class has a meaning under flags. -/
def ClassHead.fits (flags : Flags) (head : ClassHead) : Bool :=
  if flags.unicode then !flags.caseless || head.members == 0 else !head.negated

/-- An open class. -/
structure ClassLevel where
  /-- The height of what stands before the last sign. -/
  before : Option Nat := none
  /-- The members since then. -/
  members : Sequence := {}
  deriving DecidableEq, Repr

namespace ClassLevel

/-- One more member. -/
def add (height : Nat) (level : ClassLevel) : ClassLevel :=
  { level with members := level.members.add height }

/-- An open class with members. -/
def ofHead (head : ClassHead) : ClassLevel := { members := ⟨head.members, 0⟩ }

/-- The height of the sets so far. -/
def height (level : ClassLevel) : Nat := joinedHeight level.before level.members.height

/-- A sign behind the sets so far. -/
def sign (level : ClassLevel) : ClassLevel := { before := some level.height }

end ClassLevel

/-- Where the reader of a class stands. -/
inductive ClassPlace where
  /-- In a class that stands in others, the innermost first. -/
  | inside (level : ClassLevel) (outer : List ClassLevel)
  /-- Behind a class of some height. -/
  | behind (height : Nat)
  deriving DecidableEq, Repr

/-- Closes a class. -/
def ClassLevel.close (level : ClassLevel) : List ClassLevel → ClassPlace
  | [] => .behind (level.height + 1)
  | parent :: outer => .inside (parent.add (level.height + 1)) outer

/-- One step in a class, and what follows it. -/
def classStep? (flags : Flags) (level : ClassLevel) (outer : List ClassLevel) (text : List Char) :
    Option (ClassPlace × List Char) :=
  match skip flags.free text with
  | [] => none
  | '[' :: rest =>
    match named? rest with
    | some (negated, rest) =>
      if (Member.named negated).fits flags then some (.inside (level.add 0) outer, rest) else none
    | none => do
      let (head, rest) ← classHead? flags.free rest
      if head.fits flags then some (.inside (.ofHead head) (level :: outer), rest) else none
  | ']' :: rest => some (level.close outer, rest)
  | '&' :: '&' :: rest => some (.inside level.sign outer, rest)
  | '-' :: '-' :: rest => some (.inside level.sign outer, rest)
  | '~' :: '~' :: rest => some (.inside level.sign outer, rest)
  | text => do
    let (member, rest) ← member? flags.free text
    if member.fits flags then some (.inside (level.add 0) outer, rest) else none

end TunnelBench.Pattern
