import TunnelBench.Failure
import TunnelBench.Log.Pattern.Class
import TunnelBench.Log.Pattern.Group

/-!
# Patterns

A field of a log filter can ask for values of a pattern. A pattern is checked from left to
right: what is open is kept, and what is read is only counted. The check tells whether the
pattern can be used, not what it matches. An opening brace outside of a class asks for a
count or a name that a closing brace ends; the fields of filters hold no such brace, so a
pattern with one is broken.
-/
namespace TunnelBench.Pattern

/-- An open group, or the whole pattern. -/
structure Level where
  /-- The height of the alternatives that are complete. -/
  before : Option Nat := none
  /-- The parts of the current alternative. -/
  parts : Sequence := {}
  /-- The height of the last part, if it can be repeated. -/
  last : Option Nat := none
  deriving DecidableEq, Repr

namespace Level

/-- One more part, which can be repeated. -/
def add (height : Nat) (level : Level) : Level :=
  { level with parts := level.parts.add height, last := some height }

/-- One more part, which cannot be repeated. -/
def addFlags (level : Level) : Level := { level with parts := level.parts.add 0, last := none }

/-- Repeats the last part. -/
def repeat? (level : Level) : Option Level := do
  let height ← level.last
  let parts := { level.parts with tallest := max level.parts.tallest (height + 1) }
  some { level with parts, last := some (height + 1) }

/-- Goes on to the next alternative. -/
def alternate (level : Level) : Level :=
  { before := some (max (level.before.getD 0) level.parts.height) }

/-- The height of all alternatives together. -/
def height (level : Level) : Nat :=
  match level.before with
  | none => level.parts.height
  | some earlier => max earlier level.parts.height + 1

end Level

/-- How far a pattern is read. -/
structure State where
  flags : Flags := {}
  /-- The current group. -/
  level : Level := {}
  /-- The groups around it, each with its flags, the innermost first. -/
  outer : List (Flags × Level) := []
  /-- The open classes, the innermost first. -/
  classes : List ClassLevel := []
  /-- The names of groups so far. -/
  names : List (List Char) := []
  /-- Whether an edge of a word was asked for among characters. -/
  wordEdge : Bool := false
  deriving DecidableEq, Repr

namespace State

/-- One more part. -/
def add (height : Nat) (state : State) : State := { state with level := state.level.add height }

/-- One more atom, if it has a meaning. -/
def addAtom? (atom : Atom) (state : State) : Option State :=
  if atom.fits state.flags then
    some { state.add 0 with
      wordEdge := state.wordEdge || (atom == .wordEdge && state.flags.unicode) }
  else none

/-- Opens a group with flags. -/
def enter (flags : Flags) (state : State) : State :=
  { state with flags, level := {}, outer := (state.flags, state.level) :: state.outer }

/-- Opens what a parenthesis opens; no two groups have one name. -/
def open? (state : State) : GroupHead → Option State
  | .group none => some (state.enter state.flags)
  | .group (some name) =>
    if state.names.contains name then none
    else some { state.enter state.flags with names := name :: state.names }
  | .flagged letters => some (state.enter (state.flags.apply letters))
  | .flags letters =>
    some { state with flags := state.flags.apply letters, level := state.level.addFlags }

/-- Closes a group; its flags end with it. -/
def close? (state : State) : Option State :=
  match state.outer with
  | [] => none
  | (flags, level) :: outer =>
    some { state with flags, level := level.add (state.level.height + 1), outer }

/-- Goes on in a class. -/
def withClass (state : State) : ClassPlace → State
  | .inside level outer => { state with classes := level :: outer }
  | .behind height => { state.add height with classes := [] }

/-- One step outside of classes, and what follows it. -/
def groupStep? (state : State) : List Char → Option (State × List Char)
  | '(' :: rest => do
    let (head, rest) ← groupHead? state.flags.free rest
    some (← state.open? head, rest)
  | ')' :: rest => do some (← state.close?, rest)
  | '|' :: rest => some ({ state with level := state.level.alternate }, rest)
  | '[' :: rest => do
    let (head, rest) ← classHead? state.flags.free rest
    if head.fits state.flags then some ({ state with classes := [.ofHead head] }, rest) else none
  | '{' :: _ => none
  | text =>
    if text.head?.any ['?', '*', '+'].contains then do
      let level ← state.level.repeat?
      let rest := text.drop 1
      some ({ state with level }, if rest.head? == some '?' then rest.drop 1 else rest)
    else do
      let (atom, rest) ← atom? state.flags.free text
      some (← state.addAtom? atom, rest)

/-- One step, and what follows it. -/
def step? (state : State) (text : List Char) : Option (State × List Char) :=
  match state.classes with
  | [] => state.groupStep? (skip state.flags.free text)
  | level :: outer => do
    let (place, rest) ← classStep? state.flags level outer text
    some (state.withClass place, rest)

/-- Whether a pattern may end here. -/
def isComplete (state : State) : Bool :=
  state.outer.isEmpty && state.classes.isEmpty && state.level.height ≤ heightLimit

end State

/-- Reads a text to its end. Each step takes a character at least, as the test shows. -/
def readFrom? (state : State) (text : List Char) : Option State :=
  if (skip state.flags.free text).isEmpty then
    if state.isComplete then some state else none
  else
    match state.step? text with
    | none => none
    | some (state, rest) =>
      if rest.length < text.length then readFrom? state rest else none
termination_by text.length

/-- Checks that a text is a pattern that can be used. An edge of a word among characters asks
for what is not known of characters. -/
def check (text : List Char) : Except PatternError Unit :=
  match readFrom? {} text with
  | none => .error .broken
  | some state => if state.wordEdge then .error .wordEdge else .ok ()

end TunnelBench.Pattern
