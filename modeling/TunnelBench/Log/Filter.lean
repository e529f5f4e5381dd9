import TunnelBench.Log.Pattern.Basic

/-!
# Log filters

A filter is a list of directives between commas. A directive names a target, a span in
brackets with fields in braces, and behind an equals sign a level; each part may be
missing, and a name alone is a target or a level. A field can ask for a value behind an
equals sign: a number or a pattern. The reader goes through a directive character by
character.
-/
namespace TunnelBench.LogFilter

/-- Where the reader of a directive stands. -/
inductive Place where
  /-- Before the first character. -/
  | start
  /-- In a name that is a target, or a level if it is one. -/
  | name
  /-- In the name of a span. -/
  | span
  /-- In a field that starts at an offset in bytes. -/
  | field (offset : Nat)
  /-- Behind the fields of a span. -/
  | fields
  /-- Behind a span. -/
  | target
  /-- In a level that starts at an offset in bytes. -/
  | level (offset : Nat)
  deriving DecidableEq, Repr

/-- The characters that a directive can start with. -/
def opens (char : Char) : Bool :=
  char == '-' || char == ':' || char == '_' || Alphanumeric.isAlphanumeric char

/-- The value that a field asks for: what stands between its first equals sign and the second. -/
def fieldValue (field : List Char) : List Char :=
  ((field.dropWhile (· != '=')).drop 1).takeWhile (· != '=')

/-- Checks a field, which is not empty; a value that is no number is a pattern. -/
def checkField (field : List Char) : Except FilterError Unit :=
  let value := fieldValue field
  if field.isEmpty then .error .directive
  else if Decimal.isReal value then .ok ()
  else
    match Pattern.check value with
    | .ok () => .ok ()
    | .error error => .error (.field error)

/-- The characters between two offsets in bytes. -/
def slice (text : Bytes) (start stop : Nat) : List Char :=
  (Utf8.decodeLossy ((text.drop start).take (stop - start))).toList

/-- One character at an offset; fields are taken from a text. -/
def step (text : Bytes) (offset : Nat) (place : Place) (char : Char) : Except FilterError Place :=
  match place with
  | .start =>
    if char = '[' then .ok .span else if opens char then .ok .name else .error .directive
  | .name =>
    if char = '=' then .ok (.level (offset + 1))
    else if char = '[' then .ok .span
    else .ok .name
  | .span =>
    if char = ']' then .ok .target
    else if char = Char.ofNat 0x7B then .ok (.field (offset + 1))
    else .ok .span
  | .field start =>
    if char = Char.ofNat 0x7D then do
      checkField (slice text start offset)
      .ok .fields
    else .ok (.field start)
  | .fields => if char = ']' then .ok .target else .error .directive
  | .target => if char = '=' then .ok (.level (offset + 1)) else .error .directive
  | .level start => .ok (.level start)

/-- All characters from an offset on. -/
def steps (text : Bytes) : Nat → Place → List Char → Except FilterError Place
  | _, place, [] => .ok place
  | offset, place, char :: rest => do
    let next ← step text offset place char
    steps text (offset + char.utf8Size) next rest

/-- The names of the levels. -/
def levelNames : List String := ["off", "error", "warn", "info", "debug", "trace"]

/-- Whether bytes are a level: nothing, a name in any case, or a number from 0 to 5. -/
def isLevel (bytes : Bytes) : Bool :=
  bytes.isEmpty || levelNames.any (fun name => bytes.sameName (.ofString name)) ||
    match Decimal.read? UInt64.size bytes.toAscii.toList with
    | some number => number ≤ 5
    | none => false

/-- Checks one directive. Blanks around it do not count, but its fields and its level are taken
from the text with the blanks, at the offsets that they have without them. -/
def checkDirective (text : String) : Except FilterError Unit := do
  let bytes := Bytes.ofString text
  match ← steps bytes 0 .start (Blank.trim text.toList) with
  | .name => .ok ()
  | .target => .ok ()
  | .level offset => if isLevel (bytes.drop offset) then .ok () else .error .level
  | _ => .error .directive

/-- The texts between commas, empty ones left out. -/
def directives (text : String) : List String :=
  (text.splitOn ",").filter (· ≠ "")

/-- Checks a filter; its first faulty directive gives the error. -/
def check (text : String) : Except FilterError Unit := (directives text).forM checkDirective

end TunnelBench.LogFilter
