import TunnelBench.Log.Pattern.Atom
import TunnelBench.Text.Alphanumeric

/-!
# Groups in patterns

A parenthesis opens a group, which can have a name or flags of its own, or sets flags for
what follows it in the same group.
-/
namespace TunnelBench.Pattern

/-- The letters of all flags. -/
def flagLetters : List Char := ['i', 'm', 's', 'U', 'u', 'R', 'x']

/-- Whether characters are flags: each at most once, with at most one sign before those that are
switched off. -/
def areFlags (letters : List Char) : Bool :=
  letters.all (fun char => char == '-' || flagLetters.contains char) &&
    letters.eraseDups.length == letters.length && letters.getLast? != some '-'

/-- Switches one flag. -/
def Flags.switch (on : Bool) (flags : Flags) : Char → Flags
  | 'x' => { flags with free := on }
  | 'i' => { flags with caseless := on }
  | 'u' => { flags with unicode := on }
  | _ => flags

/-- Switches flags on, and those behind the sign off. -/
def Flags.apply (letters : List Char) (flags : Flags) : Flags :=
  let on := (letters.takeWhile (· != '-')).foldl (Flags.switch true) flags
  ((letters.dropWhile (· != '-')).drop 1).foldl (Flags.switch false) on

/-- A character of the name of a group; the first one is a letter or an underscore. -/
def isNameChar (first : Bool) (char : Char) : Bool :=
  char == '_' ||
    if first then Alphanumeric.isAlphabetic char
    else char == '.' || char == '[' || char == ']' || Alphanumeric.isAlphanumeric char

/-- Whether characters are the name of a group. -/
def isName : List Char → Bool
  | [] => false
  | char :: rest => isNameChar true char && rest.all (isNameChar false)

/-- What a parenthesis opens. -/
inductive GroupHead where
  /-- A group, perhaps with a name. -/
  | group (name : Option (List Char))
  /-- A group with flags of its own. -/
  | flagged (letters : List Char)
  /-- Flags for what follows. -/
  | flags (letters : List Char)
  deriving DecidableEq, Repr

/-- A group with a name, and what follows the name. -/
def namedGroup? (text : List Char) : Option (GroupHead × List Char) :=
  let name := text.takeWhile (· != '>')
  match text.dropWhile (· != '>') with
  | _ :: rest => if isName name then some (.group (some name), rest) else none
  | [] => none

/-- Flags, for a group or for what follows, and what follows them. -/
def flagged? (text : List Char) : Option (GroupHead × List Char) :=
  let isFlag char := char != ':' && char != ')'
  let letters := text.takeWhile isFlag
  if areFlags letters then
    match text.dropWhile isFlag with
    | ':' :: rest => some (.flagged letters, rest)
    | _ :: rest => if letters.isEmpty then none else some (.flags letters, rest)
    | [] => none
  else none

/-- What a parenthesis opens, and what follows, from behind the parenthesis on. There is no
looking ahead or behind. -/
def groupHead? (free : Bool) (text : List Char) : Option (GroupHead × List Char) :=
  match skip free text with
  | '?' :: 'P' :: '<' :: rest => namedGroup? rest
  | '?' :: '<' :: rest => namedGroup? rest
  | '?' :: rest => flagged? rest
  | rest => some (.group none, rest)

end TunnelBench.Pattern
