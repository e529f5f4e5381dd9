import TunnelBench.Failure

/-!
# Paths

A path is a byte string whose names stand between slashes. Empty names count for
nothing. A clean path has neither the name that stays nor the name that goes up.
-/
namespace TunnelBench

/-- A name in a directory. -/
abbrev Name := Bytes

namespace Path

/-- The byte between names. -/
def slash : UInt8 := 47

/-- The name of the directory itself. -/
def here : Name := [46]

/-- The name of the directory above. -/
def above : Name := [46, 46]

/-- What stands between slashes, empty parts included. -/
def parts : Bytes → List Bytes
  | [] => [[]]
  | byte :: rest =>
    if byte == slash then [] :: parts rest
    else
      match parts rest with
      | [] => [[byte]]
      | first :: others => (byte :: first) :: others

/-- The names of a path in order. -/
def names (path : Bytes) : List Name := (parts path).filter (· ≠ [])

/-- A path that starts at the root of all files. -/
def isAbsolute (path : Bytes) : Bool := path.head? == some slash

/-- A path that has to lead to a directory because a slash ends it. -/
def endsWithSlash (path : Bytes) : Bool := path.getLast? == some slash

/-- The absolute path with the given names. -/
def ofNames (names : List Name) : Bytes :=
  if names.isEmpty then [slash] else names.flatMap fun name => slash :: name

/-- One path after another; an absolute second path stands alone. -/
def join (first second : Bytes) : Bytes :=
  if isAbsolute second then second
  else if first.isEmpty ∨ endsWithSlash first then first ++ second
  else first ++ slash :: second

/-- The names above the root that remain when a name is added to them. -/
def cleanStep (kept : List Name) (name : Name) : List Name :=
  if name = here then kept else if name = above then kept.dropLast else kept ++ [name]

/-- The names of a clean path, going up taking one name back. -/
def cleanNames (names : List Name) : List Name := names.foldl cleanStep []

/-- The clean form of an absolute path. -/
def clean (path : Bytes) : Bytes := ofNames (cleanNames (names path))

/-- The absolute form of a path, seen from a current directory. -/
def absolute (current path : Bytes) : Except IoError Bytes :=
  if path.isEmpty then .error .emptyPath else .ok (join current path)

/-- The last name of a path, if the path ends in a proper one. -/
def lastName? (path : Bytes) : Option Name := do
  let name ← ((names path).filter (· ≠ here)).getLast?
  if name = above then none else some name

/-- What follows the last dot of the last name, unless the name starts with it. -/
def extension? (path : Bytes) : Option Bytes := do
  let name ← lastName? path
  let extension := name.afterLast 46
  if extension.length + 1 < name.length then some extension else none

end Path
end TunnelBench
