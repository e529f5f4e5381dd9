import TunnelBench.FileTree.Path

/-!
# File trees

A file tree tells what stands at each place: a file, a directory or a symbolic link.
Following a path goes from place to place, through links, and fails as the system
does: where nothing stands, where a file is used as a directory, or after too many
links.
-/
namespace TunnelBench

/-- A place in a file tree: the names that lead to it from the root, none of them a link. -/
abbrev Place := List Name

/-- What stands at a place. -/
inductive Node where
  | file (content : Bytes)
  | directory
  /-- A link to a path, seen from the directory of the link. -/
  | link (target : Bytes)
  deriving DecidableEq, Repr

/-- Files, directories and links, and the current directory. -/
structure FileTree where
  /-- What stands at each place; the root is a directory without being listed. -/
  nodes : List (Place × Node) := []
  /-- The directory that paths start from unless they are absolute. -/
  current : Place := []
  deriving DecidableEq, Repr

namespace FileTree

/-- The most links followed on one way. -/
def linkLimit : Nat := 40

/-- The most bytes of a name. -/
def nameLimit : Nat := 255

/-- A path must be shorter than this. -/
def pathLimit : Nat := 4096

/-- What stands at a place. -/
def node? (tree : FileTree) (place : Place) : Option Node :=
  if place.isEmpty then some .directory
  else (tree.nodes.find? (·.1 == place)).map (·.2)

/-- The names to go through for a path; a slash at its end asks for a directory. -/
def route (path : Bytes) : List Name :=
  Path.names path ++ if Path.endsWithSlash path then [Path.here] else []

/-- The place where a path starts, seen from a directory. -/
def start (directory : Place) (path : Bytes) : Place :=
  if Path.isAbsolute path then [] else directory

/-- Goes on from a place through the names of a path, with a number of links still allowed. -/
def follow (tree : FileTree) (links : Nat) (place : Place) (way : List Name) :
    Except SystemError (Place × Node) :=
  match way with
  | [] =>
    match tree.node? place with
    | some node => .ok (place, node)
    | none => .error .notFound
  | name :: rest =>
    match tree.node? place with
    | some .directory =>
      if name = Path.here then follow tree links place rest
      else if name = Path.above then follow tree links place.dropLast rest
      else if nameLimit < name.length then .error .nameTooLong
      else
        match tree.node? (place ++ [name]) with
        | some (.link target) =>
          match links with
          | 0 => .error .tooManyLinks
          | links + 1 => follow tree links (start place target) (route target ++ rest)
        | some _ => follow tree links (place ++ [name]) rest
        | none => .error .notFound
    | some _ => .error .notDirectory
    | none => .error .notFound
termination_by (links, way.length)

/-- The place that a path leads to, and what stands there. -/
def resolve (tree : FileTree) (path : Bytes) : Except SystemError (Place × Node) :=
  if path.isEmpty then .error .notFound
  else if pathLimit ≤ path.length then .error .nameTooLong
  else tree.follow linkLimit (start tree.current path) (route path)

/-- Where following names ends, there stands what was found. -/
theorem node?_of_follow {tree : FileTree} {links : Nat} {place found : Place} {way : List Name}
    {node : Node} (followed : tree.follow links place way = .ok (found, node)) :
    tree.node? found = some node := by
  fun_induction follow tree links place way with
  | case1 =>
    cases followed
    assumption
  | _ => simp_all

/-- Where a path leads, there stands what was found. -/
theorem node?_of_resolve {tree : FileTree} {path : Bytes} {place : Place} {node : Node}
    (resolved : tree.resolve path = .ok (place, node)) : tree.node? place = some node := by
  unfold resolve at resolved
  split at resolved
  · cases resolved
  · split at resolved
    · cases resolved
    · exact node?_of_follow resolved

/-- The place that a path leads to; a path with a zero byte is none. -/
def locate (tree : FileTree) (path : Bytes) : Except IoError (Place × Node) :=
  if path.contains 0 then .error .terminatorInPath
  else
    match tree.resolve path with
    | .ok found => .ok found
    | .error error => .error (.system error)

/-- The content of the file that a path leads to. -/
def read (tree : FileTree) (path : Bytes) : Except IoError Bytes := do
  match ← tree.locate path with
  | (_, .file content) => .ok content
  | _ => .error (.system .isDirectory)

/-- The name of a place in a directory, if it stands in that directory. -/
def nameIn? (directory : Place) (place : Place) : Option Name :=
  match place.getLast? with
  | some name => if place = directory ++ [name] then some name else none
  | none => none

/-- The names in a directory, in the order of their bytes. -/
def namesIn (tree : FileTree) (directory : Place) : List Name :=
  (tree.nodes.filterMap fun node => nameIn? directory node.1).mergeSort
    fun left right => !Bytes.before right left

end FileTree
end TunnelBench
