import TunnelBench.FileTree.Basic

/-!
# Changing file trees

Files, directories and links are put in place together with the directories above
them. A link takes the place of what stood there before; a file is written where the
links at its place lead.
-/
namespace TunnelBench.FileTree

/-- Puts a node at a place, in place of another one. -/
def put (place : Place) (node : Node) (tree : FileTree) : FileTree :=
  { tree with nodes := tree.nodes.filter (·.1 ≠ place) ++ [(place, node)] }

/-- Puts a directory at a place where nothing stands. -/
def putDirectory (place : Place) (tree : FileTree) : FileTree :=
  match tree.node? place with
  | some _ => tree
  | none => tree.put place .directory

/-- Goes through names from a place, following links and making directories where nothing
stands. -/
def enter (tree : FileTree) : Place → List Name → FileTree × Place
  | place, [] => (tree, place)
  | place, name :: rest =>
    match tree.follow linkLimit place [name] with
    | .ok (next, _) => enter tree next rest
    | .error _ => enter (tree.putDirectory (place ++ [name])) (place ++ [name]) rest
termination_by _ way => way.length

/-- Makes the directories that a path names. -/
def makeDirectory (path : Bytes) (tree : FileTree) : FileTree :=
  (tree.enter (start tree.current path) (Path.names path)).1

/-- Puts a node where a path ends, after making the directories above. -/
def putAt (path : Bytes) (node : Node) (tree : FileTree) : FileTree :=
  let way := Path.names path
  let (tree, directory) := tree.enter (start tree.current path) way.dropLast
  match way.getLast? with
  | some name => tree.put (directory ++ [name]) node
  | none => tree

/-- The place where writing to a way from a place makes a file: the links at its end are
followed, also to where nothing stands, and a number of them is still allowed. -/
def landing? (tree : FileTree) (links : Nat) (place : Place) (way : List Name) : Option Place :=
  match tree.follow linkLimit place way.dropLast, way.getLast? with
  | .ok (directory, .directory), some name =>
    if name = Path.here ∨ name = Path.above then none
    else
      match tree.node? (directory ++ [name]) with
      | some .directory => none
      | some (.link target) =>
        match links with
        | 0 => none
        | links + 1 => landing? tree links (start directory target) (route target)
      | _ => some (directory ++ [name])
  | _, _ => none

/-- Writes a file, after making the directories above; where none can be written, nothing
changes. -/
def write (path content : Bytes) (tree : FileTree) : FileTree :=
  let (tree, _) := tree.enter (start tree.current path) (Path.names path).dropLast
  match tree.landing? linkLimit (start tree.current path) (route path) with
  | some place => tree.put place (.file content)
  | none => tree

/-- Makes a link. -/
def makeLink (path target : Bytes) (tree : FileTree) : FileTree :=
  tree.putAt path (.link target)

/-- Removes what a path names, with everything below it; a link is removed itself. -/
def remove (path : Bytes) (tree : FileTree) : FileTree :=
  let way := Path.names path
  match tree.follow linkLimit (start tree.current path) way.dropLast, way.getLast? with
  | .ok (directory, _), some name =>
    let place := directory ++ [name]
    { tree with nodes := tree.nodes.filter fun node => node.1.take place.length ≠ place }
  | _, _ => tree

end TunnelBench.FileTree
