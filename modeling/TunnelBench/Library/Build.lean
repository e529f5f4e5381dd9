import TunnelBench.ContentType.Basic
import TunnelBench.FileTree.Walk
import TunnelBench.Library.Basic
import TunnelBench.Response.Rendering

/-!
# Libraries from file trees

A library is made from a directory or a file: every file below becomes a complete
response under its path, seen from the directory above the root. The first file or
directory that cannot be read spoils the whole library.
-/
namespace TunnelBench.Library

/-- The response that sends a file. -/
def fileResponse (tree : FileTree) (path : Bytes) : Except Failure Bytes := do
  match tree.read path with
  | .error error => .error (.file path error)
  | .ok content =>
    let response := (Response.ok.withHeader "Content-Type" (ContentType.ofPath path)).withReader
      [.data content]
    response.render

/-- The names that remain of a path below a directory. -/
def below? : List Name → List Name → Option (List Name)
  | [], names => some names
  | _ :: _, [] => none
  | first :: directory, name :: names => if first = name then below? directory names else none

/-- The path of a request for a file, seen from a directory. -/
def keyOf (base path : Bytes) : Except Failure String :=
  match below? (Path.names base) (Path.names path) with
  | some names => .ok (String.join (names.map fun name => "/" ++ Utf8.decodeLossy name))
  | none => .error (.config (.notBelow path base))

/-- The directory above a clean path; the root is above itself. -/
def baseOf (root : Bytes) : Bytes := Path.ofNames (Path.names root).dropLast

/-- Adds the response of a file. -/
def addFile (tree : FileTree) (library : Library) (path : Bytes) : Except Failure Library := do
  let key ← keyOf (baseOf library.root) path
  let response ← fileResponse tree path
  .ok (library.insert key response)

/-- The clean absolute form of the path that a library is made from. -/
def rootOf (tree : FileTree) (path : Bytes) : Except Failure Bytes :=
  match Path.absolute (Path.ofNames tree.current) path with
  | .ok absolute => .ok (Path.clean absolute)
  | .error error => .error (.directory path error)

/-- Makes a library from a path. -/
def build (tree : FileTree) (path : Bytes) : Except Failure Library := do
  let root ← rootOf tree path
  match tree.locate root with
  | .error error => .error (.directory root error)
  | .ok _ =>
    let walked := tree.walk root
    let library ← walked.files.foldlM (addFile tree) { root }
    match walked.stop with
    | some error => .error (.walk error)
    | none => .ok library

end TunnelBench.Library
