import TunnelBench.Bytes

/-!
# Libraries of responses

A library keeps complete responses under the paths that ask for them. Each path has
one response; storing under a path again replaces it.
-/
namespace TunnelBench

/-- Complete responses by path. -/
structure Library where
  /-- The file or directory that the library was made from. -/
  root : Bytes
  /-- Paths and responses, each path once, in the order in which the paths were first stored. -/
  entries : List (String × Bytes) := []
  deriving DecidableEq, Repr

namespace Library

/-- Stores a response among others, in place of one under the same path. -/
def store (path : String) (response : Bytes) : List (String × Bytes) → List (String × Bytes)
  | [] => [(path, response)]
  | (present, old) :: rest =>
    if present = path then (path, response) :: rest
    else (present, old) :: store path response rest

/-- A library with one more response, or with another response under a path. -/
def insert (path : String) (response : Bytes) (library : Library) : Library :=
  { library with entries := store path response library.entries }

/-- The response under a path. -/
def get? (library : Library) (path : String) : Option Bytes :=
  (library.entries.find? (·.1 == path)).map (·.2)

/-- The number of responses. -/
def size (library : Library) : Nat := library.entries.length

/-- A library without responses. -/
def isEmpty (library : Library) : Bool := library.entries.isEmpty

/-- The paths that have a response. -/
def paths (library : Library) : List String := library.entries.map (·.1)

end Library
end TunnelBench
