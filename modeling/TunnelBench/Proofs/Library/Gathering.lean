import Mathlib.Data.List.Induction
import TunnelBench.Proofs.FileTree.Walking
import TunnelBench.Proofs.Library.FileResponse

/-!
# Gathering responses

A library is filled file by file. The first file that cannot be read ends that; otherwise
each key has the response of the last file that has it.
-/
namespace TunnelBench.Library

/-- Storing changes the response under one path. -/
theorem find?_store (path key : String) (response : Bytes) (entries : List (String × Bytes)) :
    ((store path response entries).find? (·.1 == key)).map (·.2) =
      if path = key then some response else (entries.find? (·.1 == key)).map (·.2) := by
  induction entries with
  | nil => by_cases same : path = key <;> simp [store, same]
  | cons entry entries ih =>
    obtain ⟨present, old⟩ := entry
    by_cases replaced : present = path
    · subst replaced
      by_cases same : present = key <;> simp [store, same]
    · by_cases here : present = key
      · subst here
        have other : path ≠ present := fun same => replaced same.symm
        simp [store, replaced, other]
      · simpa [store, replaced, here] using ih

/-- The response under a path after another one was stored. -/
@[simp]
theorem get?_insert (path key : String) (response : Bytes) (library : Library) :
    (library.insert path response).get? key =
      if path = key then some response else library.get? key :=
  find?_store path key response library.entries

/-- The paths of a library are those that have a response. -/
theorem mem_paths {library : Library} {key : String} :
    key ∈ library.paths ↔ (library.get? key).isSome = true := by
  simp [paths, get?]

/-- What remains of names below a directory. -/
theorem below?_append (directory way : List Name) :
    below? directory (directory ++ way) = some way := by
  induction directory with
  | nil => rfl
  | cons name directory ih => simp [below?, ih]

/-- The key of a path below a directory: its names from the directory on, each after a slash. -/
theorem keyOf_of_names {base path : Bytes} {way : List Name}
    (split : Path.names path = Path.names base ++ way) :
    keyOf base path = .ok (String.join (way.map fun name => "/" ++ Utf8.decodeLossy name)) := by
  rw [keyOf, split, below?_append]

/-- The names of the directory above a path. -/
theorem names_baseOf (root : Bytes) : Path.names (baseOf root) = (Path.names root).dropLast :=
  Path.names_ofNames fun _ member =>
    Path.isProper_of_mem_names ((List.dropLast_sublist _).subset member)

/-- All that there is to meet from a path on has a key: its names from the last name of the path on,
each after a slash. -/
theorem exists_keyOf {tree : FileTree} (formed : tree.WellFormed) {root : Bytes}
    {leaf : FileTree.Leaf} (finds : tree.Finds root leaf) :
    ∃ way, Path.names leaf.path = (Path.names root).dropLast ++ way ∧
      keyOf (baseOf root) leaf.path =
        .ok (String.join (way.map fun name => "/" ++ Utf8.decodeLossy name)) := by
  obtain ⟨way, split⟩ := finds.names formed
  obtain ⟨last, whole⟩ := List.dropLast_prefix (Path.names root)
  have below : Path.names leaf.path = (Path.names root).dropLast ++ (last ++ way) := by
    rw [split, ← List.append_assoc, whole]
  refine ⟨last ++ way, below, keyOf_of_names ?_⟩
  rw [names_baseOf, below]

/-- Whether a path has a key. -/
def hasKey (base : Bytes) (key : String) (path : Bytes) : Bool :=
  match keyOf base path with
  | .ok found => found == key
  | .error _ => false

/-- A path has the key that is made for it. -/
theorem hasKey_iff {base path : Bytes} {key : String} :
    hasKey base key path = true ↔ keyOf base path = .ok key := by
  unfold hasKey
  split <;> simp_all

/-- A library has the responses of files, each key that of the last file that has it. -/
structure Gathers (tree : FileTree) (start : Library) (files : List Bytes) (library : Library) :
    Prop where
  root_eq : library.root = start.root
  readable : ∀ path ∈ files, ∃ content, tree.read path = .ok content
  get?_eq : ∀ key, library.get? key =
    match files.reverse.find? (hasKey (baseOf start.root) key) with
    | some path => (tree.read path).toOption.map (fileBytes path)
    | none => start.get? key

/-- Before any file is added, a library has what it starts with. -/
theorem gathers_nil (tree : FileTree) (start : Library) : Gathers tree start [] start where
  root_eq := rfl
  readable := by simp
  get?_eq := by simp

/-- One more file that can be read takes its key over. -/
theorem Gathers.concat {tree : FileTree} {start library : Library} {files : List Bytes}
    {path content : Bytes} {key : String} (gathers : Gathers tree start files library)
    (found : keyOf (baseOf start.root) path = .ok key) (read : tree.read path = .ok content) :
    Gathers tree start (files ++ [path]) (library.insert key (fileBytes path content)) where
  root_eq := gathers.root_eq
  readable other member := by
    obtain member | member := List.mem_append.1 member
    · exact gathers.readable other member
    · obtain rfl := List.mem_singleton.1 member
      exact ⟨content, read⟩
  get?_eq other := by
    have here : hasKey (baseOf start.root) other path = (key == other) := by
      rw [hasKey, found]
    rw [get?_insert, List.reverse_concat, List.find?_cons, here, gathers.get?_eq]
    by_cases same : key = other
    · simp [same, read, Except.toOption]
    · rw [if_neg same, beq_false_of_ne same]

/-- Adding a file that has a key. -/
theorem addFile_eq {tree : FileTree} {library : Library} {path : Bytes} {key : String}
    (found : keyOf (baseOf library.root) path = .ok key) :
    addFile tree library path =
      match tree.read path with
      | .ok content => .ok (library.insert key (fileBytes path content))
      | .error error => .error (.file path error) := by
  cases read : tree.read path with
  | ok content => simp [addFile, found, fileResponse_of_read read, bind, Except.bind]
  | error error => simp [addFile, found, fileResponse_of_error read, bind, Except.bind]

/-- Files that have keys are gathered up to the first one that cannot be read. -/
theorem gathers_or_fails (tree : FileTree) (start : Library) {files : List Bytes}
    (keyed : ∀ path ∈ files, ∃ key, keyOf (baseOf start.root) path = .ok key) :
    (∃ library, files.foldlM (addFile tree) start = .ok library ∧
      Gathers tree start files library) ∨
    ∃ front path back error, files = front ++ path :: back ∧
      (∀ earlier ∈ front, ∃ content, tree.read earlier = .ok content) ∧
      tree.read path = .error error ∧
      files.foldlM (addFile tree) start = .error (.file path error) := by
  -- The library grows at the end of the files, so the induction takes the last file off.
  induction files using List.reverseRecOn with
  | nil => exact .inl ⟨start, rfl, gathers_nil tree start⟩
  | append_singleton files path ih =>
    have keyedFront : ∀ path ∈ files, ∃ key, keyOf (baseOf start.root) path = .ok key :=
      fun path member => keyed path (List.mem_append_left _ member)
    obtain ⟨key, found⟩ := keyed path (by simp)
    obtain ⟨library, folded, gathers⟩ |
        ⟨front, failing, back, error, split, sound, fails, folded⟩ := ih keyedFront
    · have here : keyOf (baseOf library.root) path = .ok key := gathers.root_eq ▸ found
      cases read : tree.read path with
      | ok content =>
        refine .inl ⟨library.insert key (fileBytes path content), ?_, gathers.concat found read⟩
        simp [List.foldlM_append, folded, addFile_eq here, read, bind, Except.bind, pure,
          Except.pure]
      | error error =>
        refine .inr ⟨files, path, [], error, rfl, gathers.readable, read, ?_⟩
        simp [List.foldlM_append, folded, addFile_eq here, read, bind, Except.bind]
    · refine .inr ⟨front, failing, back ++ [path], error, by simp [split], sound, fails, ?_⟩
      rw [List.foldlM_append, folded]
      rfl

end TunnelBench.Library
