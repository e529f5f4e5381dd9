import TunnelBench.FileTree.Basic

/-!
# Walking file trees

A walk visits everything below a path, depth first and in the order of names, and
lists the files it meets. Links are followed. A link that leads nowhere stops the
walk, and so does a link to a directory that the walk is inside of.
-/
namespace TunnelBench.FileTree

/-- A directory that a walk is inside of. -/
structure Visit where
  /-- The path by which the walk came. -/
  path : Bytes
  /-- The directory itself. -/
  place : Place

/-- The files that a walk met, in order, and what stopped it before its end. -/
structure Walked where
  files : List Bytes := []
  stop : Option WalkError := none
  deriving DecidableEq, Repr

/-- A walk that meets a file first. -/
def Walked.cons (file : Bytes) (later : Walked) : Walked :=
  { later with files := file :: later.files }

/-- One walk after another that was not stopped. -/
def Walked.append (first later : Walked) : Walked := ⟨first.files ++ later.files, later.stop⟩

/-- The places of all directories. -/
def directories (tree : FileTree) : List Place :=
  [] :: (tree.nodes.filter (·.2 == .directory)).map (·.1)

/-- Whether a walk is not inside of a place. -/
def isOutside (inside : List Visit) (place : Place) : Bool := !inside.any (·.place == place)

/-- The number of directories that a walk is not inside of. -/
def unvisited (tree : FileTree) (inside : List Visit) : Nat :=
  tree.directories.countP (isOutside inside)

/-- No place is deeper than this. -/
def depth (tree : FileTree) : Nat := (tree.nodes.map (·.1.length)).foldl max 0

/-- The innermost directory that a walk is inside of and that stands at a place. -/
def ancestor? (inside : List Visit) (place : Place) : Option Visit :=
  inside.find? (·.place == place)

/-- A running maximum is never less than its start. -/
theorem le_foldl_max (start : Nat) (values : List Nat) : start ≤ values.foldl max start := by
  induction values generalizing start with
  | nil => exact Nat.le_refl _
  | cons value values ih => exact Nat.le_trans (Nat.le_max_left _ _) (ih _)

/-- A running maximum is never less than a value that it has met. -/
theorem mem_le_foldl_max {value : Nat} {values : List Nat} (member : value ∈ values)
    (start : Nat) : value ≤ values.foldl max start := by
  induction values generalizing start with
  | nil => contradiction
  | cons head tail ih =>
    cases member with
    | head => exact Nat.le_trans (Nat.le_max_right _ _) (le_foldl_max _ _)
    | tail _ member => exact ih member _

/-- A place where something stands is no deeper than the tree. -/
theorem length_le_depth {tree : FileTree} {place : Place} {node : Node}
    (found : tree.node? place = some node) : place.length ≤ tree.depth := by
  unfold node? at found
  split at found
  · simp_all
  · obtain ⟨entry, entryFound, -⟩ := Option.map_eq_some_iff.1 found
    have same : entry.1 = place := by simpa using List.find?_some entryFound
    have member : entry.1.length ∈ tree.nodes.map (·.1.length) :=
      List.mem_map.2 ⟨entry, List.mem_of_find?_eq_some entryFound, rfl⟩
    exact same ▸ mem_le_foldl_max member 0

/-- A place where a directory stands is one of the directories. -/
theorem mem_directories {tree : FileTree} {place : Place}
    (found : tree.node? place = some .directory) : place ∈ tree.directories := by
  unfold node? at found
  split at found
  · simp_all [directories]
  · obtain ⟨entry, entryFound, kind⟩ := Option.map_eq_some_iff.1 found
    have same : entry.1 = place := by simpa using List.find?_some entryFound
    refine List.mem_cons_of_mem _ (List.mem_map.2 ⟨entry, List.mem_filter.2 ⟨?_, ?_⟩, same⟩)
    · exact List.mem_of_find?_eq_some entryFound
    · simp [kind]

/-- A walk that is outside of a place after going in somewhere was outside of it before. -/
theorem isOutside_of_cons {visit : Visit} {inside : List Visit} {place : Place}
    (outside : isOutside (visit :: inside) place) : isOutside inside place := by
  simp_all [isOutside]

/-- Going into a directory never adds to the unvisited ones. -/
theorem unvisited_cons_le (tree : FileTree) (visit : Visit) (inside : List Visit) :
    tree.unvisited (visit :: inside) ≤ tree.unvisited inside :=
  List.countP_mono_left fun _ _ => isOutside_of_cons

/-- Going into one of some places leaves fewer of them outside. -/
theorem countP_isOutside_lt {places : List Place} {visit : Visit} {inside : List Visit}
    (member : visit.place ∈ places) (outside : isOutside inside visit.place) :
    places.countP (isOutside (visit :: inside)) < places.countP (isOutside inside) := by
  induction places with
  | nil => contradiction
  | cons head tail ih =>
    have tailLe : tail.countP (isOutside (visit :: inside)) ≤ tail.countP (isOutside inside) :=
      List.countP_mono_left fun _ _ => isOutside_of_cons
    cases member with
    | head =>
      have entered : ¬ isOutside (visit :: inside) visit.place := by simp [isOutside]
      rw [List.countP_cons_of_neg entered, List.countP_cons_of_pos outside]
      omega
    | tail _ member =>
      have less := ih member
      simp only [List.countP_cons]
      have headLe : (if isOutside (visit :: inside) head then 1 else 0) ≤
          if isOutside inside head then 1 else 0 := by
        split
        · exact Nat.le_of_eq (if_pos (isOutside_of_cons ‹_›)).symm
        · exact Nat.zero_le _
      omega

/-- Going into a directory that the walk is not inside of leaves fewer unvisited ones. -/
theorem unvisited_cons_lt {tree : FileTree} {visit : Visit} {inside : List Visit}
    (found : tree.node? visit.place = some .directory)
    (outside : ancestor? inside visit.place = none) :
    tree.unvisited (visit :: inside) < tree.unvisited inside :=
  countP_isOutside_lt (mem_directories found) (by
    simp only [ancestor?, List.find?_eq_none] at outside
    simpa [isOutside] using outside)

/-- What a walk finds under a name. -/
inductive Entry where
  /-- A file, which the walk lists. -/
  | file
  /-- A directory, into which the walk goes. -/
  | directory (place : Place)
  /-- What stops the walk. -/
  | broken (error : WalkError)
  deriving DecidableEq, Repr

/-- What a walk finds under a name of the innermost directory that it is inside of. Directories
are opened by the path of the walk, and so is what links lead to. -/
def entryAt? (tree : FileTree) (visit : Visit) (above : List Visit) (name : Name) : Option Entry :=
  let path := Path.join visit.path name
  match tree.node? (visit.place ++ [name]) with
  | none => none
  | some (.file _) => some .file
  | some .directory =>
    match tree.resolve path with
    | .error error => some (.broken (.entry path error))
    | .ok _ => some (.directory (visit.place ++ [name]))
  | some (.link _) =>
    match tree.resolve path with
    | .error error => some (.broken (.entry path error))
    | .ok (_, .file _) => some .file
    | .ok (place, .directory) =>
      match ancestor? (visit :: above) place with
      | some ancestor => some (.broken (.loop path ancestor.path))
      | none => some (.directory place)
    -- Following a path never ends at a link.
    | .ok (_, .link _) => none

/-- A walk goes only into directories: into those of the directory that it is in, and through
links into those that it is not inside of. -/
theorem enters_of_entryAt? {tree : FileTree} {visit : Visit} {above : List Visit} {name : Name}
    {place : Place} (found : tree.entryAt? visit above name = some (.directory place)) :
    tree.node? place = some .directory ∧
      (place = visit.place ++ [name] ∨ ancestor? (visit :: above) place = none) := by
  simp only [entryAt?] at found
  split at found
  · cases found
  · cases found
  · split at found <;> cases found
    exact ⟨‹_›, .inl rfl⟩
  · split at found
    · cases found
    · cases found
    · split at found <;> cases found
      exact ⟨node?_of_resolve ‹_›, .inr ‹_›⟩
    · cases found

/-- Walks through some names of the innermost directory that the walk is inside of. -/
def walkNames (tree : FileTree) (visit : Visit) (above : List Visit) (names : List Name) :
    Walked :=
  match names with
  | [] => {}
  | name :: rest =>
    let path := Path.join visit.path name
    match _ : tree.entryAt? visit above name with
    | none => walkNames tree visit above rest
    | some .file => (walkNames tree visit above rest).cons path
    | some (.broken error) => { stop := some error }
    | some (.directory place) =>
      let inner := walkNames tree ⟨path, place⟩ (visit :: above) (tree.namesIn place)
      if inner.stop.isSome then inner else inner.append (walkNames tree visit above rest)
termination_by (tree.unvisited (visit :: above), tree.depth - visit.place.length, names.length)
decreasing_by
  any_goals exact Prod.Lex.right _ (Prod.Lex.right _ (Nat.lt_succ_self _))
  obtain ⟨stands, rfl | outside⟩ := enters_of_entryAt? ‹_›
  · have deep := length_le_depth stands
    simp only [List.length_append, List.length_singleton] at deep
    refine Prod.Lex.right' _ (unvisited_cons_le tree _ _) (Prod.Lex.left _ _ ?_)
    simp only [List.length_append, List.length_singleton]
    omega
  · exact Prod.Lex.left _ _ (unvisited_cons_lt stands outside)

/-- Walks from a path, which is met itself if it is a file. -/
def walk (tree : FileTree) (path : Bytes) : Walked :=
  match tree.resolve path with
  | .error error => { stop := some (.entry path error) }
  | .ok (_, .file _) => { files := [path] }
  | .ok (place, .directory) => tree.walkNames ⟨path, place⟩ [] (tree.namesIn place)
  | .ok (_, .link _) => {}

end TunnelBench.FileTree
