import TunnelBench.FileTree.Editing
import TunnelBench.Proofs.FileTree.Names

/-!
# Edited trees

The names of a path are proper, and so are those of every place to which a path leads.
Edits put nodes only at such places, and each in place of what stood there before; hence
trees that are made by edits are well formed.
-/
namespace TunnelBench.FileTree

/-- A place whose names are proper. -/
def IsProperPlace (place : Place) : Prop := ∀ name ∈ place, Path.IsProper name

/-- A well-formed tree in which paths start from a proper place. -/
structure Editable (tree : FileTree) : Prop extends tree.WellFormed where
  current : IsProperPlace tree.current

/-- One edit of a tree. -/
inductive Edit where
  | directory (path : Bytes)
  | file (path content : Bytes)
  | link (path target : Bytes)
  | removal (path : Bytes)

/-- A tree after an edit. -/
def edit (tree : FileTree) : Edit → FileTree
  | .directory path => tree.makeDirectory path
  | .file path content => tree.write path content
  | .link path target => tree.makeLink path target
  | .removal path => tree.remove path

section Places

variable {tree : FileTree} {place found : Place} {way : List Name}

/-- The names of a path are proper. -/
theorem isProperPlace_names (path : Bytes) : IsProperPlace (Path.names path) :=
  fun _ => Path.isProper_of_mem_names

/-- The names to go through for a path are proper. -/
theorem isProperPlace_route (path : Bytes) : IsProperPlace (route path) := by
  intro name member
  obtain member | member := List.mem_append.1 member
  · exact Path.isProper_of_mem_names member
  · split at member
    · obtain rfl := List.mem_singleton.1 member
      decide
    · contradiction

/-- A path starts from a proper place. -/
theorem IsProperPlace.start (proper : IsProperPlace place) (path : Bytes) :
    IsProperPlace (start place path) := by
  unfold FileTree.start
  split
  · exact fun _ member => absurd member List.not_mem_nil
  · exact proper

/-- One more proper name behind a proper place. -/
theorem IsProperPlace.concat {name : Name} (proper : IsProperPlace place)
    (next : Path.IsProper name) : IsProperPlace (place ++ [name]) := by
  simpa [IsProperPlace, or_imp, forall_and, next] using proper

/-- The place above a proper place. -/
theorem IsProperPlace.dropLast (proper : IsProperPlace place) : IsProperPlace place.dropLast :=
  fun name member => proper name ((List.dropLast_sublist place).subset member)

/-- Proper names lead from a proper place to a proper place. -/
theorem IsProperPlace.follow {links : Nat} {node : Node} (proper : IsProperPlace place)
    (names : IsProperPlace way) (followed : tree.follow links place way = .ok (found, node)) :
    IsProperPlace found := by
  have head {name : Name} {rest : List Name} (all : IsProperPlace (name :: rest)) :
      Path.IsProper name := all name List.mem_cons_self
  have tail {name : Name} {rest : List Name} (all : IsProperPlace (name :: rest)) :
      IsProperPlace rest := fun other member => all other (List.mem_cons_of_mem _ member)
  fun_induction FileTree.follow tree links place way with
  | case1 =>
    cases followed
    exact proper
  | case3 _ _ _ _ ih => exact ih proper (tail names) followed
  | case4 _ _ _ _ _ ih => exact ih proper.dropLast (tail names) followed
  | case7 place name rest _ _ _ _ target links _ ih =>
    have onwards : IsProperPlace (route target ++ rest) := fun other member =>
      (List.mem_append.1 member).elim (isProperPlace_route target other) (tail names other)
    exact ih (proper.start target) onwards followed
  | case8 _ _ _ _ _ _ _ _ _ _ _ ih => exact ih (proper.concat (head names)) (tail names) followed
  | _ => cases followed

/-- Where a path is written to is a proper place. -/
theorem IsProperPlace.landing {links : Nat} (proper : IsProperPlace place)
    (names : IsProperPlace way) (lands : tree.landing? links place way = some found) :
    IsProperPlace found := by
  fun_induction landing? tree links place way with
  | case4 place way directory name last reached _ target _ links ih =>
    have above : IsProperPlace directory := proper.follow names.dropLast reached
    exact ih (above.start target) (isProperPlace_route target) lands
  | case5 _ place way directory name last reached =>
    have above : IsProperPlace directory := proper.follow names.dropLast reached
    cases lands
    exact above.concat (names name (List.mem_of_getLast? last))
  | _ => cases lands

end Places

section Edits

variable {tree : FileTree} {place : Place} {way : List Name}

/-- Putting a node in place of what stood there. -/
theorem Editable.put (editable : tree.Editable) (proper : IsProperPlace place) (node : Node) :
    (tree.put place node).Editable where
  proper entry member := by
    obtain member | member := List.mem_append.1 member
    · exact editable.proper entry (List.mem_filter.1 member).1
    · obtain rfl := List.mem_singleton.1 member
      exact proper
  single := by
    have kept : ((tree.nodes.filter (·.1 ≠ place)).map (·.1)).Nodup :=
      editable.single.sublist (List.filter_sublist.map _)
    rw [FileTree.put, List.map_append]
    refine List.Nodup.append kept (List.nodup_singleton _) ?_
    simp [List.Disjoint]
  current := editable.current

/-- Putting a directory where nothing stands. -/
theorem Editable.putDirectory (editable : tree.Editable) (proper : IsProperPlace place) :
    (tree.putDirectory place).Editable := by
  unfold FileTree.putDirectory
  split
  · exact editable
  · exact editable.put proper .directory

/-- Going through names, with directories made where nothing stands. -/
theorem Editable.enter (editable : tree.Editable) (proper : IsProperPlace place)
    (names : IsProperPlace way) :
    (tree.enter place way).1.Editable ∧ IsProperPlace (tree.enter place way).2 := by
  fun_induction FileTree.enter tree place way with
  | case1 => exact ⟨editable, proper⟩
  | case2 tree place name rest next _ reached ih =>
    have first : IsProperPlace [name] := fun other member =>
      names other (List.mem_cons.2 (.inl (List.mem_singleton.1 member)))
    have later : IsProperPlace rest := fun other member =>
      names other (List.mem_cons_of_mem _ member)
    exact ih editable (proper.follow first reached) later
  | case3 tree place name rest _ _ ih =>
    have next : IsProperPlace (place ++ [name]) := proper.concat (names name List.mem_cons_self)
    have later : IsProperPlace rest := fun other member =>
      names other (List.mem_cons_of_mem _ member)
    exact ih (editable.putDirectory next) next later

/-- Making the directories that a path names. -/
theorem Editable.makeDirectory (editable : tree.Editable) (path : Bytes) :
    (tree.makeDirectory path).Editable :=
  (editable.enter (editable.current.start path) (isProperPlace_names path)).1

/-- Putting a node where a path ends. -/
theorem Editable.putAt (editable : tree.Editable) (path : Bytes) (node : Node) :
    (tree.putAt path node).Editable := by
  have names := isProperPlace_names path
  obtain ⟨grown, proper⟩ := editable.enter (editable.current.start path) names.dropLast
  unfold FileTree.putAt
  dsimp only
  split
  · rename_i name last
    exact grown.put (proper.concat (names name (List.mem_of_getLast? last))) node
  · exact grown

/-- Writing a file. -/
theorem Editable.write (editable : tree.Editable) (path content : Bytes) :
    (tree.write path content).Editable := by
  have names := isProperPlace_names path
  obtain ⟨grown, -⟩ := editable.enter (editable.current.start path) names.dropLast
  unfold FileTree.write
  dsimp only
  split
  · rename_i place lands
    have proper : IsProperPlace place :=
      (grown.current.start path).landing (isProperPlace_route path) lands
    exact grown.put proper (.file content)
  · exact grown

/-- Removing what a path names. -/
theorem Editable.remove (editable : tree.Editable) (path : Bytes) :
    (tree.remove path).Editable := by
  unfold FileTree.remove
  dsimp only
  split
  · exact {
      proper := fun entry member => editable.proper entry (List.mem_filter.1 member).1
      single := editable.single.sublist (List.filter_sublist.map _)
      current := editable.current }
  · exact editable

/-- An edit keeps a tree well formed. -/
theorem Editable.edit (editable : tree.Editable) (edit : Edit) : (tree.edit edit).Editable := by
  cases edit with
  | directory path => exact editable.makeDirectory path
  | file path content => exact editable.write path content
  | link path target => exact editable.putAt path (.link target)
  | removal path => exact editable.remove path

/-- A tree that is made by edits from nothing is well formed. -/
theorem wellFormed_of_edits {current : Place} (proper : IsProperPlace current)
    (edits : List Edit) : (edits.foldl FileTree.edit { current }).WellFormed := by
  suffices kept : ∀ tree : FileTree, tree.Editable → (edits.foldl FileTree.edit tree).Editable from
    (kept { current } ⟨⟨by simp, by simp⟩, proper⟩).toWellFormed
  induction edits with
  | nil => exact fun _ editable => editable
  | cons edit edits ih => exact fun tree editable => ih (tree.edit edit) (editable.edit edit)

end Edits

end TunnelBench.FileTree
