import TunnelBench.Proofs.FileTree.Names

/-!
# Contents of files

Where a path leads, and what stands there, decides what can be read: the content of a file
that the tree has, or nothing, for a reason. The operations that find and read files agree
with this.
-/
namespace TunnelBench.FileTree

/-- A path leads somewhere. -/
structure IsThere (tree : FileTree) (path : Bytes) : Prop where
  plain : 0 ∉ path
  leads : ∃ place node, tree.resolve path = .ok (place, node)

/-- Why a path leads nowhere. -/
inductive IsMissing (tree : FileTree) (path : Bytes) : IoError → Prop
  /-- No path has a zero byte. -/
  | terminator (zero : 0 ∈ path) : IsMissing tree path .terminatorInPath
  | astray {error : SystemError} (plain : 0 ∉ path) (fails : tree.resolve path = .error error) :
      IsMissing tree path (.system error)

/-- A path leads to a file of the tree, which has a content. -/
structure HasContent (tree : FileTree) (path content : Bytes) : Prop where
  plain : 0 ∉ path
  leads : ∃ place, tree.resolve path = .ok (place, .file content) ∧
    (place, .file content) ∈ tree.nodes

/-- Why there is no content behind a path. -/
inductive HasNone (tree : FileTree) (path : Bytes) : IoError → Prop
  | missing {error : IoError} (missing : tree.IsMissing path error) : HasNone tree path error
  /-- The path leads to what is no file. -/
  | other {place : Place} {node : Node} (plain : 0 ∉ path)
      (leads : tree.resolve path = .ok (place, node)) (unlike : ∀ content, node ≠ .file content) :
      HasNone tree path (.system .isDirectory)

variable {tree : FileTree} {path : Bytes}

/-- A path with a zero byte is not located. -/
theorem locate_of_zero (zero : 0 ∈ path) : tree.locate path = .error .terminatorInPath := by
  rw [locate, if_pos (List.contains_iff_mem.2 zero)]

/-- A path without a zero byte is located where it leads. -/
theorem locate_of_plain (plain : 0 ∉ path) :
    tree.locate path = (tree.resolve path).mapError .system := by
  rw [locate, if_neg (by simpa using plain)]
  cases tree.resolve path <;> rfl

/-- A path is located where it leads, if it has no zero byte. -/
theorem locate_eq_ok {found : Place × Node} :
    tree.locate path = .ok found ↔ 0 ∉ path ∧ tree.resolve path = .ok found := by
  by_cases zero : 0 ∈ path
  · rw [locate_of_zero zero]
    exact iff_of_false (by simp) fun leads => leads.1 zero
  · rw [locate_of_plain zero]
    cases tree.resolve path <;> simp [Except.mapError, zero]

/-- A path is located exactly if it leads somewhere. -/
theorem isThere_iff : tree.IsThere path ↔ ∃ found, tree.locate path = .ok found := by
  constructor
  · rintro ⟨plain, place, node, leads⟩
    exact ⟨(place, node), locate_eq_ok.2 ⟨plain, leads⟩⟩
  · rintro ⟨⟨place, node⟩, located⟩
    obtain ⟨plain, leads⟩ := locate_eq_ok.1 located
    exact ⟨plain, place, node, leads⟩

/-- A path is not located exactly for the reason why it leads nowhere. -/
theorem isMissing_iff {error : IoError} :
    tree.IsMissing path error ↔ tree.locate path = .error error := by
  constructor
  · rintro (zero | ⟨plain, fails⟩)
    · exact locate_of_zero zero
    · rw [locate_of_plain plain, fails]
      rfl
  · intro missed
    by_cases zero : 0 ∈ path
    · rw [locate_of_zero zero] at missed
      cases missed
      exact .terminator zero
    · rw [locate_of_plain zero] at missed
      cases fails : tree.resolve path with
      | ok found => simp [fails, Except.mapError] at missed
      | error error =>
        rw [fails] at missed
        cases missed
        exact .astray zero fails

/-- A file that stands somewhere is one of the nodes. -/
theorem mem_nodes_of_file {place : Place} {content : Bytes}
    (stands : tree.node? place = some (.file content)) : (place, .file content) ∈ tree.nodes := by
  rcases List.eq_nil_or_concat' place with rfl | ⟨directory, name, rfl⟩
  · have root : tree.node? [] = some .directory := rfl
    rw [root] at stands
    cases stands
  · exact mem_nodes_of_node? stands

/-- What is read is the content of the file to which the path leads. -/
theorem read_eq_ok {content : Bytes} :
    tree.read path = .ok content ↔ tree.HasContent path content := by
  unfold read
  constructor
  · intro given
    cases located : tree.locate path with
    | error error =>
      rw [located] at given
      contradiction
    | ok found =>
      obtain ⟨place, node⟩ := found
      obtain ⟨plain, leads⟩ := locate_eq_ok.1 located
      rw [located] at given
      cases node with
      | file other =>
        cases given
        exact ⟨plain, place, leads, mem_nodes_of_file (node?_of_resolve leads)⟩
      | directory | link => contradiction
  · rintro ⟨plain, place, leads, -⟩
    rw [locate_eq_ok.2 ⟨plain, leads⟩]
    rfl

/-- Reading fails for the reason why there is no content. -/
theorem read_eq_error {error : IoError} :
    tree.read path = .error error ↔ tree.HasNone path error := by
  unfold read
  constructor
  · intro fails
    cases located : tree.locate path with
    | error other =>
      rw [located] at fails
      cases fails
      exact .missing (isMissing_iff.2 located)
    | ok found =>
      obtain ⟨place, node⟩ := found
      obtain ⟨plain, leads⟩ := locate_eq_ok.1 located
      rw [located] at fails
      cases node with
      | file content => contradiction
      | directory | link =>
        cases fails
        exact .other plain leads (by simp)
  · rintro (missing | ⟨plain, leads, unlike⟩)
    · rw [isMissing_iff.1 missing]
      rfl
    · rename_i place node
      rw [locate_eq_ok.2 ⟨plain, leads⟩]
      cases node with
      | file content => exact absurd rfl (unlike content)
      | directory | link => rfl

end TunnelBench.FileTree
