import Mathlib.Data.List.Nodup
import TunnelBench.FileTree.Basic

/-!
# Names and their order

A path is known by its names: writing names down and reading them again gives the same
names, and one more name on a path is one more name in the list. Names are ordered by
their bytes, and paths by their names, so that a path stands right before all that is
below it.
-/
namespace TunnelBench

namespace Bytes

/-- No byte string comes before itself. -/
theorem before_irrefl (bytes : Bytes) : before bytes bytes = false := by
  induction bytes with
  | nil => rfl
  | cons byte bytes ih => simp [before, ih, UInt8.lt_irrefl]

/-- What comes before a byte string comes before all that follows it. -/
theorem before_trans {first second third : Bytes} (left : before first second = true)
    (right : before second third = true) : before first third = true := by
  induction first generalizing second third with
  | nil =>
    cases second <;> cases third <;> simp_all [before]
  | cons byte bytes ih =>
    match second, third with
    | [], _ => simp [before] at left
    | _ :: _, [] => simp [before] at right
    | byte₂ :: bytes₂, byte₃ :: bytes₃ =>
      simp only [before, Bool.or_eq_true, decide_eq_true_eq, Bool.and_eq_true, beq_iff_eq]
        at left right ⊢
      obtain less | ⟨rfl, left⟩ := left <;> obtain later | ⟨rfl, right⟩ := right
      · exact .inl (UInt8.lt_trans less later)
      · exact .inl less
      · exact .inl later
      · exact .inr ⟨rfl, ih left right⟩

/-- One of two different byte strings comes before the other one. -/
theorem before_total (first second : Bytes) :
    before first second = true ∨ first = second ∨ before second first = true := by
  induction first generalizing second with
  | nil => cases second <;> simp [before]
  | cons byte bytes ih =>
    match second with
    | [] => simp [before]
    | byte₂ :: bytes₂ =>
      by_cases same : byte = byte₂
      · subst same
        simpa [before, UInt8.lt_irrefl] using ih bytes₂
      · obtain less | less := UInt8.lt_or_lt_of_ne same <;> simp [before, less]

/-- Of two byte strings at most one comes before the other one. -/
theorem before_asymm {first second : Bytes} (left : before first second = true) :
    before second first = false := by
  by_contra right
  have := before_trans left (by simpa using right)
  simp [before_irrefl] at this

end Bytes

namespace Path

/-- A name as it stands in a directory: it is not empty, and no slash is in it. -/
def IsProper (name : Name) : Prop := name ≠ [] ∧ slash ∉ name
  deriving Decidable

/-- There is always a part, if only an empty one. -/
theorem parts_ne_nil (path : Bytes) : parts path ≠ [] := by
  fun_cases parts path <;> simp_all

/-- A slash parts a path. -/
theorem parts_append_slash (first second : Bytes) :
    parts (first ++ slash :: second) = parts first ++ parts second := by
  induction first with
  | nil => simp [parts]
  | cons byte bytes ih =>
    simp only [List.cons_append, parts, ih]
    split
    · rfl
    · cases found : parts bytes with
      | nil => exact absurd found (parts_ne_nil bytes)
      | cons => rfl

/-- Without a slash there is one part. -/
theorem parts_of_not_mem {path : Bytes} (whole : slash ∉ path) : parts path = [path] := by
  induction path with
  | nil => rfl
  | cons byte bytes ih =>
    simp only [List.mem_cons, not_or] at whole
    have apart : (byte == slash) = false := by simpa using fun same => whole.1 (Eq.symm same)
    simp [parts, ih whole.2, apart]

/-- No part holds a slash. -/
theorem not_mem_of_mem_parts {path part : Bytes} (member : part ∈ parts path) :
    slash ∉ part := by
  induction path generalizing part with
  | nil => simp_all [parts]
  | cons byte bytes ih =>
    unfold parts at member
    split at member
    · obtain rfl | member := List.mem_cons.1 member
      · exact List.not_mem_nil
      · exact ih member
    · split at member
      · exact absurd ‹_› (parts_ne_nil bytes)
      · rename_i apart _ first others found
        obtain rfl | member := List.mem_cons.1 member
        · have inFirst : slash ∉ first := ih (found ▸ List.mem_cons_self)
          simp only [beq_iff_eq] at apart
          simpa [inFirst] using fun same => apart (Eq.symm same)
        · exact ih (found ▸ List.mem_cons_of_mem _ member)

/-- The names of a path are proper. -/
theorem isProper_of_mem_names {path : Bytes} {name : Name} (member : name ∈ names path) :
    IsProper name := by
  simp only [names, List.mem_filter, decide_eq_true_eq] at member
  exact ⟨member.2, not_mem_of_mem_parts member.1⟩

/-- The empty path has no names. -/
@[simp]
theorem names_nil : names [] = [] := rfl

/-- A slash parts the names of a path. -/
@[simp]
theorem names_append_slash (first second : Bytes) :
    names (first ++ slash :: second) = names first ++ names second := by
  simp [names, parts_append_slash]

/-- A proper name is a path with this name. -/
theorem names_of_isProper {name : Name} (proper : IsProper name) : names name = [name] := by
  simp [names, parts_of_not_mem proper.2, proper.1]

/-- A slash at its end adds no name to a path. -/
theorem names_append_of_endsWithSlash {path : Bytes} (ends : endsWithSlash path = true)
    (rest : Bytes) : names (path ++ rest) = names path ++ names rest := by
  obtain ⟨front, rfl⟩ := List.getLast?_eq_some_iff.1 (by simpa [endsWithSlash] using ends)
  rw [List.append_assoc, List.singleton_append, names_append_slash, names_append_slash]
  simp

/-- A proper name makes no absolute path. -/
theorem isAbsolute_of_isProper {name : Name} (proper : IsProper name) :
    isAbsolute name = false := by
  cases name with
  | nil => rfl
  | cons byte bytes =>
    have apart : byte ≠ slash := fun same => proper.2 (by simp [same])
    simpa [isAbsolute] using apart

/-- A relative path behind a path adds its names. -/
theorem names_join_of_relative (path : Bytes) {more : Bytes} (relative : isAbsolute more = false) :
    names (join path more) = names path ++ names more := by
  rw [join, if_neg (by simp [relative])]
  split
  · obtain empty | ends := ‹path.isEmpty = true ∨ _›
    · simp_all
    · exact names_append_of_endsWithSlash ends _
  · exact names_append_slash _ _

/-- A name behind a path is one more name. -/
theorem names_join (path : Bytes) {name : Name} (proper : IsProper name) :
    names (join path name) = names path ++ [name] := by
  rw [names_join_of_relative path (isAbsolute_of_isProper proper), names_of_isProper proper]

/-- Names behind a path, each after a slash. -/
theorem names_append_flatMap (path : Bytes) {added : List Name}
    (proper : ∀ name ∈ added, IsProper name) :
    names (path ++ added.flatMap fun name => slash :: name) = names path ++ added := by
  induction added generalizing path with
  | nil => simp
  | cons name added ih =>
    have later := ih name fun other member => proper other (List.mem_cons_of_mem _ member)
    rw [List.flatMap_cons, List.cons_append, names_append_slash, later,
      names_of_isProper (proper name List.mem_cons_self)]
    simp

/-- The names of a path made of names. -/
theorem names_ofNames {given : List Name} (proper : ∀ name ∈ given, IsProper name) :
    names (ofNames given) = given := by
  unfold ofNames
  split
  · simp_all [names, parts, slash]
  · simpa using names_append_flatMap [] proper

/-- One path before another one in the order of their names. -/
def Precedes (first second : Bytes) : Prop :=
  List.Lex (fun left right => Bytes.before left right = true) (names first) (names second)

/-- The order of paths is transitive. -/
theorem Precedes.trans {first second third : Bytes} (left : Precedes first second)
    (right : Precedes second third) : Precedes first third :=
  List.lex_trans Bytes.before_trans left right

/-- Below one directory the first different name decides. -/
theorem precedes_of_before {first second : Bytes} {shared way₁ way₂ : List Name}
    {name₁ name₂ : Name} (left : names first = shared ++ name₁ :: way₁)
    (right : names second = shared ++ name₂ :: way₂) (less : Bytes.before name₁ name₂ = true) :
    Precedes first second := by
  rw [Precedes, left, right]
  clear left right
  induction shared with
  | nil => exact .rel less
  | cons name shared ih => exact .cons ih

/-- No path comes before itself. -/
theorem not_precedes_of_names_eq {first second : Bytes}
    (same : names first = names second) : ¬Precedes first second := by
  rw [Precedes, same]
  generalize names second = given
  intro less
  induction given with
  | nil => contradiction
  | cons name names ih =>
    cases less with
    | cons later => exact ih later
    | rel before => simp [Bytes.before_irrefl] at before

end Path

namespace FileTree

/-- A tree as a file system holds it: the names are proper, and no place is taken twice. -/
structure WellFormed (tree : FileTree) : Prop where
  proper : ∀ node ∈ tree.nodes, ∀ name ∈ node.1, Path.IsProper name
  single : (tree.nodes.map (·.1)).Nodup

/-- Whether a tree is well formed can be checked. -/
instance (tree : FileTree) : Decidable tree.WellFormed :=
  decidable_of_iff ((∀ node ∈ tree.nodes, ∀ name ∈ node.1, Path.IsProper name) ∧
      (tree.nodes.map (·.1)).Nodup)
    ⟨fun ⟨proper, single⟩ => ⟨proper, single⟩, fun formed => ⟨formed.proper, formed.single⟩⟩

/-- Something that stands below the root is one of the nodes. -/
theorem mem_nodes_of_node? {tree : FileTree} {place : Place} {name : Name} {node : Node}
    (stands : tree.node? (place ++ [name]) = some node) :
    (place ++ [name], node) ∈ tree.nodes := by
  rw [node?, if_neg (by simp)] at stands
  obtain ⟨entry, found, rfl⟩ := Option.map_eq_some_iff.1 stands
  have same : entry.1 = place ++ [name] := by simpa using List.find?_some found
  exact same ▸ List.mem_of_find?_eq_some found

/-- The names in well-formed trees are proper. -/
theorem WellFormed.isProper {tree : FileTree} (formed : tree.WellFormed) {place : Place}
    {name : Name} {node : Node} (stands : tree.node? (place ++ [name]) = some node) :
    Path.IsProper name :=
  formed.proper _ (mem_nodes_of_node? stands) name (by simp)

/-- The place of a name in a directory. -/
theorem nameIn?_eq_some {directory place : Place} {name : Name} :
    nameIn? directory place = some name ↔ place = directory ++ [name] := by
  unfold nameIn?
  split
  · rename_i last found
    constructor
    · intro picked
      split at picked <;> cases picked
      assumption
    · rintro rfl
      simp_all
  · rename_i found
    simp only [List.getLast?_eq_none_iff] at found
    simp [found]

/-- A directory lists the names under which something stands in it. -/
theorem mem_namesIn {tree : FileTree} {directory : Place} {name : Name} {node : Node}
    (stands : tree.node? (directory ++ [name]) = some node) : name ∈ tree.namesIn directory := by
  rw [namesIn, List.mem_mergeSort, List.mem_filterMap]
  exact ⟨_, mem_nodes_of_node? stands, nameIn?_eq_some.2 rfl⟩

/-- A directory lists each name once. -/
theorem WellFormed.nodup_namesIn {tree : FileTree} (formed : tree.WellFormed)
    (directory : Place) : (tree.namesIn directory).Nodup := by
  have listed : tree.nodes.filterMap (fun node => nameIn? directory node.1) =
      (tree.nodes.map (·.1)).filterMap (nameIn? directory) := by
    rw [List.filterMap_map]
    rfl
  rw [namesIn, (List.mergeSort_perm _ _).nodup_iff, listed]
  refine formed.single.filterMap fun place other name here there => ?_
  exact (nameIn?_eq_some.1 here).trans (nameIn?_eq_some.1 there).symm

/-- A directory lists its names in the order of their bytes. -/
theorem WellFormed.sorted_namesIn {tree : FileTree} (formed : tree.WellFormed)
    (directory : Place) :
    (tree.namesIn directory).Pairwise fun left right => Bytes.before left right = true := by
  have weakly : (tree.namesIn directory).Pairwise
      fun left right => (!Bytes.before right left) = true := by
    refine List.pairwise_mergeSort ?_ ?_ _
    · intro first second third left right
      simp only [Bool.not_eq_true', Bool.eq_false_iff] at left right ⊢
      intro down
      obtain less | rfl | less := Bytes.before_total first second
      · exact right (Bytes.before_trans down less)
      · exact right down
      · exact left less
    · intro first second
      simp only [Bool.or_eq_true, Bool.not_eq_true']
      obtain less | rfl | less := Bytes.before_total first second
      · exact .inl (Bytes.before_asymm less)
      · exact .inl (Bytes.before_irrefl first)
      · exact .inr (Bytes.before_asymm less)
  refine (weakly.and (formed.nodup_namesIn directory)).imp fun {left right} both => ?_
  obtain ⟨notAfter, apart⟩ := both
  obtain less | same | less := Bytes.before_total left right
  · exact less
  · exact absurd same apart
  · simp [less] at notAfter

end FileTree
end TunnelBench
