import TunnelBench.FileTree.Walk
import TunnelBench.Proofs.FileTree.Names

/-!
# What walks meet

The rules by which a walk goes on say what there is to meet in a tree: files, and what
cannot be followed. A walk lists exactly the files that the rules let it meet, in the
order of their names, until it meets the first thing that it cannot follow.
-/
namespace TunnelBench

/-- The path at which a walk failed. -/
def WalkError.path : WalkError → Bytes
  | .entry path _ => path
  | .loop link _ => link

namespace FileTree

/-- What there is to meet. -/
inductive Leaf where
  | file (path : Bytes)
  /-- Something that cannot be followed. -/
  | broken (error : WalkError)
  deriving DecidableEq, Repr

/-- The path at which something is met. -/
def Leaf.path : Leaf → Bytes
  | .file path => path
  | .broken error => error.path

/-- The directories into which a walk goes under a name. -/
inductive Enters (tree : FileTree) (visit : Visit) (above : List Visit) (name : Name) :
    Place → Prop
  | directory {found : Place × Node}
      (stands : tree.node? (visit.place ++ [name]) = some .directory)
      (opens : tree.resolve (Path.join visit.path name) = .ok found) :
      Enters tree visit above name (visit.place ++ [name])
  /-- A link to a directory that the walk is not inside of. -/
  | link {target : Bytes} {place : Place}
      (stands : tree.node? (visit.place ++ [name]) = some (.link target))
      (leads : tree.resolve (Path.join visit.path name) = .ok (place, .directory))
      (outside : ∀ outer ∈ visit :: above, outer.place ≠ place) :
      Enters tree visit above name place

/-- What there is to meet at a name of the innermost directory that a walk is inside of, or below
it. -/
inductive Meets (tree : FileTree) : Visit → List Visit → Name → Leaf → Prop
  | file {visit : Visit} {above : List Visit} {name : Name} {content : Bytes}
      (stands : tree.node? (visit.place ++ [name]) = some (.file content)) :
      Meets tree visit above name (.file (Path.join visit.path name))
  /-- A link to a file. -/
  | linked {visit : Visit} {above : List Visit} {name : Name} {target : Bytes} {place : Place}
      {content : Bytes} (stands : tree.node? (visit.place ++ [name]) = some (.link target))
      (leads : tree.resolve (Path.join visit.path name) = .ok (place, .file content)) :
      Meets tree visit above name (.file (Path.join visit.path name))
  /-- A link that leads nowhere, or a directory that cannot be opened. -/
  | astray {visit : Visit} {above : List Visit} {name : Name} {node : Node} {error : SystemError}
      (stands : tree.node? (visit.place ++ [name]) = some node)
      (unlisted : ∀ content, node ≠ .file content)
      (fails : tree.resolve (Path.join visit.path name) = .error error) :
      Meets tree visit above name (.broken (.entry (Path.join visit.path name) error))
  /-- A link to a directory that the walk is inside of. -/
  | loop {visit : Visit} {above : List Visit} {name : Name} {target : Bytes} {place : Place}
      {ancestor : Visit} (stands : tree.node? (visit.place ++ [name]) = some (.link target))
      (leads : tree.resolve (Path.join visit.path name) = .ok (place, .directory))
      (inside : ancestor? (visit :: above) place = some ancestor) :
      Meets tree visit above name (.broken (.loop (Path.join visit.path name) ancestor.path))
  | deeper {visit : Visit} {above : List Visit} {name inner : Name} {place : Place} {leaf : Leaf}
      (enters : tree.Enters visit above name place)
      (later : Meets tree ⟨Path.join visit.path name, place⟩ (visit :: above) inner leaf) :
      Meets tree visit above name leaf

/-- What there is to meet from a path on. -/
def Finds (tree : FileTree) (root : Bytes) (leaf : Leaf) : Prop :=
  match tree.resolve root with
  | .error error => leaf = .broken (.entry root error)
  | .ok (_, .file _) => leaf = .file root
  | .ok (place, .directory) => ∃ name, tree.Meets ⟨root, place⟩ [] name leaf
  | .ok (_, .link _) => False

/-- What there is to meet at a name and below it, by what the walk finds under the name. -/
def Shows (tree : FileTree) (visit : Visit) (above : List Visit) (name : Name) (leaf : Leaf) :
    Option Entry → Prop
  | none => False
  | some .file => leaf = .file (Path.join visit.path name)
  | some (.broken error) => leaf = .broken error
  | some (.directory place) =>
    ∃ inner, tree.Meets ⟨Path.join visit.path name, place⟩ (visit :: above) inner leaf

section Rules

variable {tree : FileTree} {visit : Visit} {above : List Visit} {name : Name} {leaf : Leaf}

/-- Something stands where something is met. -/
theorem Meets.stands (meets : tree.Meets visit above name leaf) :
    ∃ node, tree.node? (visit.place ++ [name]) = some node := by
  cases meets with
  | file stands | linked stands | astray stands | loop stands => exact ⟨_, stands⟩
  | deeper enters => cases enters with | directory stands | link stands => exact ⟨_, stands⟩

/-- No directory that the walk is inside of stands at a place. -/
theorem ancestor?_eq_none {inside : List Visit} {place : Place} :
    ancestor? inside place = none ↔ ∀ outer ∈ inside, outer.place ≠ place := by
  simp [ancestor?]

/-- What the rules let a walk meet shows in what it finds under the name. -/
theorem Meets.shows (meets : tree.Meets visit above name leaf) :
    tree.Shows visit above name leaf (tree.entryAt? visit above name) := by
  cases meets with
  | file stands => simp [Shows, entryAt?, stands]
  | linked stands leads => simp [Shows, entryAt?, stands, leads]
  | @astray _ _ _ node _ stands unlisted fails =>
    cases node with
    | file content => exact absurd rfl (unlisted content)
    | directory | link => simp [Shows, entryAt?, stands, fails]
  | loop stands leads inside => simp [Shows, entryAt?, stands, leads, inside]
  | deeper enters later =>
    cases enters with
    | directory stands opens =>
      simp only [Shows, entryAt?, stands, opens]
      exact ⟨_, later⟩
    | link stands leads outside =>
      simp only [Shows, entryAt?, stands, leads, ancestor?_eq_none.2 outside]
      exact ⟨_, later⟩

/-- What shows in what a walk finds under a name is what the rules let it meet. -/
theorem meets_of_shows :
    tree.Shows visit above name leaf (tree.entryAt? visit above name) →
      tree.Meets visit above name leaf := by
  fun_cases entryAt? tree visit above name with
  | case1 | case9 => exact False.elim
  | case2 _ stands =>
    rintro rfl
    exact .file stands
  | case3 path stands _ fails | case5 path _ stands _ fails =>
    rintro rfl
    exact .astray stands (by simp) fails
  | case4 path stands _ opens =>
    rintro ⟨inner, later⟩
    exact .deeper (.directory stands opens) later
  | case6 path _ stands _ _ leads =>
    rintro rfl
    exact .linked stands leads
  | case7 path _ stands _ leads _ inside =>
    rintro rfl
    exact .loop stands leads inside
  | case8 path _ stands _ leads outside =>
    rintro ⟨inner, later⟩
    exact .deeper (.link stands leads (ancestor?_eq_none.1 outside)) later

/-- The rules and the decision of the walk say the same about a name. -/
theorem meets_iff :
    tree.Meets visit above name leaf ↔
      tree.Shows visit above name leaf (tree.entryAt? visit above name) :=
  ⟨Meets.shows, meets_of_shows⟩

/-- What is met at or below a name has the name in its path, behind those of the directory. -/
theorem Meets.names (formed : tree.WellFormed) (meets : tree.Meets visit above name leaf) :
    ∃ way, Path.names leaf.path = Path.names visit.path ++ name :: way := by
  induction meets with
  | file stands | linked stands | astray stands | loop stands =>
    exact ⟨[], Path.names_join _ (formed.isProper stands)⟩
  | @deeper visit above name inner place leaf enters later ih =>
    obtain ⟨way, split⟩ := ih
    obtain ⟨node, stands⟩ := (Meets.deeper enters later).stands
    refine ⟨inner :: way, ?_⟩
    calc Path.names leaf.path
        = Path.names (Path.join visit.path name) ++ inner :: way := split
      _ = (Path.names visit.path ++ [name]) ++ inner :: way := by
        rw [Path.names_join _ (formed.isProper stands)]
      _ = Path.names visit.path ++ name :: inner :: way := List.append_assoc ..

/-- What is met at or below a name comes before what is met at or below later names. -/
theorem Meets.precedes (formed : tree.WellFormed) {rest : List Name} {next : Leaf}
    (sorted : (name :: rest).Pairwise fun left right => Bytes.before left right = true)
    (meets : tree.Meets visit above name leaf)
    (later : ∃ other ∈ rest, tree.Meets visit above other next) :
    Path.Precedes leaf.path next.path := by
  obtain ⟨other, member, later⟩ := later
  obtain ⟨way, split⟩ := meets.names formed
  obtain ⟨way', split'⟩ := later.names formed
  have less : Bytes.before name other = true := List.rel_of_pairwise_cons sorted member
  exact Path.precedes_of_before split split' less

/-- A directory lists every name at which there is something to meet. -/
theorem exists_mem_namesIn :
    (∃ name ∈ tree.namesIn visit.place, tree.Meets visit above name leaf) ↔
      ∃ name, tree.Meets visit above name leaf := by
  constructor
  · rintro ⟨name, -, meets⟩
    exact ⟨name, meets⟩
  · rintro ⟨name, meets⟩
    obtain ⟨node, stands⟩ := meets.stands
    exact ⟨name, mem_namesIn stands, meets⟩

/-- At a name under which the walk goes into a directory, what is met is met in there. -/
theorem meets_iff_of_directory {place : Place}
    (found : tree.entryAt? visit above name = some (.directory place)) :
    tree.Meets visit above name leaf ↔ ∃ inner ∈ tree.namesIn place,
      tree.Meets ⟨Path.join visit.path name, place⟩ (visit :: above) inner leaf := by
  rw [meets_iff, found]
  exact exists_mem_namesIn.symm

end Rules

section Listings

variable {tree : FileTree} {visit : Visit} {above : List Visit} {name : Name} {rest : List Name}

end Listings

/-- A walk lists all that there is to meet, in order, until the first thing that cannot be
followed. -/
structure Walked.Covers (walked : Walked) (met : Leaf → Prop) : Prop where
  sound : ∀ path ∈ walked.files, met (.file path)
  ordered : walked.files.Pairwise Path.Precedes
  stopped : ∀ error ∈ walked.stop,
    met (.broken error) ∧ ∀ path ∈ walked.files, Path.Precedes path error.path
  complete : ∀ leaf, met leaf → (∃ path ∈ walked.files, leaf = .file path) ∨
    ∃ error ∈ walked.stop, leaf = .broken error ∨ Path.Precedes error.path leaf.path

namespace Walked

/-- Nothing is met by a walk through nothing. -/
theorem covers_nothing {met : Leaf → Prop} (none : ∀ leaf, ¬ met leaf) :
    ({} : Walked).Covers met where
  sound := by simp
  ordered := .nil
  stopped := by simp
  complete leaf meets := absurd meets (none leaf)

/-- A walk that is stopped covers what comes after it. -/
theorem Covers.stops {first : Walked} {met met' : Leaf → Prop} (here : first.Covers met)
    (stop : first.stop.isSome = true)
    (apart : ∀ leaf next, met leaf → met' next → Path.Precedes leaf.path next.path) :
    first.Covers fun leaf => met leaf ∨ met' leaf where
  sound path member := .inl (here.sound path member)
  ordered := here.ordered
  stopped error stopped := (here.stopped error stopped).imp_left .inl
  complete := by
    rintro leaf (meets | meets)
    · exact here.complete leaf meets
    · obtain ⟨error, stopped⟩ := Option.isSome_iff_exists.1 stop
      have broken : met (.broken error) := (here.stopped error stopped).1
      exact .inr ⟨error, stopped, .inr (apart _ leaf broken meets)⟩

/-- One walk after another that was not stopped. -/
theorem Covers.append {first later : Walked} {met met' : Leaf → Prop} (here : first.Covers met)
    (there : later.Covers met') (unstopped : first.stop = none)
    (apart : ∀ leaf next, met leaf → met' next → Path.Precedes leaf.path next.path) :
    (first.append later).Covers fun leaf => met leaf ∨ met' leaf where
  sound path member := (List.mem_append.1 member).imp (here.sound path) (there.sound path)
  ordered := List.pairwise_append.2 ⟨here.ordered, there.ordered, fun path member next member' =>
    apart _ _ (here.sound path member) (there.sound next member')⟩
  stopped error stopped := by
    obtain ⟨broken, after⟩ := there.stopped error stopped
    refine ⟨.inr broken, fun path member => ?_⟩
    obtain member | member := List.mem_append.1 member
    · exact apart _ _ (here.sound path member) broken
    · exact after path member
  complete := by
    rintro leaf (meets | meets)
    · obtain ⟨path, member, same⟩ | ⟨error, stopped, -⟩ := here.complete leaf meets
      · exact .inl ⟨path, List.mem_append_left _ member, same⟩
      · simp [unstopped] at stopped
    · obtain ⟨path, member, same⟩ | behind := there.complete leaf meets
      · exact .inl ⟨path, List.mem_append_right _ member, same⟩
      · exact .inr behind

/-- A walk that meets one file. -/
theorem covers_file (path : Bytes) : ({ files := [path] } : Walked).Covers (· = .file path) where
  sound := by simp
  ordered := List.pairwise_singleton ..
  stopped := by simp
  complete leaf same := .inl ⟨path, List.mem_singleton_self path, same⟩

/-- A walk that is stopped at once. -/
theorem covers_broken (error : WalkError) :
    ({ stop := some error } : Walked).Covers (· = .broken error) where
  sound := by simp
  ordered := .nil
  stopped := by simp
  complete leaf same := .inr ⟨error, rfl, .inl same⟩

/-- A walk covers whatever is the same as what it covers. -/
theorem Covers.of_iff {walked : Walked} {met met' : Leaf → Prop} (covers : walked.Covers met)
    (same : ∀ leaf, met' leaf ↔ met leaf) : walked.Covers met' := by
  rwa [funext fun leaf => propext (same leaf)]

end Walked

/-- A walk through names lists what there is to meet at them and below. -/
theorem walkNames_covers {tree : FileTree} (formed : tree.WellFormed) (visit : Visit)
    (above : List Visit) (names : List Name)
    (sorted : names.Pairwise fun left right => Bytes.before left right = true) :
    (tree.walkNames visit above names).Covers fun leaf =>
      ∃ name ∈ names, tree.Meets visit above name leaf := by
  fun_induction walkNames tree visit above names with
  | case1 => exact Walked.covers_nothing (by simp)
  | case2 visit above name rest found ih =>
    have nowhere (leaf : Leaf) : ¬ tree.Meets visit above name leaf := by
      simp [meets_iff, Shows, found]
    refine (ih sorted.of_cons).of_iff fun leaf => ?_
    simp [nowhere]
  | case3 visit above name rest path found ih =>
    have here : ({ files := [path] } : Walked).Covers (tree.Meets visit above name) :=
      (Walked.covers_file path).of_iff fun leaf => by simp [meets_iff, Shows, found, path]
    have both := here.append (ih sorted.of_cons) rfl fun _ _ => Meets.precedes formed sorted
    exact both.of_iff fun leaf => List.exists_mem_cons_iff ..
  | case4 visit above name rest error found =>
    have here : ({ stop := some error } : Walked).Covers (tree.Meets visit above name) :=
      (Walked.covers_broken error).of_iff fun leaf => by simp [meets_iff, Shows, found]
    have all := here.stops rfl fun _ _ => Meets.precedes formed sorted
    exact all.of_iff fun leaf => List.exists_mem_cons_iff ..
  | case5 visit above name rest path place found inner stop ih =>
    have here : inner.Covers (tree.Meets visit above name) :=
      (ih (formed.sorted_namesIn place)).of_iff fun leaf => meets_iff_of_directory found
    have all := here.stops stop fun _ _ => Meets.precedes formed sorted
    exact all.of_iff fun leaf => List.exists_mem_cons_iff ..
  | case6 visit above name rest path place found inner unstopped ihInner ih =>
    have here : inner.Covers (tree.Meets visit above name) :=
      (ihInner (formed.sorted_namesIn place)).of_iff fun leaf => meets_iff_of_directory found
    have both := here.append (ih sorted.of_cons) (by simpa using unstopped) fun _ _ =>
      Meets.precedes formed sorted
    exact both.of_iff fun leaf => List.exists_mem_cons_iff ..

/-- What is met from a path on has the names of the path at the front. -/
theorem Finds.names {tree : FileTree} (formed : tree.WellFormed) {root : Bytes} {leaf : Leaf}
    (finds : tree.Finds root leaf) :
    ∃ way, Path.names leaf.path = Path.names root ++ way := by
  unfold Finds at finds
  split at finds
  · subst finds
    exact ⟨[], (List.append_nil _).symm⟩
  · subst finds
    exact ⟨[], (List.append_nil _).symm⟩
  · obtain ⟨name, meets⟩ := finds
    obtain ⟨way, split⟩ := meets.names formed
    exact ⟨name :: way, split⟩
  · exact finds.elim

/-- A walk from a path lists what there is to meet from it on. -/
theorem walk_covers {tree : FileTree} (formed : tree.WellFormed) (root : Bytes) :
    (tree.walk root).Covers (tree.Finds root) := by
  unfold walk
  split
  · rename_i error resolved
    exact (Walked.covers_broken _).of_iff fun leaf => by rw [Finds, resolved]
  · rename_i resolved
    exact (Walked.covers_file root).of_iff fun leaf => by rw [Finds, resolved]
  · rename_i place resolved
    have covers := walkNames_covers formed ⟨root, place⟩ [] (tree.namesIn place)
      (formed.sorted_namesIn place)
    exact covers.of_iff fun leaf => by
      rw [Finds, resolved]
      exact exists_mem_namesIn.symm
  · rename_i resolved
    exact Walked.covers_nothing fun leaf finds => by rwa [Finds, resolved] at finds

end FileTree
end TunnelBench
