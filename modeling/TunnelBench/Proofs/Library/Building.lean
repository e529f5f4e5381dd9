import Mathlib.Data.List.Permutation
import TunnelBench.Proofs.FileTree.Contents
import TunnelBench.Proofs.Library.Gathering

/-!
# What libraries hold

A library is built exactly when its root is there and all that there is to meet from the
root on are files that can be read. Then it holds these files and nothing else. Otherwise
the build fails with the first thing that is wrong, in the order of the walk.
-/
namespace TunnelBench

namespace FileTree.Leaf

/-- A file whose path leads to a content. -/
def IsReadable (tree : FileTree) (leaf : Leaf) : Prop :=
  ∃ path content, leaf = .file path ∧ tree.HasContent path content

/-- What goes wrong at something that is met. -/
inductive Fails (tree : FileTree) : Leaf → Failure → Prop
  | file {path : Bytes} {error : IoError} (without : tree.HasNone path error) :
      Fails tree (.file path) (.file path error)
  | broken (error : WalkError) : Fails tree (.broken error) (.walk error)

/-- Nothing goes wrong at a file that can be read. -/
theorem IsReadable.not_fails {tree : FileTree} {leaf : Leaf} {failure : Failure}
    (readable : leaf.IsReadable tree) : ¬ leaf.Fails tree failure := by
  obtain ⟨path, content, rfl, has⟩ := readable
  rintro (without | _)
  have both := (read_eq_ok.2 has).symm.trans (read_eq_error.2 without)
  contradiction

end FileTree.Leaf

namespace Library

/-- A path that can be made a library: it has an absolute form, which is there, and only files that
can be read are met from there on. -/
structure Sound (tree : FileTree) (argument root : Bytes) : Prop where
  rooted : rootOf tree argument = .ok root
  present : tree.IsThere root
  readable : ∀ leaf, tree.Finds root leaf → leaf.IsReadable tree

/-- A library that holds the files below a root. -/
structure Holds (tree : FileTree) (root : Bytes) (library : Library) : Prop where
  root_eq : library.root = root
  /-- The keys are those of the files that are met. -/
  paths : ∀ key, key ∈ library.paths ↔
    ∃ path, tree.Finds root (.file path) ∧ keyOf (baseOf root) path = .ok key
  /-- The key of a file is written with its names from the last name of the root on. -/
  spelled : ∀ path, tree.Finds root (.file path) →
    ∃ way, Path.names path = (Path.names root).dropLast ++ way ∧
      keyOf (baseOf root) path =
        .ok (String.join (way.map fun name => "/" ++ Utf8.decodeLossy name))
  /-- A key has the response of the last file that it stands for. -/
  responses : ∀ path key, tree.Finds root (.file path) → keyOf (baseOf root) path = .ok key →
    (∀ later, tree.Finds root (.file later) → keyOf (baseOf root) later = .ok key →
      ¬ Path.Precedes path later) →
    ∃ content, tree.HasContent path content ∧
      library.get? key = some (fileBytes path content) ∧
      Response.afterHead? (fileBytes path content) = some content

/-- The first thing that is wrong when a path is made a library. -/
inductive FailsFirst (tree : FileTree) (argument : Bytes) : Failure → Prop
  /-- The path has no absolute form. -/
  | unrooted (empty : argument = []) : FailsFirst tree argument (.directory argument .emptyPath)
  /-- The root is not there. -/
  | missing {root : Bytes} {error : IoError} (rooted : rootOf tree argument = .ok root)
      (missing : tree.IsMissing root error) : FailsFirst tree argument (.directory root error)
  /-- Something is wrong at what is met, and at nothing that is met earlier. -/
  | met {root : Bytes} {leaf : FileTree.Leaf} {failure : Failure}
      (rooted : rootOf tree argument = .ok root) (present : tree.IsThere root)
      (finds : tree.Finds root leaf) (fails : leaf.Fails tree failure)
      (first : ∀ other failure', tree.Finds root other → other.Fails tree failure' →
        other = leaf ∨ Path.Precedes leaf.path other.path) :
      FailsFirst tree argument failure

section

variable {tree : FileTree} {root : Bytes} {library : Library}

/-- A walk that came to its end lists all that there is to meet. -/
theorem mem_files_of_ended (covers : (tree.walk root).Covers (tree.Finds root))
    (ended : (tree.walk root).stop = none) {leaf : FileTree.Leaf} (finds : tree.Finds root leaf) :
    ∃ path ∈ (tree.walk root).files, leaf = .file path := by
  obtain listed | ⟨error, stopped, -⟩ := covers.complete leaf finds
  · exact listed
  · rw [ended] at stopped
    cases stopped

/-- A walk that came to its end lists exactly the files that there are to meet. -/
theorem mem_files_iff (formed : tree.WellFormed) (ended : (tree.walk root).stop = none)
    (path : Bytes) : path ∈ (tree.walk root).files ↔ tree.Finds root (.file path) := by
  have covers := FileTree.walk_covers formed root
  constructor
  · exact covers.sound path
  · intro finds
    obtain ⟨_, listed, ⟨⟩⟩ := mem_files_of_ended covers ended finds
    exact listed

/-- A path can be made a library where the walk comes to its end and all listed files can be
read. -/
theorem sound_of_walk (formed : tree.WellFormed) {argument : Bytes}
    (rooted : rootOf tree argument = .ok root) (present : tree.IsThere root)
    (ended : (tree.walk root).stop = none)
    (readable : ∀ path ∈ (tree.walk root).files, ∃ content, tree.read path = .ok content) :
    Sound tree argument root where
  rooted := rooted
  present := present
  readable leaf finds := by
    obtain ⟨path, listed, same⟩ := mem_files_of_ended (FileTree.walk_covers formed root) ended finds
    obtain ⟨content, read⟩ := readable path listed
    exact ⟨path, content, same, FileTree.read_eq_ok.1 read⟩

/-- In files that are in order, no file of a key comes after the one that is found from the
back. -/
theorem exists_last {files : List Bytes} (ordered : files.Pairwise Path.Precedes)
    {base path : Bytes} {key : String} (member : path ∈ files) (found : keyOf base path = .ok key) :
    ∃ last, files.reverse.find? (hasKey base key) = some last ∧ last ∈ files ∧
      keyOf base last = .ok key ∧ (last = path ∨ Path.Precedes path last) := by
  have some_ : (files.reverse.find? (hasKey base key)).isSome = true :=
    List.find?_isSome.2 ⟨path, List.mem_reverse.2 member, hasKey_iff.2 found⟩
  obtain ⟨last, picked⟩ := Option.isSome_iff_exists.1 some_
  obtain ⟨has, front, back, split, others⟩ := List.find?_eq_some_iff_append.1 picked
  refine ⟨last, picked, List.mem_reverse.1 (List.mem_of_find?_eq_some picked),
    hasKey_iff.1 has, ?_⟩
  have present : path ∈ front ++ last :: back := split ▸ List.mem_reverse.2 member
  obtain inFront | inBack := List.mem_append.1 present
  · have without := others path inFront
    simp [hasKey_iff.2 found] at without
  · obtain same | inBack := List.mem_cons.1 inBack
    · exact .inl same.symm
    · have backwards : (front ++ last :: back).Pairwise fun first second =>
          Path.Precedes second first := split ▸ List.pairwise_reverse.2 ordered
      have tail := (List.pairwise_append.1 backwards).2.1
      exact .inr (List.rel_of_pairwise_cons tail inBack)

/-- What was gathered on a walk that came to its end is what there is to meet. -/
theorem Gathers.holds (formed : tree.WellFormed)
    (covers : (tree.walk root).Covers (tree.Finds root))
    (ended : (tree.walk root).stop = none)
    (gathers : Gathers tree { root } (tree.walk root).files library) : Holds tree root library where
  root_eq := gathers.root_eq
  paths key := by
    rw [mem_paths, gathers.get?_eq]
    constructor
    · intro stored
      cases picked : (tree.walk root).files.reverse.find? (hasKey (baseOf root) key) with
      | none => simp [picked, get?] at stored
      | some path =>
        have member : path ∈ (tree.walk root).files :=
          List.mem_reverse.1 (List.mem_of_find?_eq_some picked)
        exact ⟨path, covers.sound path member, hasKey_iff.1 (List.find?_some picked)⟩
    · rintro ⟨path, finds, found⟩
      obtain ⟨_, member, ⟨⟩⟩ := mem_files_of_ended covers ended finds
      obtain ⟨last, picked, listed, -⟩ := exists_last covers.ordered member found
      obtain ⟨content, read⟩ := gathers.readable last listed
      simp [picked, read, Except.toOption]
  spelled path finds := exists_keyOf formed finds
  responses path key finds found latest := by
    obtain ⟨_, member, ⟨⟩⟩ := mem_files_of_ended covers ended finds
    obtain ⟨last, picked, listed, has, rfl | later⟩ := exists_last covers.ordered member found
    · obtain ⟨content, read⟩ := gathers.readable last listed
      refine ⟨content, FileTree.read_eq_ok.1 read, ?_, afterHead?_fileBytes last content⟩
      simp [gathers.get?_eq, picked, read, Except.toOption]
    · exact absurd later (latest last (covers.sound last listed) has)

/-- A key that only one file has is the key of that file's response. -/
theorem Holds.get?_of_alone (holds : Holds tree root library) {path : Bytes} {key : String}
    (finds : tree.Finds root (.file path)) (found : keyOf (baseOf root) path = .ok key)
    (alone : ∀ other, tree.Finds root (.file other) → keyOf (baseOf root) other = .ok key →
      other = path) :
    ∃ content, tree.HasContent path content ∧ library.get? key = some (fileBytes path content) ∧
      Response.afterHead? (fileBytes path content) = some content := by
  apply holds.responses path key finds found
  intro later findsLater same
  rw [alone later findsLater same]
  exact Path.not_precedes_of_names_eq rfl

/-- The keys of a library are those of the files that a walk to its end lists. -/
theorem Holds.mem_paths_iff (formed : tree.WellFormed) (ended : (tree.walk root).stop = none)
    (holds : Holds tree root library) {keys : List String}
    (keyed : (tree.walk root).files.map (keyOf (baseOf root)) = keys.map .ok) (key : String) :
    key ∈ library.paths ↔ key ∈ keys := by
  have injective : Function.Injective (Except.ok (ε := Failure) (α := String)) :=
    fun _ _ => Except.ok.inj
  rw [holds.paths, ← List.mem_map_of_injective injective, ← keyed, List.mem_map]
  exact exists_congr fun path => and_congr_left' (mem_files_iff formed ended path).symm

/-- Where all listed files can be read, what stopped the walk is the first thing that is wrong. -/
theorem first_of_stopped (covers : (tree.walk root).Covers (tree.Finds root)) {error : WalkError}
    (ended : (tree.walk root).stop = some error)
    (readable : ∀ path ∈ (tree.walk root).files, ∃ content, tree.read path = .ok content)
    {other : FileTree.Leaf} {failure : Failure} (finds : tree.Finds root other)
    (fails : other.Fails tree failure) :
    other = .broken error ∨ Path.Precedes error.path other.path := by
  obtain ⟨path, member, rfl⟩ | ⟨_, stopped, behind⟩ := covers.complete other finds
  · obtain ⟨content, read⟩ := readable path member
    have sound : (FileTree.Leaf.file path).IsReadable tree :=
      ⟨path, content, rfl, FileTree.read_eq_ok.1 read⟩
    exact absurd fails sound.not_fails
  · cases ended.symm.trans stopped
    exact behind

/-- The first listed file that cannot be read is the first thing that is wrong. -/
theorem first_of_unreadable (covers : (tree.walk root).Covers (tree.Finds root)) {path : Bytes}
    {front back : List Bytes} (split : (tree.walk root).files = front ++ path :: back)
    (readable : ∀ earlier ∈ front, ∃ content, tree.read earlier = .ok content)
    {other : FileTree.Leaf} {failure : Failure} (finds : tree.Finds root other)
    (fails : other.Fails tree failure) :
    other = .file path ∨ Path.Precedes path other.path := by
  have member : path ∈ (tree.walk root).files := by simp [split]
  obtain ⟨next, listed, rfl⟩ | ⟨error, stopped, rfl | behind⟩ := covers.complete other finds
  · have ordered := covers.ordered
    rw [split] at listed ordered
    obtain inFront | inBack := List.mem_append.1 listed
    · obtain ⟨content, read⟩ := readable next inFront
      have sound : (FileTree.Leaf.file next).IsReadable tree :=
        ⟨next, content, rfl, FileTree.read_eq_ok.1 read⟩
      exact absurd fails sound.not_fails
    · obtain rfl | inBack := List.mem_cons.1 inBack
      · exact .inl rfl
      · exact .inr (List.rel_of_pairwise_cons (List.pairwise_append.1 ordered).2.1 inBack)
  · exact .inr ((covers.stopped error stopped).2 path member)
  · exact .inr (((covers.stopped error stopped).2 path member).trans behind)

/-- A build whose root is there gives a library with what there is to meet, or fails with the first
thing that is wrong. -/
theorem build_of_present (formed : tree.WellFormed) {argument : Bytes}
    (rooted : rootOf tree argument = .ok root) (present : tree.IsThere root) :
    (∃ library, build tree argument = .ok library ∧ Sound tree argument root ∧
      Holds tree root library) ∨
    ∃ failure, build tree argument = .error failure ∧ FailsFirst tree argument failure := by
  obtain ⟨found, located⟩ := FileTree.isThere_iff.1 present
  have covers := FileTree.walk_covers formed root
  have keyed : ∀ path ∈ (tree.walk root).files, ∃ key, keyOf (baseOf root) path = .ok key :=
    fun path member => (exists_keyOf formed (covers.sound path member)).imp' _ fun _ key => key.2
  obtain ⟨library, folded, gathers⟩ | ⟨front, path, back, error, split, readable, fails, folded⟩ :=
    gathers_or_fails tree { root } keyed
  · cases ended : (tree.walk root).stop with
    | none =>
      have built : build tree argument = .ok library := by
        simp [build, rooted, located, folded, ended, bind, Except.bind]
      exact .inl ⟨library, built, sound_of_walk formed rooted present ended gathers.readable,
        gathers.holds formed covers ended⟩
    | some error =>
      have built : build tree argument = .error (.walk error) := by
        simp [build, rooted, located, folded, ended, bind, Except.bind]
      obtain ⟨finds, -⟩ := covers.stopped error ended
      exact .inr ⟨.walk error, built, .met rooted present finds (.broken error)
        fun _ _ => first_of_stopped covers ended gathers.readable⟩
  · have built : build tree argument = .error (.file path error) := by
      simp [build, rooted, located, folded, bind, Except.bind]
    have finds : tree.Finds root (.file path) := covers.sound path (by simp [split])
    exact .inr ⟨.file path error, built, .met rooted present finds
      (.file (FileTree.read_eq_error.1 fails))
      fun _ _ => first_of_unreadable covers split readable⟩

/-- A build whose path has no absolute form fails. -/
theorem build_of_unrooted {argument : Bytes} {failure : Failure}
    (rooted : rootOf tree argument = .error failure) :
    build tree argument = .error failure ∧ FailsFirst tree argument failure := by
  refine ⟨by simp only [build, rooted, bind, Except.bind], ?_⟩
  unfold rootOf Path.absolute at rooted
  by_cases empty : argument = []
  · subst empty
    cases rooted
    exact .unrooted rfl
  · simp [empty] at rooted

/-- A build whose root is not there fails. -/
theorem build_of_missing {argument : Bytes} {error : IoError}
    (rooted : rootOf tree argument = .ok root) (missing : tree.IsMissing root error) :
    build tree argument = .error (.directory root error) := by
  simp only [build, rooted, FileTree.isMissing_iff.1 missing, bind, Except.bind]

/-- A build gives a library with what there is to meet, or fails with the first thing that is
wrong. -/
theorem build_outcome (formed : tree.WellFormed) (argument : Bytes) :
    (∃ root library, build tree argument = .ok library ∧ Sound tree argument root ∧
      Holds tree root library) ∨
    ∃ failure, build tree argument = .error failure ∧ FailsFirst tree argument failure := by
  cases rooted : rootOf tree argument with
  | error failure => exact .inr ⟨failure, build_of_unrooted rooted⟩
  | ok root =>
    cases located : tree.locate root with
    | error error =>
      have missing := FileTree.isMissing_iff.2 located
      exact .inr ⟨_, build_of_missing rooted missing, .missing rooted missing⟩
    | ok found =>
      have present := FileTree.isThere_iff.2 ⟨found, located⟩
      exact (build_of_present formed rooted present).imp_left fun outcome => ⟨root, outcome⟩

/-- Where something is wrong, a path cannot be made a library. -/
theorem FailsFirst.not_sound {argument : Bytes} {failure : Failure}
    (fails : FailsFirst tree argument failure) (root : Bytes) : ¬ Sound tree argument root := by
  intro sound
  obtain ⟨found, located⟩ := FileTree.isThere_iff.1 sound.present
  have rooted := sound.rooted
  cases fails with
  | unrooted empty => simp [rootOf, Path.absolute, empty] at rooted
  | missing rooted' missing =>
    cases rooted.symm.trans rooted'
    cases located.symm.trans (FileTree.isMissing_iff.1 missing)
  | met rooted' _ finds wrong =>
    cases rooted.symm.trans rooted'
    exact (sound.readable _ finds).not_fails wrong

end

end Library
end TunnelBench
