import TunnelBench.Proofs.Library.Keys

/-!
# Which files a library keeps

A library has one response for each key, so it has as many responses as its files have keys.
It keeps all files exactly if no two of them have the same decoded names, and then each file
is the body of the response under its own key. Names that are text never stand in the way;
files whose names differ only in bytes that are no text do, and all but the last of them are
lost.
-/
namespace TunnelBench.Library

/-- The paths after a response was stored. -/
theorem map_fst_store (path : String) (response : Bytes) (entries : List (String × Bytes)) :
    (store path response entries).map (·.1) =
      if path ∈ entries.map (·.1) then entries.map (·.1) else entries.map (·.1) ++ [path] := by
  induction entries with
  | nil => rfl
  | cons entry entries ih =>
    obtain ⟨present, old⟩ := entry
    by_cases same : present = path
    · rw [store, if_pos same, List.map_cons, List.map_cons, same,
        if_pos List.mem_cons_self]
    · have other : path ≠ present := fun same' => same same'.symm
      rw [store, if_neg same, List.map_cons, List.map_cons, ih]
      by_cases member : path ∈ entries.map (·.1)
      · rw [if_pos member, if_pos (List.mem_cons_of_mem _ member)]
      · rw [if_neg member, if_neg (by simp only [List.mem_cons, other, member, or_self,
          not_false_eq_true]), List.cons_append]

/-- Storing never gives a path a second response. -/
theorem nodup_paths_insert {library : Library} (single : library.paths.Nodup) (path : String)
    (response : Bytes) : (library.insert path response).paths.Nodup := by
  have stored : (library.insert path response).paths =
      if path ∈ library.paths then library.paths else library.paths ++ [path] :=
    map_fst_store path response library.entries
  rw [stored]
  by_cases member : path ∈ library.paths
  · rw [if_pos member]
    exact single
  · rw [if_neg member, List.nodup_append]
    refine ⟨single, List.nodup_singleton path, ?_⟩
    intro present listed last added same
    rw [List.mem_singleton.1 added] at same
    rw [same] at listed
    exact member listed

/-- A library that is filled file by file has one response for each path. -/
theorem nodup_paths_of_foldlM {tree : FileTree} {files : List Bytes} {start library : Library}
    (single : start.paths.Nodup) (filled : files.foldlM (addFile tree) start = .ok library) :
    library.paths.Nodup := by
  induction files generalizing start with
  | nil =>
    rw [List.foldlM_nil] at filled
    rw [← Except.ok.inj filled]
    exact single
  | cons path files ih =>
    rw [List.foldlM_cons] at filled
    cases added : addFile tree start path with
    | error failure =>
      rw [added] at filled
      contradiction
    | ok next =>
      rw [added] at filled
      refine ih ?_ filled
      unfold addFile at added
      cases found : keyOf (baseOf start.root) path with
      | error failure =>
        rw [found] at added
        contradiction
      | ok key =>
        cases made : fileResponse tree path with
        | error failure =>
          rw [found, made] at added
          contradiction
        | ok response =>
          rw [found, made] at added
          rw [← Except.ok.inj added]
          exact nodup_paths_insert single key response

/-- A library that was built was filled on a walk that came to its end. -/
theorem build_eq_ok {tree : FileTree} {argument : Bytes} {library : Library}
    (built : build tree argument = .ok library) :
    ∃ root, rootOf tree argument = .ok root ∧ (tree.walk root).stop = none ∧
      (tree.walk root).files.foldlM (addFile tree) { root } = .ok library := by
  unfold build at built
  cases rooted : rootOf tree argument with
  | error failure =>
    rw [rooted] at built
    contradiction
  | ok root =>
    cases present : tree.locate root with
    | error error =>
      simp only [rooted, present, bind, Except.bind] at built
      contradiction
    | ok found =>
      simp only [rooted, present, bind, Except.bind] at built
      cases filled : (tree.walk root).files.foldlM (addFile tree) { root } with
      | error failure =>
        rw [filled] at built
        contradiction
      | ok other =>
        rw [filled] at built
        cases ended : (tree.walk root).stop with
        | some error =>
          simp only [ended] at built
          contradiction
        | none =>
          simp only [ended, Except.ok.injEq] at built
          rw [built] at filled
          exact ⟨root, rfl, ended, filled⟩

section

variable {tree : FileTree} {root : Bytes}

/-- The files that a walk lists have different names. -/
theorem nodup_names_walk (formed : tree.WellFormed) (root : Bytes) :
    ((tree.walk root).files.map Path.names).Nodup :=
  List.pairwise_map.2 ((FileTree.walk_covers formed root).ordered.imp
    fun precedes alike => Path.not_precedes_of_names_eq alike precedes)

/-- No two files that are met from a root on have the same decoded names. -/
def Distinguishes (tree : FileTree) (root : Bytes) : Prop :=
  ∀ first second, tree.Finds root (.file first) → tree.Finds root (.file second) →
    SameTexts first second → first = second

/-- All files that are met from a root on, each once. -/
structure Lists (tree : FileTree) (root : Bytes) (files : List Bytes) : Prop where
  once : files.Nodup
  complete : ∀ path, path ∈ files ↔ tree.Finds root (.file path)

/-- A library that loses no file. -/
structure KeepsAll (tree : FileTree) (root : Bytes) (library : Library) : Prop where
  distinct : ∀ first second, tree.Finds root (.file first) → tree.Finds root (.file second) →
    first ≠ second → keyOf (baseOf root) first ≠ keyOf (baseOf root) second
  counted : ∀ files, Lists tree root files → library.size = files.length
  /-- Every file is the body of the response under its own key. -/
  stored : ∀ path, tree.Finds root (.file path) →
    ∃ key content, keyOf (baseOf root) path = .ok key ∧ tree.HasContent path content ∧
      library.get? key = some (fileBytes path content) ∧
      Response.afterHead? (fileBytes path content) = some content

/-- A walk that came to its end lists all files once. -/
theorem lists_walk (formed : tree.WellFormed) (ended : (tree.walk root).stop = none) :
    Lists tree root (tree.walk root).files :=
  ⟨List.Nodup.of_map _ (nodup_names_walk formed root), mem_files_iff formed ended⟩

/-- Names that are text are told apart. -/
theorem distinguishes_of_text (formed : tree.WellFormed) (ended : (tree.walk root).stop = none)
    (plain : ∀ path, tree.Finds root (.file path) → ∀ name ∈ Path.names path,
      ∃ text, Utf8.decode? name = some text) : Distinguishes tree root := by
  intro first second finds findsToo same
  have exact : ∀ path, tree.Finds root (.file path) →
      ((Path.names path).map Utf8.decodeLossy).map Bytes.ofString = Path.names path := by
    intro path found
    have kept : ∀ name ∈ Path.names path,
        (Bytes.ofString ∘ Utf8.decodeLossy) name = id name := by
      intro name member
      obtain ⟨text, decoded⟩ := plain path found name member
      rw [Utf8.decode?_eq_some.1 decoded, Function.comp_apply, Utf8.decodeLossy_ofString, id]
    rw [List.map_map, List.map_congr_left kept, List.map_id]
  have names : Path.names first = Path.names second := by
    rw [← exact first finds, ← exact second findsToo, same]
  rw [← mem_files_iff formed ended] at finds findsToo
  exact List.inj_on_of_nodup_map (nodup_names_walk formed root) finds findsToo names

/-- The size of a library is the number of keys that its files have. -/
theorem size_eq_card {library : Library} (single : library.paths.Nodup)
    (holds : Holds tree root library) {files : List Bytes} (lists : Lists tree root files) :
    library.size =
      (files.toFinset.image fun path => (keyOf (baseOf root) path).toOption).card := by
  have keys : files.toFinset.image (fun path => (keyOf (baseOf root) path).toOption) =
      library.paths.toFinset.image some := by
    ext key
    simp only [Finset.mem_image, List.mem_toFinset, lists.complete, holds.paths]
    constructor
    · rintro ⟨path, finds, rfl⟩
      obtain ⟨way, -, found⟩ := holds.spelled path finds
      rw [found]
      exact ⟨_, ⟨path, finds, found⟩, rfl⟩
    · rintro ⟨text, ⟨path, finds, found⟩, rfl⟩
      refine ⟨path, finds, ?_⟩
      rw [found]
      rfl
  rw [keys, Finset.card_image_of_injective _ (Option.some_injective String),
    List.toFinset_card_of_nodup single, paths, List.length_map]
  rfl

/-- A library has at most as many responses as there are files, and as many exactly if its files
are told apart. -/
theorem size_le_and_eq_iff (formed : tree.WellFormed) {library : Library}
    (single : library.paths.Nodup) (holds : Holds tree root library) {files : List Bytes}
    (lists : Lists tree root files) :
    library.size ≤ files.length ∧ (library.size = files.length ↔ Distinguishes tree root) := by
  have number := List.toFinset_card_of_nodup lists.once
  rw [size_eq_card single holds lists, ← number]
  refine ⟨Finset.card_image_le, Finset.card_image_iff.trans ?_⟩
  have sameKey : ∀ first second, tree.Finds root (.file first) → tree.Finds root (.file second) →
      ((keyOf (baseOf root) first).toOption = (keyOf (baseOf root) second).toOption ↔
        SameTexts first second) := by
    intro first second finds findsToo
    rw [← keyOf_eq_iff formed finds findsToo]
    obtain ⟨way, -, found⟩ := holds.spelled first finds
    obtain ⟨other, -, foundToo⟩ := holds.spelled second findsToo
    rw [found, foundToo]
    simp only [Except.toOption, Option.some.injEq, Except.ok.injEq]
  constructor
  · intro injective first second finds findsToo same
    refine injective ?_ ?_ ((sameKey first second finds findsToo).2 same)
    · exact List.mem_toFinset.2 ((lists.complete first).2 finds)
    · exact List.mem_toFinset.2 ((lists.complete second).2 findsToo)
  · intro distinguishes first listed second listedToo same
    have finds := (lists.complete first).1 (List.mem_toFinset.1 listed)
    have findsToo := (lists.complete second).1 (List.mem_toFinset.1 listedToo)
    exact distinguishes first second finds findsToo ((sameKey first second finds findsToo).1 same)

/-- A library keeps all files exactly if they are told apart. -/
theorem Holds.keepsAll_iff (formed : tree.WellFormed) {library : Library}
    (single : library.paths.Nodup) (holds : Holds tree root library) :
    KeepsAll tree root library ↔ Distinguishes tree root := by
  constructor
  · intro keeps first second finds findsToo same
    by_cases differ : first = second
    · exact differ
    · have shared := (keyOf_eq_iff formed finds findsToo).2 same
      exact absurd shared (keeps.distinct first second finds findsToo differ)
  · intro distinguishes
    refine ⟨?_, ?_, ?_⟩
    · intro first second finds findsToo differ shared
      exact differ (distinguishes first second finds findsToo
        ((keyOf_eq_iff formed finds findsToo).1 shared))
    · intro files lists
      exact (size_le_and_eq_iff formed single holds lists).2.2 distinguishes
    · intro path finds
      obtain ⟨way, -, found⟩ := holds.spelled path finds
      have alone : ∀ other, tree.Finds root (.file other) →
          keyOf (baseOf root) other = keyOf (baseOf root) path → other = path := by
        intro other findsOther shared
        have same := (keyOf_eq_iff formed findsOther finds).1 shared
        exact distinguishes other path findsOther finds same
      rw [found] at alone
      obtain ⟨content, has, kept, body⟩ := holds.get?_of_alone finds found alone
      exact ⟨_, content, found, has, kept, body⟩

end

/-- A library that was built has one response for each path. -/
theorem nodup_paths_of_build {tree : FileTree} {argument : Bytes} {library : Library}
    (built : build tree argument = .ok library) : library.paths.Nodup := by
  obtain ⟨root, -, -, filled⟩ := build_eq_ok built
  have unfilled : (paths { root }).Nodup := List.nodup_nil
  exact nodup_paths_of_foldlM unfilled filled

/-- A library that was built holds what there is to meet from its root on. -/
theorem holds_of_build {tree : FileTree} (formed : tree.WellFormed) {argument root : Bytes}
    {library : Library} (built : build tree argument = .ok library)
    (rooted : rootOf tree argument = .ok root) : Holds tree root library := by
  obtain ⟨other, found, builtToo, sound, holds⟩ | ⟨failure, failed, -⟩ :=
    build_outcome formed argument
  · have sameRoot := Except.ok.inj (sound.rooted.symm.trans rooted)
    have sameLibrary := Except.ok.inj (builtToo.symm.trans built)
    rw [← sameRoot, ← sameLibrary]
    exact holds
  · have both := built.symm.trans failed
    contradiction

/-- A build succeeds where the walk comes to its end and all listed files can be read. -/
theorem build_of_readable {tree : FileTree} (formed : tree.WellFormed) {argument root : Bytes}
    {found : Place × Node} (rooted : rootOf tree argument = .ok root)
    (present : tree.locate root = .ok found) (ended : (tree.walk root).stop = none)
    (readable : ∀ path ∈ (tree.walk root).files, ∃ content, tree.read path = .ok content) :
    ∃ library, build tree argument = .ok library := by
  have sound := sound_of_walk formed rooted (FileTree.isThere_iff.2 ⟨found, present⟩) ended readable
  obtain ⟨root, library, built, -⟩ | ⟨failure, -, first⟩ := build_outcome formed argument
  · exact ⟨library, built⟩
  · exact absurd sound (first.not_sound root)

/-- A library that was built keeps all files exactly if no two of them have the same decoded names,
as is the case where all names are text. It never has more responses than there are files, and it
has as many only if it keeps all of them. -/
theorem keepsAll_iff_of_build {tree : FileTree} (formed : tree.WellFormed) {argument : Bytes}
    {library : Library} (built : build tree argument = .ok library) :
    ∃ root, rootOf tree argument = .ok root ∧
      (KeepsAll tree root library ↔ Distinguishes tree root) ∧
      (∃ files, Lists tree root files) ∧
      (∀ files, Lists tree root files → library.size ≤ files.length ∧
        (library.size = files.length ↔ KeepsAll tree root library)) ∧
      ((∀ path, tree.Finds root (.file path) → ∀ name ∈ Path.names path,
        ∃ text, Utf8.decode? name = some text) → KeepsAll tree root library) := by
  obtain ⟨root, rooted, ended, -⟩ := build_eq_ok built
  have single := nodup_paths_of_build built
  have holds := holds_of_build formed built rooted
  have keeps := holds.keepsAll_iff formed single
  refine ⟨root, rooted, keeps, ⟨_, lists_walk formed ended⟩, ?_, ?_⟩
  · intro files lists
    rw [keeps]
    exact size_le_and_eq_iff formed single holds lists
  · intro plain
    exact keeps.2 (distinguishes_of_text formed ended plain)

/-- A directory with two files whose names have one byte. -/
def pairTree (first second : UInt8) : FileTree where
  nodes :=
    [([.ofString "d"], .directory),
      ([.ofString "d", [first]], .file (.ofString "one")),
      ([.ofString "d", [second]], .file (.ofString "two"))]

/-- The path of a file in the directory. -/
def pairPath (name : UInt8) : Bytes := Bytes.ofString "/d/" ++ [name]

/-- A pair of files that a build reads: the walk lists both of them. -/
structure Pairs (first second : UInt8) : Prop where
  formed : (pairTree first second).WellFormed
  present : (pairTree first second).locate (.ofString "/d") = .ok ([.ofString "d"], .directory)
  walked : (pairTree first second).walk (.ofString "/d") = ⟨[pairPath first, pairPath second], none⟩
  readFirst : (pairTree first second).read (pairPath first) = .ok (.ofString "one")
  readSecond : (pairTree first second).read (pairPath second) = .ok (.ofString "two")

/-- The directory of a pair can be made a library, whichever way its path is written. -/
theorem Pairs.build_of_rootOf {first second : UInt8} (pair : Pairs first second) {argument : Bytes}
    (rooted : rootOf (pairTree first second) argument = .ok (.ofString "/d")) :
    ∃ library, build (pairTree first second) argument = .ok library := by
  refine build_of_readable pair.formed rooted pair.present (by rw [pair.walked]) ?_
  intro path listed
  rw [pair.walked] at listed
  obtain rfl | last := List.mem_cons.1 listed
  · exact ⟨_, pair.readFirst⟩
  · rw [List.mem_singleton.1 last]
    exact ⟨_, pair.readSecond⟩

/-- The directory of a pair can be made a library. -/
theorem Pairs.build_eq_ok {first second : UInt8} (pair : Pairs first second) :
    ∃ library, build (pairTree first second) (.ofString "d") = .ok library :=
  pair.build_of_rootOf rfl

/-- Two files with text names are a pair. -/
theorem pairs_text : Pairs 97 98 where
  formed := by decide +kernel
  present := by cbv
  walked := by cbv
  readFirst := by cbv
  readSecond := by cbv

/-- Both files with text names are kept. -/
theorem keepsAll_pair :
    ∃ library, build (pairTree 97 98) (.ofString "d") = .ok library ∧
      KeepsAll (pairTree 97 98) (.ofString "/d") library ∧ library.size = 2 := by
  obtain ⟨library, built⟩ := pairs_text.build_eq_ok
  obtain ⟨root, rooted, -, -, -, kept⟩ := keepsAll_iff_of_build pairs_text.formed built
  have same : .ofString "/d" = root := Except.ok.inj rooted
  rw [← same] at kept
  have ended : ((pairTree 97 98).walk (.ofString "/d")).stop = none := by rw [pairs_text.walked]
  have lists := lists_walk pairs_text.formed ended
  have text : ∀ path ∈ [pairPath 97, pairPath 98], ∀ name ∈ Path.names path,
      (Utf8.decode? name).isSome = true := by decide +kernel
  have plain : ∀ path, (pairTree 97 98).Finds (.ofString "/d") (.file path) →
      ∀ name ∈ Path.names path, ∃ text, Utf8.decode? name = some text := by
    intro path finds name member
    rw [← lists.complete, pairs_text.walked] at finds
    exact Option.isSome_iff_exists.1 (text path finds name member)
  have keeps := kept plain
  refine ⟨library, built, keeps, ?_⟩
  rw [keeps.counted _ lists, pairs_text.walked]
  rfl

/-- Two files with names that are no text are a pair. -/
theorem pairs_broken : Pairs 254 255 where
  formed := by decide +kernel
  present := by cbv
  walked := by cbv
  readFirst := by cbv
  readSecond := by cbv

/-- Of two files with names that are no text the first one is lost: under its own key, which is that
of the second one, the library has the second one. -/
theorem first_of_pair_lost :
    (pairTree 254 255).Finds (.ofString "/d") (.file (pairPath 254)) ∧
      (pairTree 254 255).Finds (.ofString "/d") (.file (pairPath 255)) ∧
      ∃ library key, build (pairTree 254 255) (.ofString "d") = .ok library ∧ library.size = 1 ∧
        keyOf (baseOf (.ofString "/d")) (pairPath 254) = .ok key ∧
        keyOf (baseOf (.ofString "/d")) (pairPath 255) = .ok key ∧
        library.get? key = some (fileBytes (pairPath 255) (.ofString "two")) := by
  have formed := pairs_broken.formed
  have walked := pairs_broken.walked
  have ended : ((pairTree 254 255).walk (.ofString "/d")).stop = none := by rw [walked]
  have lists := lists_walk formed ended
  have finds := (lists.complete (pairPath 254)).1 (by rw [walked]; exact List.mem_cons_self)
  have findsToo := (lists.complete (pairPath 255)).1
    (by rw [walked]; exact List.mem_cons_of_mem _ List.mem_cons_self)
  have alike : SameTexts (pairPath 254) (pairPath 255) := by
    unfold SameTexts
    decide +kernel
  have shared := (keyOf_eq_iff formed finds findsToo).2 alike
  obtain ⟨library, built⟩ := pairs_broken.build_eq_ok
  have rooted : rootOf (pairTree 254 255) (.ofString "d") = .ok (.ofString "/d") := rfl
  have holds := holds_of_build formed built rooted
  have single := nodup_paths_of_build built
  obtain ⟨way, -, found⟩ := holds.spelled _ finds
  have foundToo := shared.symm.trans found
  refine ⟨finds, findsToo, library, _, built, ?_, found, foundToo, ?_⟩
  · rw [size_eq_card single holds lists, walked]
    simp [shared]
  · have ordered := (FileTree.walk_covers formed (.ofString "/d")).ordered
    rw [walked] at ordered
    have follows := List.rel_of_pairwise_cons ordered (List.mem_singleton.2 rfl)
    have latest : ∀ later, (pairTree 254 255).Finds (.ofString "/d") (.file later) →
        ¬Path.Precedes (pairPath 255) later := by
      intro later findsLater
      rw [← lists.complete, walked] at findsLater
      obtain rfl | last := List.mem_cons.1 findsLater
      · exact fun back => Path.not_precedes_of_names_eq rfl (follows.trans back)
      · rw [List.mem_singleton.1 last]
        exact Path.not_precedes_of_names_eq rfl
    obtain ⟨content, has, kept, -⟩ := holds.responses _ _ findsToo foundToo
      fun later findsLater _ => latest later findsLater
    have read := FileTree.read_eq_ok.2 has
    rw [pairs_broken.readSecond] at read
    rw [kept, Except.ok.inj read]

end TunnelBench.Library
