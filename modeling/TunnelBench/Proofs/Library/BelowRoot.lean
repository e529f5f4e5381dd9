import TunnelBench.Proofs.FileTree.Cleaning
import TunnelBench.Proofs.Library.Keeping
import TunnelBench.Proofs.Text.Lossy

/-!
# Keys below the root

A walk goes on from its path by the names that directories list, and none of these stays or goes
up. So from a clean root all paths that it meets are clean and have the names of the root in
front, wherever links lead. The key of a file is then written with the last name of the root and
the names below it, and there is always one: a build never finds a file outside of its root.
-/
namespace TunnelBench

namespace FileTree

/-- A well-formed tree as a directory lists it: the names that stay and go up are no entries. -/
structure IsGenuine (tree : FileTree) : Prop extends tree.WellFormed where
  settled : ∀ node ∈ tree.nodes, ∀ name ∈ node.1, Path.IsSettled name

/-- Whether a tree is genuine can be checked. -/
instance (tree : FileTree) : Decidable tree.IsGenuine :=
  decidable_of_iff (tree.WellFormed ∧ ∀ node ∈ tree.nodes, ∀ name ∈ node.1, Path.IsSettled name)
    ⟨fun ⟨formed, settled⟩ => ⟨formed, settled⟩,
      fun genuine => ⟨genuine.toWellFormed, genuine.settled⟩⟩

/-- A path leads to a file. -/
def LeadsToFile (tree : FileTree) (path : Bytes) : Prop :=
  ∃ place content, tree.resolve path = .ok (place, .file content)

section Walks

variable {tree : FileTree} {root path : Bytes} {leaf : Leaf}

/-- What stands in a genuine tree behind a clean path has a clean path. -/
theorem IsGenuine.isClean_join (genuine : tree.IsGenuine) {place : Place} {name : Name}
    {node : Node} (stands : tree.node? (place ++ [name]) = some node)
    (isClean : Path.IsClean path) : Path.IsClean (Path.join path name) := by
  apply isClean.join
  · exact genuine.isProper stands
  · exact genuine.settled _ (mem_nodes_of_node? stands) name List.mem_concat_self

/-- A walk that came by a clean path meets clean paths. -/
theorem Meets.isClean (genuine : tree.IsGenuine) {visit : Visit} {above : List Visit} {name : Name}
    (meets : tree.Meets visit above name leaf) (clean : Path.IsClean visit.path) :
    Path.IsClean leaf.path := by
  induction meets with
  | file stands | linked stands | astray stands | loop stands =>
    exact genuine.isClean_join stands clean
  | deeper enters later ih =>
    obtain ⟨node, stands⟩ := (Meets.deeper enters later).stands
    exact ih (genuine.isClean_join stands clean)

/-- What is met from a clean path on has a clean path. -/
theorem Finds.isClean (genuine : tree.IsGenuine) (finds : tree.Finds root leaf)
    (clean : Path.IsClean root) : Path.IsClean leaf.path := by
  unfold Finds at finds
  split at finds
  · rw [finds]
    exact clean
  · rw [finds]
    exact clean
  · obtain ⟨name, meets⟩ := finds
    exact meets.isClean genuine clean
  · exact finds.elim

/-- A file that is met from a path on has the names of the path at the front, and no more exactly
if the path itself leads to a file. -/
theorem Finds.names_of_file (formed : tree.WellFormed) (finds : tree.Finds root (.file path)) :
    ∃ way, Path.names path = Path.names root ++ way ∧ (way = [] ↔ tree.LeadsToFile root) := by
  unfold Finds at finds
  split at finds
  · contradiction
  · rename_i place content resolved
    cases finds
    exact ⟨[], (List.append_nil _).symm, iff_of_true rfl ⟨place, content, resolved⟩⟩
  · rename_i place resolved
    obtain ⟨name, meets⟩ := finds
    obtain ⟨way, split⟩ := meets.names formed
    refine ⟨name :: way, split, iff_of_false (List.cons_ne_nil _ _) ?_⟩
    rintro ⟨other, content, leads⟩
    rw [resolved] at leads
    cases leads
  · exact finds.elim

/-- The root of all files is a directory. -/
theorem resolve_root (tree : FileTree) : tree.resolve [Path.slash] = .ok ([], .directory) := by
  have stands : tree.node? [] = some .directory := rfl
  show tree.follow linkLimit [] [Path.here] = _
  rw [follow, stands]
  show tree.follow linkLimit [] [] = _
  rw [follow, stands]

/-- The root of all files leads to no file. -/
theorem not_leadsToFile_root (tree : FileTree) : ¬tree.LeadsToFile [Path.slash] := by
  rintro ⟨place, content, leads⟩
  rw [resolve_root] at leads
  cases leads

end Walks

end FileTree

namespace Library

/-- What stands behind the slashes of a key. -/
def keyParts (key : String) : List String := (key.toList.splitOn '/').tail.map String.ofList

/-- A key that stays below a root. -/
structure StaysBelow (tree : FileTree) (root : Bytes) (key : String) : Prop where
  begins : key.toList.head? = some '/'
  /-- No part is empty, stays or goes up. -/
  parts : ∀ part ∈ keyParts key, part ≠ "" ∧ part ≠ "." ∧ part ≠ ".."
  /-- The first part is the last name of the root, if that has one. It is all of the key exactly if
  the root is a file. -/
  named : root ≠ [Path.slash] → ∃ name, (Path.names root).getLast? = some name ∧
    (keyParts key).head? = some (Utf8.decodeLossy name) ∧
    (key = "/" ++ Utf8.decodeLossy name ↔ tree.LeadsToFile root)

section Parts

variable {way : List Name}

/-- The parts of a key are the decoded names. -/
theorem keyParts_key (proper : ∀ name ∈ way, Path.IsProper name) :
    keyParts (String.join (way.map fun name => "/" ++ Utf8.decodeLossy name)) =
      way.map Utf8.decodeLossy := by
  have split := splitOn_marked
    (List.forall_mem_cons.2 ⟨List.not_mem_nil, slash_not_mem_of_mem proper⟩)
  rw [List.nil_append] at split
  rw [keyParts, toList_key, split, List.tail_cons, map_ofList_decoded]

/-- A settled name is decoded as a text that is not empty and neither stays nor goes up. -/
theorem decoded_ne {name : Name} (proper : Path.IsProper name) (settled : Path.IsSettled name) :
    Utf8.decodeLossy name ≠ "" ∧ Utf8.decodeLossy name ≠ "." ∧ Utf8.decodeLossy name ≠ ".." := by
  refine ⟨fun decoded => proper.1 ?_, fun decoded => settled.1 ?_, fun decoded => settled.2 ?_⟩
  · exact Utf8.eq_ofString_of_decodeLossy decoded (by decide)
  · exact Utf8.eq_ofString_of_decodeLossy decoded (by decide)
  · exact Utf8.eq_ofString_of_decodeLossy decoded (by decide)

/-- A key that is written with names is a slash and the first of them if there are no others. -/
theorem key_eq_singleton_iff {name : Name} (proper : ∀ other ∈ name :: way, Path.IsProper other) :
    String.join ((name :: way).map fun name => "/" ++ Utf8.decodeLossy name) =
      "/" ++ Utf8.decodeLossy name ↔ way = [] := by
  have single : String.join ([name].map fun name => "/" ++ Utf8.decodeLossy name) =
      "/" ++ Utf8.decodeLossy name := String.empty_append
  rw [← single, key_inj proper fun other member => proper other (List.mem_cons.2
    (.inl (List.mem_singleton.1 member)))]
  simp

/-- The key that is written with all names of a clean path is the path. -/
theorem key_of_isClean {path : Bytes} (clean : Path.IsClean path) (present : Path.names path ≠ []) :
    String.join ((Path.names path).map fun name => "/" ++ Utf8.decodeLossy name) =
      Utf8.decodeLossy path := by
  have written : path = [] ++ (Path.names path).flatMap (Path.slash :: ·) := by
    rw [List.nil_append, ← Path.ofNames_eq_flatMap present, clean.written]
  rw [← String.toList_inj, toList_key, List.flatMap_map]
  conv_rhs => rw [written, Utf8.decodeLossy_marked (by decide)]
  rfl

end Parts

/-- The names with which the key of a file that is met from a root on is written. -/
structure KeyNames (tree : FileTree) (root path : Bytes) (way : List Name) : Prop where
  key : keyOf (baseOf root) path =
    .ok (String.join (way.map fun name => "/" ++ Utf8.decodeLossy name))
  proper : ∀ name ∈ way, Path.IsProper name
  settled : ∀ name ∈ way, Path.IsSettled name
  present : way ≠ []
  /-- Below the root of all files these are the names of the file. -/
  whole : root = [Path.slash] → way = Path.names path
  /-- Below another root they begin with its last name. -/
  named : root ≠ [Path.slash] → ∃ last below, (Path.names root).getLast? = some last ∧
    way = last :: below ∧ (below = [] ↔ tree.LeadsToFile root)

section Keys

variable {tree : FileTree} {root path : Bytes} {way : List Name}

/-- The names of a path behind the directory of the root make its key. -/
theorem keyOf_of_behind (behind : Path.names path = (Path.names root).dropLast ++ way) :
    keyOf (baseOf root) path =
      .ok (String.join (way.map fun name => "/" ++ Utf8.decodeLossy name)) := by
  apply keyOf_of_names
  rw [names_baseOf, behind]

/-- The names of a file are those of its root and those below, and what of them is behind the
directory of the root makes the key. -/
theorem exists_keyNames (genuine : tree.IsGenuine) (clean : Path.IsClean root)
    (finds : tree.Finds root (.file path)) : ∃ way, KeyNames tree root path way := by
  obtain ⟨below, split, alone⟩ := finds.names_of_file genuine.toWellFormed
  have settled := (finds.isClean genuine clean).settled
  rcases List.eq_nil_or_concat' (Path.names root) with bare | ⟨front, last, named⟩
  · have top : root = [Path.slash] := by
      rw [← clean.written, bare]
      rfl
    have inside : ¬tree.LeadsToFile root := by
      rw [top]
      exact tree.not_leadsToFile_root
    rw [bare, List.nil_append] at split
    exact ⟨Path.names path, {
      key := keyOf_of_behind (by rw [bare]; rfl)
      proper := fun _ => Path.isProper_of_mem_names
      settled := settled
      present := by
        rw [split]
        exact fun none => inside (alone.1 none)
      whole := fun _ => rfl
      named := fun other => absurd top other }⟩
  · have behind : Path.names path = front ++ last :: below := by
      rw [split, named, List.append_assoc, List.singleton_append]
    have member : ∀ name ∈ last :: below, name ∈ Path.names path := by
      intro name present
      rw [behind]
      exact List.mem_append_right _ present
    exact ⟨last :: below, {
      key := keyOf_of_behind (by rw [behind, named, List.dropLast_concat])
      proper := fun name present => Path.isProper_of_mem_names (member name present)
      settled := fun name present => settled name (member name present)
      present := List.cons_ne_nil last below
      whole := by
        rintro rfl
        exact absurd named.symm (List.concat_ne_nil last front)
      named := fun _ => ⟨last, below, by rw [named, List.getLast?_concat], rfl, alone⟩ }⟩

/-- The key of a file that is met from a root on stays below the root. -/
theorem KeyNames.staysBelow (names : KeyNames tree root path way) :
    StaysBelow tree root (String.join (way.map fun name => "/" ++ Utf8.decodeLossy name)) where
  begins := by
    rw [toList_key]
    cases way with
    | nil => exact absurd rfl names.present
    | cons => rfl
  parts := by
    rw [keyParts_key names.proper]
    intro part member
    obtain ⟨name, present, rfl⟩ := List.mem_map.1 member
    exact decoded_ne (names.proper name present) (names.settled name present)
  named := by
    intro other
    have proper := names.proper
    obtain ⟨last, below, ends, rfl, alone⟩ := names.named other
    refine ⟨last, ends, ?_, ?_⟩
    · rw [keyParts_key proper]
      rfl
    · rw [key_eq_singleton_iff proper, alone]

/-- Below the root of all files, the key of a file is its path. -/
theorem keyOf_of_root (genuine : tree.IsGenuine) (finds : tree.Finds [Path.slash] (.file path)) :
    Path.isAbsolute path = true ∧
      keyOf (baseOf [Path.slash]) path = .ok (Utf8.decodeLossy path) := by
  have top : Path.IsClean [Path.slash] := Path.isClean_clean []
  have clean : Path.IsClean path := finds.isClean genuine top
  obtain ⟨way, names⟩ := exists_keyNames genuine top finds
  have present := names.present
  have key := names.key
  rw [names.whole rfl] at present key
  rw [key_of_isClean clean present] at key
  exact ⟨clean.isAbsolute, key⟩

/-- A build that fails does not blame the configuration. -/
theorem FailsFirst.ne_config {argument : Bytes} {failure : Failure}
    (fails : FailsFirst tree argument failure) (error : ConfigError) : failure ≠ .config error := by
  cases fails with
  | unrooted | missing => exact Failure.noConfusion
  | met _ _ _ wrong => cases wrong <;> exact Failure.noConfusion

/-- The root of a library is clean. -/
theorem isClean_of_rootOf {argument : Bytes} (rooted : rootOf tree argument = .ok root) :
    Path.IsClean root := by
  unfold rootOf at rooted
  split at rooted
  · rw [← Except.ok.inj rooted]
    exact Path.isClean_clean _
  · cases rooted

end Keys

/-- No build fails because a file is not below the root. Every key of a library that was built
begins with a slash and has no part that is empty, stays or goes up. Its first part is the name of
the root, which is all of it exactly if the root is a file; below the root of all files, the key is
the path by which the file was met. -/
theorem keys_stay_below {tree : FileTree} (genuine : tree.IsGenuine) (argument : Bytes) :
    (∀ error, build tree argument ≠ .error (.config error)) ∧
      ∀ library, build tree argument = .ok library →
        rootOf tree argument = .ok library.root ∧
          (∀ key ∈ library.paths, StaysBelow tree library.root key) ∧
          (library.root = [Path.slash] → ∀ path ∈ (tree.walk library.root).files,
            Path.isAbsolute path = true ∧
              keyOf (baseOf library.root) path = .ok (Utf8.decodeLossy path) ∧
              Utf8.decodeLossy path ∈ library.paths ∧
              ∀ text, path = .ofString text → Utf8.decodeLossy path = text) := by
  have formed := genuine.toWellFormed
  rcases build_outcome formed argument with
    ⟨root, library, built, sound, holds⟩ | ⟨failure, failed, first⟩
  · constructor
    · intro error other
      rw [built] at other
      cases other
    · intro other builtToo
      rw [built] at builtToo
      rw [← Except.ok.inj builtToo, holds.root_eq]
      have clean := isClean_of_rootOf sound.rooted
      refine ⟨sound.rooted, ?_, ?_⟩
      · intro key stored
        obtain ⟨path, finds, found⟩ := (holds.paths key).1 stored
        obtain ⟨way, names⟩ := exists_keyNames genuine clean finds
        rw [names.key] at found
        rw [← Except.ok.inj found]
        exact names.staysBelow
      · intro top path listed
        have finds := (FileTree.walk_covers formed root).sound path listed
        rw [top] at finds
        obtain ⟨absolute, found⟩ := keyOf_of_root genuine finds
        rw [← top] at found finds
        refine ⟨absolute, found, (holds.paths _).2 ⟨path, finds, found⟩, ?_⟩
        rintro text rfl
        exact Utf8.decodeLossy_ofString text
  · constructor
    · intro error other
      rw [failed] at other
      exact first.ne_config error (Except.error.inj other)
    · intro library built
      rw [failed] at built
      cases built

/-- The keys of a directory that is named by a path which goes beyond the root of all files, and
through a directory that is not there. -/
theorem keys_stay_below_pair :
    (pairTree 97 98).IsGenuine ∧
      (∀ error, build (pairTree 97 98) (.ofString "../d/./x/..") ≠ .error (.config error)) ∧
      ∃ library, build (pairTree 97 98) (.ofString "../d/./x/..") = .ok library ∧
        library.root = .ofString "/d" ∧
        (∀ key, key ∈ library.paths ↔ key ∈ ["/d/a", "/d/b"]) ∧
        ∀ key ∈ library.paths, (keyParts key).head? = some "d" ∧ key ≠ "/d" := by
  have genuine : (pairTree 97 98).IsGenuine := by decide +kernel
  have rooted : rootOf (pairTree 97 98) (.ofString "../d/./x/..") = .ok (.ofString "/d") := by
    decide +kernel
  obtain ⟨library, built⟩ := pairs_text.build_of_rootOf rooted
  obtain ⟨unblamed, kept⟩ := keys_stay_below genuine (.ofString "../d/./x/..")
  obtain ⟨rootedToo, below, -⟩ := kept library built
  have root : library.root = .ofString "/d" := Except.ok.inj (rootedToo.symm.trans rooted)
  have walked := pairs_text.walked
  have ended : ((pairTree 97 98).walk (.ofString "/d")).stop = none := by rw [walked]
  have keyed : [pairPath 97, pairPath 98].map (keyOf (baseOf (.ofString "/d"))) =
      ["/d/a", "/d/b"].map .ok := by
    decide +kernel
  have holds := holds_of_build pairs_text.formed built rooted
  have paths := holds.mem_paths_iff pairs_text.formed ended (by rw [walked]; exact keyed)
  refine ⟨genuine, unblamed, library, built, root, paths, fun key stored => ?_⟩
  have named := (below key stored).named
  rw [root] at named
  obtain ⟨name, last, first, alone⟩ := named (by decide)
  have ends : (Path.names (.ofString "/d")).getLast? = some (.ofString "d") := by decide +kernel
  rw [ends, Option.some.injEq] at last
  rw [← last, Utf8.decodeLossy_ofString] at first alone
  refine ⟨first, fun same => ?_⟩
  obtain ⟨place, content, leads⟩ := alone.1 same
  have directory : (pairTree 97 98).resolve (.ofString "/d") =
      .ok ([.ofString "d"], .directory) := by
    cbv
  rw [directory] at leads
  cases leads

end Library
end TunnelBench
