import TunnelBench.Proofs.FileTree.Names
import TunnelBench.Proofs.Text.Trimming

/-!
# Clean paths

A path can be cleaned by going through its components with a stack of names, or with a path
that grows by a name and loses its last one again. Both come to the names that cleaning keeps:
after each component the stack holds them, last name first, and the path is written with them.
So a clean path is a normal form: it is kept as it is, and a path behind another one may be
cleaned in one go or after the first one was cleaned.
-/
namespace TunnelBench.Path

/-- A component of a path. -/
inductive Component where
  /-- The root of all files. -/
  | root
  | here
  | above
  | named (name : Name)
  deriving DecidableEq, Repr

/-- What a name stands for. -/
def Component.ofName (name : Name) : Component :=
  if name = Path.here then .here else if name = Path.above then .above else .named name

/-- The components of a path from left to right. -/
def components (path : Bytes) : List Component :=
  (if isAbsolute path then [.root] else []) ++ (names path).map .ofName

/-- A stack of names, the last one on top, after a component. Going up takes the top name off;
at the root there is none to take. -/
def stackStep : List Name → Component → List Name
  | _, .root => []
  | stack, .here => stack
  | [], .above => []
  | _ :: below, .above => below
  | stack, .named name => name :: stack

/-- The stack of names after all components of a path. -/
def stackOf (path : Bytes) : List Name := (components path).foldl stackStep []

/-- A path that ends in a name without this name; the slash of the root stays. -/
def withoutLast (path : Bytes) : Bytes :=
  let front := Bytes.dropTrailing (· != slash) path
  if front.length ≤ 1 then front else front.dropLast

/-- A path that is put together, after a component. -/
def pathStep : Bytes → Component → Bytes
  | path, .root => join path [slash]
  | path, .here => path
  | path, .above => withoutLast path
  | path, .named name => join path name

/-- The path that is put together from all components of a path. -/
def assembled (path : Bytes) : Bytes := (components path).foldl pathStep []

/-- A name that neither stays nor goes up. -/
def IsSettled (name : Name) : Prop := name ≠ here ∧ name ≠ above
  deriving Decidable

/-- A clean path: it is written with one slash before each of its names, and all of them are
settled. -/
structure IsClean (path : Bytes) : Prop where
  written : ofNames (names path) = path
  settled : ∀ name ∈ names path, IsSettled name

section Written

/-- A path that is written with names is absolute. -/
theorem isAbsolute_ofNames (given : List Name) : isAbsolute (ofNames given) = true := by
  cases given <;> rfl

/-- A path that is written with names is its names, each behind a slash. -/
theorem ofNames_eq_flatMap {given : List Name} (present : given ≠ []) :
    ofNames given = given.flatMap (slash :: ·) := by
  rw [ofNames, if_neg (by simpa using present)]

/-- The last name of a path that is written with names stands behind a slash. -/
theorem ofNames_concat (given : List Name) (name : Name) :
    ofNames (given ++ [name]) = given.flatMap (slash :: ·) ++ slash :: name := by
  rw [ofNames_eq_flatMap (List.concat_ne_nil name given), List.flatMap_append,
    List.flatMap_singleton]

/-- No slash ends a path that ends in a proper name. -/
theorem endsWithSlash_append {name : Name} (proper : IsProper name) (path : Bytes) :
    endsWithSlash (path ++ slash :: name) = false := by
  have apart : name.getLast proper.1 ≠ slash := by
    intro same
    apply proper.2
    rw [← same]
    exact List.getLast_mem proper.1
  have last : (path ++ slash :: name).getLast? = some (name.getLast proper.1) := by
    rw [List.getLast?_append_cons, List.getLast?_cons, List.getLast?_eq_some_getLast proper.1]
    rfl
  rw [endsWithSlash, last]
  simpa using apart

/-- A path that is written with proper names grows by a name. -/
theorem join_ofNames {given : List Name} (properGiven : ∀ name ∈ given, IsProper name) {name : Name}
    (proper : IsProper name) : join (ofNames given) name = ofNames (given ++ [name]) := by
  have relative : ¬isAbsolute name = true := by
    rw [isAbsolute_of_isProper proper]
    exact Bool.false_ne_true
  rw [join, if_neg relative, ofNames_concat]
  rcases List.eq_nil_or_concat' given with rfl | ⟨front, last, rfl⟩
  · rfl
  · have ends := endsWithSlash_append (properGiven last List.mem_concat_self)
      (front.flatMap (slash :: ·))
    rw [← ofNames_eq_flatMap (List.concat_ne_nil last front), ofNames_concat, if_neg]
    simp [ends]

/-- A path that is written with names loses the last one, which is proper. -/
theorem withoutLast_ofNames (given : List Name) {name : Name} (proper : IsProper name) :
    withoutLast (ofNames (given ++ [name])) = ofNames given := by
  have cut : ∀ path, Bytes.dropTrailing (· != slash) (path ++ slash :: name) = path ++ [slash] := by
    intro path
    have all : ∀ byte ∈ name.reverse, (byte != slash) = true := by
      intro byte member
      have apart : byte ≠ slash := by
        rintro rfl
        exact proper.2 (List.mem_reverse.1 member)
      simpa using apart
    rw [Bytes.dropTrailing, List.reverse_append, List.reverse_cons, List.append_assoc,
      dropWhile_append_of_all all]
    simp
  rw [ofNames_concat, withoutLast, cut]
  by_cases present : given = []
  · rw [present]
    rfl
  · have long : ¬(ofNames given ++ [slash]).length ≤ 1 := by
      have positive : 0 < (ofNames given).length := by
        rw [List.length_pos_iff]
        intro empty
        have absolute := isAbsolute_ofNames given
        rw [empty] at absolute
        contradiction
      rw [List.length_append, List.length_singleton]
      omega
    rw [← ofNames_eq_flatMap present, if_neg long, List.dropLast_concat]

end Written

section Steps

variable {kept given : List Name} {name : Name}

/-- A name stays, goes up or is settled. -/
theorem here_or_above_or_settled (name : Name) : name = here ∨ name = above ∨ IsSettled name := by
  by_cases stays : name = here
  · exact .inl stays
  · by_cases up : name = above
    · exact .inr (.inl up)
    · exact .inr (.inr ⟨stays, up⟩)

/-- A settled name is kept. -/
theorem cleanStep_of_settled (settled : IsSettled name) : cleanStep kept name = kept ++ [name] := by
  rw [cleanStep, if_neg settled.1, if_neg settled.2]

/-- A settled name stands for itself. -/
theorem Component.ofName_of_settled (settled : IsSettled name) : ofName name = .named name := by
  rw [ofName, if_neg settled.1, if_neg settled.2]

/-- One more name is cleaned after the names in front of it. -/
theorem cleanNames_concat (given : List Name) (name : Name) :
    cleanNames (given ++ [name]) = cleanStep (cleanNames given) name := List.foldl_concat ..

/-- What holds of the names kept, and of the next one if it is settled, holds of those kept then. -/
theorem forall_mem_cleanStep {holds : Name → Prop} (all : ∀ other ∈ kept, holds other)
    (next : IsSettled name → holds name) : ∀ other ∈ cleanStep kept name, holds other := by
  intro other member
  rcases here_or_above_or_settled name with rfl | rfl | settled
  · exact all other member
  · exact all other ((List.dropLast_sublist kept).subset member)
  · rw [cleanStep_of_settled settled, List.mem_append, List.mem_singleton] at member
    rcases member with before | same
    · exact all other before
    · rw [same]
      exact next settled

/-- What holds of all settled names holds of those that cleaning keeps. -/
theorem forall_mem_cleanNames {holds : Name → Prop}
    (all : ∀ name ∈ given, IsSettled name → holds name) :
    ∀ name ∈ cleanNames given, holds name := by
  -- The names kept so far are the state of the fold, so the induction takes the last name off.
  induction given using List.reverseRecOn with
  | nil => exact fun _ member => absurd member List.not_mem_nil
  | append_singleton front last ih =>
    rw [cleanNames_concat]
    apply forall_mem_cleanStep
    · exact ih fun name member => all name (List.mem_append_left _ member)
    · exact all last List.mem_concat_self

/-- The stack after a name holds the names kept, the last one on top. -/
theorem stackStep_ofName (kept : List Name) (name : Name) :
    stackStep kept.reverse (.ofName name) = (cleanStep kept name).reverse := by
  rcases here_or_above_or_settled name with rfl | rfl | settled
  · rfl
  · show stackStep kept.reverse .above = kept.dropLast.reverse
    rcases List.eq_nil_or_concat' kept with rfl | ⟨front, last, rfl⟩
    · rfl
    · rw [List.reverse_concat, List.dropLast_concat]
      rfl
  · rw [Component.ofName_of_settled settled, cleanStep_of_settled settled, List.reverse_concat]
    rfl

/-- The path after a name is written with the names kept. -/
theorem pathStep_ofName (properKept : ∀ other ∈ kept, IsProper other) (proper : IsProper name) :
    pathStep (ofNames kept) (.ofName name) = ofNames (cleanStep kept name) := by
  rcases here_or_above_or_settled name with rfl | rfl | settled
  · rfl
  · show withoutLast (ofNames kept) = ofNames kept.dropLast
    rcases List.eq_nil_or_concat' kept with rfl | ⟨front, last, rfl⟩
    · rfl
    · rw [withoutLast_ofNames front (properKept last List.mem_concat_self), List.dropLast_concat]
  · rw [Component.ofName_of_settled settled, cleanStep_of_settled settled]
    exact join_ofNames properKept proper

end Steps

section Components

variable {path : Bytes} {name : Name}

/-- A name stands for staying only if it is the one that stays. -/
theorem Component.ofName_eq_here : ofName name = .here ↔ name = Path.here := by
  rcases here_or_above_or_settled name with rfl | rfl | settled
  · decide
  · decide
  · simp [ofName_of_settled settled, settled.1]

/-- A name stands for going up only if it is the one that goes up. -/
theorem Component.ofName_eq_above : ofName name = .above ↔ name = Path.above := by
  rcases here_or_above_or_settled name with rfl | rfl | settled
  · decide
  · decide
  · simp [ofName_of_settled settled, settled.2]

/-- The components of an absolute path. -/
theorem components_of_isAbsolute (absolute : isAbsolute path = true) :
    components path = .root :: (names path).map .ofName := by
  rw [components, if_pos absolute]
  rfl

/-- A path goes up where one of its names does. -/
theorem above_mem_components (absolute : isAbsolute path = true) :
    .above ∈ components path ↔ above ∈ names path := by
  rw [components_of_isAbsolute absolute]
  simp [Component.ofName_eq_above]

/-- A path stays where one of its names does. -/
theorem here_mem_components (absolute : isAbsolute path = true) :
    .here ∈ components path ↔ here ∈ names path := by
  rw [components_of_isAbsolute absolute]
  simp [Component.ofName_eq_here]

end Components

section Runs

variable {given : List Name}

/-- The stack after all names of a path. -/
theorem foldl_stackStep (given : List Name) :
    (given.map .ofName).foldl stackStep [] = (cleanNames given).reverse := by
  induction given using List.reverseRecOn with
  | nil => rfl
  | append_singleton front last ih =>
    rw [List.map_append, List.map_singleton, List.foldl_concat, ih, stackStep_ofName,
      cleanNames_concat]

/-- The path that is put together from the root and proper names. -/
theorem foldl_pathStep (proper : ∀ name ∈ given, IsProper name) :
    (given.map .ofName).foldl pathStep (ofNames []) = ofNames (cleanNames given) := by
  induction given using List.reverseRecOn with
  | nil => rfl
  | append_singleton front last ih =>
    have properFront : ∀ name ∈ front, IsProper name := fun name member =>
      proper name (List.mem_append_left _ member)
    have properKept : ∀ name ∈ cleanNames front, IsProper name :=
      forall_mem_cleanNames fun name member _ => properFront name member
    rw [List.map_append, List.map_singleton, List.foldl_concat, ih properFront,
      pathStep_ofName properKept (proper last List.mem_concat_self), cleanNames_concat]

/-- The stack after all components of a path holds the names that cleaning keeps. -/
theorem stackOf_eq (path : Bytes) : stackOf path = (cleanNames (names path)).reverse := by
  have rooted : (if isAbsolute path then [Component.root] else []).foldl stackStep [] = [] := by
    split <;> rfl
  rw [stackOf, components, List.foldl_append, rooted, foldl_stackStep]

/-- The path that is put together from all components of an absolute path is its clean form. -/
theorem assembled_eq {path : Bytes} (absolute : isAbsolute path = true) :
    assembled path = clean path := by
  have rooted : [Component.root].foldl pathStep [] = ofNames [] := rfl
  rw [assembled, components, if_pos absolute, List.foldl_append, rooted,
    foldl_pathStep fun _ => isProper_of_mem_names, clean]

end Runs

section NormalForms

variable {path : Bytes}

/-- The names of a clean form. -/
theorem names_clean (path : Bytes) : names (clean path) = cleanNames (names path) :=
  names_ofNames (forall_mem_cleanNames fun _ member _ => isProper_of_mem_names member)

/-- A clean form is absolute. -/
theorem isAbsolute_clean (path : Bytes) : isAbsolute (clean path) = true :=
  isAbsolute_ofNames _

/-- Cleaning makes a path clean. -/
theorem isClean_clean (path : Bytes) : IsClean (clean path) where
  written := by rw [names_clean, clean]
  settled := by
    rw [names_clean]
    exact forall_mem_cleanNames fun _ _ settled => settled

/-- Where no name goes up, cleaning takes out the names that stay. -/
theorem cleanNames_of_not_mem {given : List Name} (level : above ∉ given) :
    cleanNames given = given.filter (· ≠ here) := by
  induction given using List.reverseRecOn with
  | nil => rfl
  | append_singleton front last ih =>
    rw [List.mem_append, not_or, List.mem_singleton] at level
    rw [cleanNames_concat, ih level.1, List.filter_append]
    rcases here_or_above_or_settled last with rfl | rfl | settled
    · exact (List.append_nil _).symm
    · exact absurd rfl level.2
    · rw [cleanStep_of_settled settled, List.filter_singleton]
      simp [settled.1]

/-- A clean path is absolute. -/
theorem IsClean.isAbsolute (isClean : IsClean path) : isAbsolute path = true := by
  rw [← isClean.written]
  exact isAbsolute_ofNames (names path)

/-- Cleaning keeps a clean path as it is. -/
theorem IsClean.clean_eq (isClean : IsClean path) : clean path = path := by
  have level : above ∉ names path := fun member => (isClean.settled above member).2 rfl
  have all : ∀ name ∈ names path, decide (name ≠ here) = true := fun name member =>
    decide_eq_true (isClean.settled name member).1
  rw [clean, cleanNames_of_not_mem level, List.filter_eq_self.2 all, isClean.written]

/-- Names behind other ones may be cleaned after these. -/
theorem cleanNames_append (first second : List Name) :
    cleanNames (first ++ second) = second.foldl cleanStep (cleanNames first) :=
  List.foldl_append

/-- A path in front of a relative one may be cleaned before. -/
theorem clean_join (path : Bytes) {more : Bytes} (relative : isAbsolute more = false) :
    clean (join path more) = clean (join (clean path) more) := by
  have again : cleanNames (cleanNames (names path)) = cleanNames (names path) := by
    rw [← names_clean, ← names_clean, (isClean_clean path).clean_eq]
  rw [clean, clean, names_join_of_relative _ relative, names_join_of_relative _ relative,
    cleanNames_append, cleanNames_append, names_clean, again]

/-- A settled name behind a clean path makes a clean path. -/
theorem IsClean.join (isClean : IsClean path) {name : Name} (proper : IsProper name)
    (settled : IsSettled name) : IsClean (join path name) where
  written := by
    rw [names_join path proper, ← join_ofNames (fun _ => isProper_of_mem_names) proper,
      isClean.written]
  settled := by
    rw [names_join path proper]
    intro other member
    rcases List.mem_append.1 member with before | same
    · exact isClean.settled other before
    · rw [List.mem_singleton.1 same]
      exact settled

/-- Where no component goes up, cleaning takes out the components that stay. -/
theorem components_clean_of_not_mem (absolute : isAbsolute path = true)
    (level : .above ∉ components path) :
    components (clean path) = (components path).filter (· ≠ .here) := by
  rw [above_mem_components absolute] at level
  have same : (fun component => decide (component ≠ .here)) ∘ Component.ofName =
      fun name => decide (name ≠ here) := by
    funext name
    simp [Component.ofName_eq_here]
  rw [components_of_isAbsolute (isAbsolute_clean path), components_of_isAbsolute absolute,
    List.filter_cons_of_pos (by decide), List.filter_map, same, names_clean,
    cleanNames_of_not_mem level]

end NormalForms

/-- The clean form of an absolute path is absolute, and no component of it stays or goes up. It is
what a stack of names gives, and a path that grows and shrinks. Clean paths, and these only, are
kept as they are; a path that does not go up keeps all components but those that stay; and what is
cleaned in front of a relative path makes no difference. -/
theorem clean_normal_form {path : Bytes} (absolute : isAbsolute path = true) :
    (isAbsolute (clean path) = true ∧ .here ∉ components (clean path) ∧
        .above ∉ components (clean path)) ∧
      clean path = ofNames (stackOf path).reverse ∧
      clean path = assembled path ∧
      clean (clean path) = clean path ∧
      (clean path = path ↔ IsClean path) ∧
      (.above ∉ components path →
        components (clean path) = (components path).filter (· ≠ .here)) ∧
      ∀ more, isAbsolute more = false →
        clean (join path more) = clean (join (clean path) more) := by
  have isClean := isClean_clean path
  have rooted := isAbsolute_clean path
  refine ⟨⟨rooted, ?_, ?_⟩, ?_, (assembled_eq absolute).symm, isClean.clean_eq, ⟨?_, ?_⟩,
    components_clean_of_not_mem absolute, fun _ => clean_join path⟩
  · rw [here_mem_components rooted]
    exact fun member => (isClean.settled here member).1 rfl
  · rw [above_mem_components rooted]
    exact fun member => (isClean.settled above member).2 rfl
  · rw [stackOf_eq, List.reverse_reverse, clean]
  · intro same
    rw [← same]
    exact isClean
  · exact IsClean.clean_eq

/-- A path that stays, goes up beyond the root and has slashes side by side. -/
def windingPath : Bytes := .ofString "/..//srv/a/./../../../data/x/"

/-- All ways to clean the path come to the same. -/
theorem clean_windingPath :
    isAbsolute windingPath = true ∧
      clean windingPath = .ofString "/data/x" ∧
      ofNames (stackOf windingPath).reverse = .ofString "/data/x" ∧
      assembled windingPath = .ofString "/data/x" ∧
      clean (.ofString "/data/x") = .ofString "/data/x" ∧
      clean (join windingPath (.ofString "../y")) = .ofString "/data/y" := by
  have absolute : isAbsolute windingPath = true := rfl
  have relative : isAbsolute (.ofString "../y") = false := rfl
  have cleaned : clean windingPath = .ofString "/data/x" := by decide +kernel
  obtain ⟨-, stacked, built, again, -, -, joined⟩ := clean_normal_form absolute
  rw [cleaned] at stacked built again
  refine ⟨absolute, cleaned, stacked.symm, built.symm, again, ?_⟩
  rw [joined _ relative, cleaned]
  decide +kernel

end TunnelBench.Path
