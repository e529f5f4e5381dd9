import Mathlib.Data.List.DropRight
import TunnelBench.Text.Decimal

/-!
# Cores and tails

Trimming takes blanks off both ends of a text, and cutting at a mark takes everything off up
to the last mark. What is left is described without the scan that finds it: a core has nothing
but blanks around it and none at its ends, and a tail has no mark in it and one right before
it, or it is the whole text.
-/
namespace TunnelBench

section Core

variable {α : Type} {test : α → Bool}

/-- A core stands between elements that pass a test, and neither begins nor ends with one. -/
structure IsCore (test : α → Bool) (whole core : List α) : Prop where
  stands : ∃ lead trail, whole = lead ++ core ++ trail ∧ (∀ char ∈ lead, test char = true) ∧
    ∀ char ∈ trail, test char = true
  begins : ∀ first ∈ core.head?, test first = false
  ends : ∀ last ∈ core.getLast?, test last = false

/-- A scan stops where the first element fails the test. -/
theorem dropWhile_of_begins {chars : List α} (begins : ∀ first ∈ chars.head?, test first = false) :
    chars.dropWhile test = chars := by
  cases chars with
  | nil => rfl
  | cons first rest => exact List.dropWhile_cons_of_neg (by simp [begins first rfl])

/-- A scan goes through elements that all pass the test. -/
theorem dropWhile_append_of_all {lead : List α} (all : ∀ char ∈ lead, test char = true)
    (rest : List α) : (lead ++ rest).dropWhile test = rest.dropWhile test := by
  rw [List.dropWhile_append, List.dropWhile_eq_nil_iff.2 all]
  rfl

/-- Taking elements off both ends leaves a core. -/
theorem isCore_dropWhile (test : α → Bool) (whole : List α) :
    IsCore test whole ((whole.dropWhile test).rdropWhile test) where
  stands := by
    refine ⟨whole.takeWhile test, (whole.dropWhile test).rtakeWhile test, ?_, ?_, ?_⟩
    · have back : (whole.dropWhile test).rdropWhile test ++ (whole.dropWhile test).rtakeWhile test =
          whole.dropWhile test := by
        rw [List.rdropWhile, List.rtakeWhile, ← List.reverse_append,
          List.takeWhile_append_dropWhile, List.reverse_reverse]
      rw [List.append_assoc, back, List.takeWhile_append_dropWhile]
    · exact fun char member => List.mem_takeWhile_imp member
    · exact fun char member => List.mem_rtakeWhile_imp member
  begins := by
    intro first front
    obtain ⟨trail, start⟩ := List.rdropWhile_prefix test (whole.dropWhile test)
    have same : (whole.dropWhile test).head? = some first := by
      rw [← start, List.head?_append, Option.mem_def.1 front]
      rfl
    have stops := List.head?_dropWhile_not test whole
    rw [same] at stops
    simpa using stops
  ends := by
    intro last back
    have given : (whole.dropWhile test).rdropWhile test ≠ [] := by
      rintro empty
      rw [empty] at back
      contradiction
    have stops := List.rdropWhile_last_not test (whole.dropWhile test) given
    rw [List.getLast?_eq_some_getLast given, Option.mem_some_iff] at back
    rw [back] at stops
    simpa using stops

/-- A core is what is left when elements are taken off both ends. -/
theorem IsCore.eq {whole core : List α} (isCore : IsCore test whole core) :
    (whole.dropWhile test).rdropWhile test = core := by
  obtain ⟨⟨lead, trail, rfl, leads, trails⟩, begins, ends⟩ := isCore
  rw [List.append_assoc, dropWhile_append_of_all leads, List.rdropWhile]
  -- An empty core leaves the blanks behind it in front, where the first scan takes them as well.
  by_cases given : core = []
  · rw [given, List.nil_append, List.dropWhile_eq_nil_iff.2 trails]
    rfl
  · have front : ∀ first ∈ (core ++ trail).head?, test first = false := by
      rw [List.head?_append_of_ne_nil core given]
      exact begins
    rw [dropWhile_of_begins front, List.reverse_append,
      dropWhile_append_of_all (by simpa using trails), dropWhile_of_begins (by simpa using ends),
      List.reverse_reverse]

/-- There is one core. -/
theorem isCore_iff {whole core : List α} :
    IsCore test whole core ↔ (whole.dropWhile test).rdropWhile test = core := by
  constructor
  · exact IsCore.eq
  · rintro rfl
    exact isCore_dropWhile test whole

end Core

/-- A tail has no mark in it, and stands behind one or is everything. -/
structure IsTail (mark : UInt8) (whole tail : Bytes) : Prop where
  unmarked : mark ∉ tail
  stands : whole = tail ∨ ∃ front, whole = front ++ mark :: tail

/-- What follows the last mark is the tail. -/
theorem isTail_iff {mark : UInt8} {whole tail : Bytes} :
    IsTail mark whole tail ↔ whole.afterLast mark = tail := by
  constructor
  · rintro ⟨unmarked, stands⟩
    have passes : ∀ byte ∈ tail.reverse, (byte != mark) = true := by
      intro byte member
      rw [bne_iff_ne]
      rintro rfl
      exact unmarked (List.mem_reverse.1 member)
    rcases stands with rfl | ⟨front, rfl⟩
    · rw [Bytes.afterLast, List.takeWhile_eq_self_iff.2 passes, List.reverse_reverse]
    · rw [Bytes.afterLast, List.reverse_append, List.reverse_cons, List.append_assoc,
        List.takeWhile_append_of_pos passes]
      simp
  · rintro rfl
    constructor
    · intro member
      have passes := List.mem_takeWhile_imp (List.mem_reverse.1 member)
      simp at passes
    · have split := List.takeWhile_append_dropWhile (p := (· != mark)) (l := whole.reverse)
      cases back : whole.reverse.dropWhile (· != mark) with
      | nil =>
        rw [back, List.append_nil] at split
        left
        rw [Bytes.afterLast, split, List.reverse_reverse]
      | cons byte rest =>
        right
        have stops := List.head?_dropWhile_not (· != mark) whole.reverse
        rw [back] at stops
        have marked : byte = mark := by simpa using stops
        refine ⟨rest.reverse, ?_⟩
        calc whole = (whole.reverse.takeWhile (· != mark) ++ byte :: rest).reverse := by
              rw [← back, split, List.reverse_reverse]
          _ = rest.reverse ++ mark :: whole.afterLast mark := by
              rw [List.reverse_append, List.reverse_cons, List.append_assoc, marked]
              rfl

/-- Trimming bytes leaves their core. -/
theorem Bytes.isCore_iff_trim {whole core : Bytes} :
    IsCore isBlank whole core ↔ whole.trim = core := isCore_iff

/-- Trimming a text leaves its core. -/
theorem Blank.isCore_iff_trim {whole core : List Char} :
    IsCore isBlank whole core ↔ trim whole = core := isCore_iff

end TunnelBench
