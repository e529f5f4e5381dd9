import Mathlib.Data.Finset.Card
import TunnelBench.Proofs.Library.Building
import TunnelBench.Proofs.Text.Marks
import TunnelBench.Proofs.Text.Utf8

/-!
# When two files share a key

The key of a file is written from the names of its path, each decoded as text. A slash in a
decoded name would have to be one in the name, so keys tell apart what decoded names tell
apart. But bytes that are no text are all decoded as the same mark: files with such names
can share a key, and then the library keeps the response of one of them only.
-/
namespace TunnelBench

namespace Utf8

/-- A decoded character stands for a broken part, or its encoding is there. -/
theorem mem_decodeLossy {bytes : Bytes} {char : Char} (member : char ∈ (decodeLossy bytes).toList) :
    char = '\uFFFD' ∨ ∀ byte ∈ String.utf8EncodeChar char, byte ∈ bytes := by
  rw [decodeLossy, String.toList_ofList, List.mem_map] at member
  obtain ⟨segment, present, same⟩ := member
  cases segment with
  | char value =>
    right
    intro byte encoded
    rw [← flatMap_segments bytes, List.mem_flatMap]
    rw [← same] at encoded
    exact ⟨.char value, present, encoded⟩
  | broken part => exact .inl same.symm

/-- A text is decoded from its encoding, whichever way it is decoded. -/
theorem decodeLossy_ofString (text : String) : decodeLossy (.ofString text) = text := by
  have kept : (fun segment : Segment => segment.char?.getD '\uFFFD') ∘ Segment.char = id := rfl
  rw [decodeLossy, segments_ofString, List.map_map, kept, List.map_id, String.ofList_toList]

end Utf8

namespace Library

/-- The key that names make, each behind a slash. -/
theorem toList_key (way : List Name) :
    (String.join (way.map fun name => "/" ++ Utf8.decodeLossy name)).toList =
      (way.map fun name => (Utf8.decodeLossy name).toList).flatMap ('/' :: ·) := by
  rw [String.toList_join, List.flatMap_map, List.flatMap_map]
  congr 1
  funext name
  rw [String.toList_append]
  rfl

/-- No decoded name has a slash. -/
theorem slash_not_mem {name : Name} (proper : Path.IsProper name) :
    '/' ∉ (Utf8.decodeLossy name).toList := by
  intro member
  obtain broken | encoded := Utf8.mem_decodeLossy member
  · exact absurd broken (by decide)
  · exact proper.2 (encoded Path.slash (by decide))

/-- The decoded names of a path have no slash. -/
theorem slash_not_mem_of_mem {way : List Name} (proper : ∀ name ∈ way, Path.IsProper name) :
    ∀ part ∈ way.map fun name => (Utf8.decodeLossy name).toList, '/' ∉ part := by
  intro part member
  obtain ⟨name, present, rfl⟩ := List.mem_map.1 member
  exact slash_not_mem (proper name present)

/-- The characters of decoded names are put together as the decoded names. -/
theorem map_ofList_decoded (way : List Name) :
    (way.map fun name => (Utf8.decodeLossy name).toList).map String.ofList =
      way.map Utf8.decodeLossy := by
  rw [List.map_map]
  congr 1
  funext name
  exact String.ofList_toList

/-- Keys are the same where the decoded names are. -/
theorem key_inj {left right : List Name} (leftProper : ∀ name ∈ left, Path.IsProper name)
    (rightProper : ∀ name ∈ right, Path.IsProper name) :
    String.join (left.map fun name => "/" ++ Utf8.decodeLossy name) =
        String.join (right.map fun name => "/" ++ Utf8.decodeLossy name) ↔
      left.map Utf8.decodeLossy = right.map Utf8.decodeLossy := by
  constructor
  · intro same
    rw [← String.toList_inj, toList_key, toList_key] at same
    have parts := eq_of_marked (slash_not_mem_of_mem leftProper) (slash_not_mem_of_mem rightProper)
      same
    rw [← map_ofList_decoded left, ← map_ofList_decoded right, parts]
  · intro same
    have marked : ∀ names : List Name, names.map (fun name => "/" ++ Utf8.decodeLossy name) =
        (names.map Utf8.decodeLossy).map fun text => "/" ++ text := by
      intro names
      rw [List.map_map]
      rfl
    rw [marked, marked, same]

/-- The names of two paths are decoded as the same texts. -/
def SameTexts (first second : Bytes) : Prop :=
  (Path.names first).map Utf8.decodeLossy = (Path.names second).map Utf8.decodeLossy

/-- Two files that are met from a root on share a key where their names are decoded as the same
texts. -/
theorem keyOf_eq_iff {tree : FileTree} (formed : tree.WellFormed) {root first second : Bytes}
    (finds : tree.Finds root (.file first)) (findsToo : tree.Finds root (.file second)) :
    keyOf (baseOf root) first = keyOf (baseOf root) second ↔ SameTexts first second := by
  obtain ⟨way, split, key⟩ := exists_keyOf formed finds
  obtain ⟨other, otherSplit, otherKey⟩ := exists_keyOf formed findsToo
  change Path.names first = _ at split
  change Path.names second = _ at otherSplit
  change keyOf (baseOf root) first = _ at key
  change keyOf (baseOf root) second = _ at otherKey
  have proper : ∀ name ∈ way, Path.IsProper name := by
    intro name member
    have present : name ∈ Path.names first := by
      rw [split]
      exact List.mem_append_right _ member
    exact Path.isProper_of_mem_names present
  have otherProper : ∀ name ∈ other, Path.IsProper name := by
    intro name member
    have present : name ∈ Path.names second := by
      rw [otherSplit]
      exact List.mem_append_right _ member
    exact Path.isProper_of_mem_names present
  rw [key, otherKey, Except.ok.injEq, key_inj proper otherProper, SameTexts, split, otherSplit,
    List.map_append, List.map_append, List.append_cancel_left_eq]

end Library
end TunnelBench
