import TunnelBench.Library.Build
import TunnelBench.Proofs.Text.Ascii

/-!
# Responses that send files

A file that can be read becomes a response with three lines in its head: the status, the
size of the file and its content type. What follows the first empty line is the content
of the file, whatever stands in it.
-/
namespace TunnelBench

namespace Response

/-- What follows the first empty line. -/
def afterHead? : Bytes → Option Bytes
  | 13 :: 10 :: 13 :: 10 :: rest => some rest
  | _ :: rest => afterHead? rest
  | [] => none

/-- The first empty line is not where another byte stands. -/
theorem afterHead?_cons {byte : UInt8} (other : byte ≠ 13) (rest : Bytes) :
    afterHead? (byte :: rest) = afterHead? rest := by
  rw [afterHead?]
  rintro _ rfl
  exact absurd rfl other

/-- The first empty line is not in a run without carriage returns. -/
theorem afterHead?_append {run : Bytes} (plain : 13 ∉ run) (rest : Bytes) :
    afterHead? (run ++ rest) = afterHead? rest := by
  induction run with
  | nil => rfl
  | cons byte run ih =>
    rw [List.mem_cons, not_or] at plain
    rw [List.cons_append, afterHead?_cons (Ne.symm plain.1), ih plain.2]

/-- The end of a line before another line is not the first empty line. -/
theorem afterHead?_lineEnd {byte : UInt8} (other : byte ≠ 13) (rest : Bytes) :
    afterHead? (Bytes.lineEnd ++ byte :: rest) = afterHead? (byte :: rest) := by
  have first : afterHead? (13 :: 10 :: byte :: rest) = afterHead? (10 :: byte :: rest) := by
    rw [afterHead?]
    intro _ _ same
    simp [other] at same
  exact first.trans (afterHead?_cons (by decide) _)

/-- Lines that are not empty end with the first empty line. -/
theorem afterHead?_lines {lines : List Bytes} (given : lines ≠ [])
    (plain : ∀ line ∈ lines, line ≠ [] ∧ 13 ∉ line) (content : Bytes) :
    afterHead? (lines.flatMap line ++ (Bytes.lineEnd ++ content)) = some content := by
  induction lines with
  | nil => exact absurd rfl given
  | cons first others ih =>
    have shape : (first :: others).flatMap line ++ (Bytes.lineEnd ++ content) =
        first ++ (Bytes.lineEnd ++ (others.flatMap line ++ (Bytes.lineEnd ++ content))) := by
      simp [line]
    rw [shape, afterHead?_append (plain first List.mem_cons_self).2]
    cases others with
    | nil => rfl
    | cons second others =>
      have later := ih (by simp) fun line member => plain line (List.mem_cons_of_mem _ member)
      obtain ⟨filled, single⟩ := plain second (by simp)
      cases second with
      | nil => exact absurd rfl filled
      | cons byte bytes =>
        have other : byte ≠ 13 := fun same => single (by simp [same])
        exact (afterHead?_lineEnd other _).trans later

end Response

/-- A text of visible ASCII characters is written without carriage returns. -/
theorem Bytes.not_mem_ofString {text : String}
    (visible : ∀ char ∈ text.toList, 32 ≤ char.toNat ∧ char.toNat < 128) : 13 ∉ ofString text := by
  rw [ofString_ascii fun char member => (visible char member).2]
  intro member
  obtain ⟨char, present, encoded⟩ := List.mem_map.1 member
  have bounds := visible char present
  have code : char.toNat.toUInt8.toNat = char.toNat := by
    rw [Nat.toUInt8_eq, UInt8.toNat_ofNat']
    omega
  have value : char.toNat.toUInt8.toNat = 13 := by rw [encoded]; rfl
  omega

/-- A text after another one. -/
theorem Bytes.ofString_append (first second : String) :
    ofString (first ++ second) = ofString first ++ ofString second := by
  simp [ofString, List.flatMap_append]

/-- A number is written without carriage returns. -/
theorem Bytes.not_mem_ofNat (value : Nat) : 13 ∉ ofNat value := by
  have written : ofNat value = ofString (String.ofList (Nat.toDigits 10 value)) := by
    simp [ofNat, ofString]
  rw [written]
  refine not_mem_ofString fun char member => ?_
  rw [String.toList_ofList] at member
  have digit : char.isDigit = true := Nat.isDigit_of_mem_toDigits (by decide) (by decide) member
  have code : char.toNat = char.val.toNat := rfl
  delta Char.isDigit at digit
  simp only [Bool.and_eq_true, decide_eq_true_eq, UInt32.le_iff_toNat_le, ge_iff_le,
    Char.reduceVal, UInt32.reduceToNat] at digit
  omega

namespace ContentType

/-- The characters of the types in a table. They are found by unification, because decoding each
text would take long. -/
inductive Spelled : List (String × List String) → List (List Char) → Prop
  | nil : Spelled [] []
  | cons {chars : List Char} {extensions : List String} {table : List (String × List String)}
      {types : List (List Char)} (later : Spelled table types) :
      Spelled ((String.ofList chars, extensions) :: table) (chars :: types)

/-- A table whose types are visible ASCII texts has no carriage return in a type. -/
theorem Spelled.not_mem {table : List (String × List String)} {types : List (List Char)}
    (spelled : Spelled table types)
    (visible : (types.all fun type => type.all fun char =>
      32 ≤ char.toNat && char.toNat < 128) = true) :
    ∀ entry ∈ table, 13 ∉ Bytes.ofString entry.1 := by
  induction spelled with
  | nil => exact List.forall_mem_nil _
  | cons later ih =>
    rw [List.all_cons, Bool.and_eq_true] at visible
    refine List.forall_mem_cons.2 ⟨Bytes.not_mem_ofString ?_, ih visible.2⟩
    simpa using visible.1

/-- No registered type has a carriage return. -/
theorem not_mem_of_mem_all : ∀ entry ∈ all, 13 ∉ Bytes.ofString entry.1 := by
  simp only [all, List.forall_mem_append, and_assoc]
  refine ⟨?_, ?_, ?_, ?_, ?_, ?_, ?_, ?_, ?_⟩
  all_goals
    refine Spelled.not_mem (by repeat constructor) ?_
    decide +kernel

/-- No content type has a carriage return. -/
theorem not_mem_ofPath (path : Bytes) : 13 ∉ Bytes.ofString (ofPath path) := by
  have plain : 13 ∉ Bytes.ofString (((Path.extension? path).bind ofExtension?).getD octets) := by
    cases found : (Path.extension? path).bind ofExtension? with
    | none => decide +kernel
    | some type =>
      obtain ⟨extension, -, known⟩ := Option.bind_eq_some_iff.1 found
      obtain ⟨text, -, known⟩ := Option.bind_eq_some_iff.1 known
      obtain ⟨entry, listed, ⟨⟩⟩ := Option.bind_eq_some_iff.1 known
      exact not_mem_of_mem_all entry (List.mem_of_find?_eq_some listed)
  unfold ofPath complete
  split
  · rw [Bytes.ofString_append, List.mem_append, not_or]
    exact ⟨plain, by decide +kernel⟩
  · exact plain

end ContentType

namespace Library

/-- The lines in the head of the response that sends a file. -/
def fileLines (path content : Bytes) : List Bytes :=
  [.ofString "HTTP/1.0 200 OK",
    .ofString "Content-Length: " ++ .ofNat content.length,
    .ofString "Content-Type: " ++ .ofString (ContentType.ofPath path)]

/-- The response that sends a file with some content. -/
def fileBytes (path content : Bytes) : Bytes :=
  (fileLines path content).flatMap Response.line ++ (Bytes.lineEnd ++ content)

/-- What follows the first empty line of the response is the content of the file. -/
theorem afterHead?_fileBytes (path content : Bytes) :
    Response.afterHead? (fileBytes path content) = some content := by
  refine Response.afterHead?_lines (by simp [fileLines]) ?_ content
  have size := Bytes.not_mem_ofNat content.length
  have type := ContentType.not_mem_ofPath path
  intro line member
  simp only [fileLines, List.mem_cons, List.not_mem_nil, or_false] at member
  obtain rfl | rfl | rfl := member
  · exact ⟨by decide +kernel, by decide +kernel⟩
  · have label : 13 ∉ Bytes.ofString "Content-Length: " := by decide +kernel
    exact ⟨by simp [Bytes.ofString], by simp [label, size]⟩
  · have label : 13 ∉ Bytes.ofString "Content-Type: " := by decide +kernel
    exact ⟨by simp [Bytes.ofString], by simp [label, type]⟩

/-- What is written of a response with a file as its body. -/
theorem settle_file (type : String) (content : Bytes) :
    ((Response.ok.withHeader "Content-Type" type).withReader [.data content]).settle =
      .ok ⟨.http10, .ok, "OK", some content.length, [("Content-Type", type)], content⟩ := by
  have drained : Source.drain [.data content] = .ok content := by
    cases content with
    | nil => rfl
    | cons byte bytes => simp [Source.drain, bind, Except.bind]
  have measured :
      ((Response.ok.withHeader "Content-Type" type).withReader [.data content]).measured =
        .ok (content, some content.length) := by
    simp only [Response.measured, Response.withReader, Body.content, drained]
    rfl
  rw [Response.settle, measured]
  exact if_pos rfl

/-- A file that can be read is sent as it is. -/
theorem fileResponse_of_read {tree : FileTree} {path content : Bytes}
    (read : tree.read path = .ok content) :
    fileResponse tree path = .ok (fileBytes path content) := by
  rw [fileResponse, read]
  have status : Bytes.ofString Version.http10.text ++ [32] ++ Bytes.ofNat Status.ok.code ++ [32] ++
      Bytes.ofString "OK" = Bytes.ofString "HTTP/1.0 200 OK" := by decide +kernel
  have label : Bytes.ofString "Content-Length" ++ Bytes.ofString ": " =
      Bytes.ofString "Content-Length: " := by decide +kernel
  have label' : Bytes.ofString "Content-Type" ++ Bytes.ofString ": " =
      Bytes.ofString "Content-Type: " := by decide +kernel
  have written : (Response.Written.mk .http10 .ok "OK" (some content.length)
      [("Content-Type", ContentType.ofPath path)] content).bytes = fileBytes path content := by
    simp only [Response.Written.bytes, Response.Written.statusLine, Response.Written.headerLines,
      Response.headerLine, List.flatMap_cons, List.flatMap_nil, status, label, label']
    simp only [fileBytes, fileLines, List.flatMap_cons, List.flatMap_nil, List.append_nil,
      List.append_assoc]
  rw [← written]
  exact Response.render_of_settle (settle_file _ _)

/-- A file that cannot be read has no response. -/
theorem fileResponse_of_error {tree : FileTree} {path : Bytes} {error : IoError}
    (fails : tree.read path = .error error) :
    fileResponse tree path = .error (.file path error) := by
  rw [fileResponse, fails]

end Library
end TunnelBench
