import TunnelBench.ContentType.Table
import TunnelBench.FileTree.Path

/-!
# Content types

The content type of a file follows from the extension of its name, whatever the case
of its letters. Texts are said to be UTF-8, and an unknown extension stands for bytes.
-/
namespace TunnelBench.ContentType

/-- The type of bytes of any kind. -/
def octets : String := "application/octet-stream"

/-- The lower-case ASCII letters that a character stands for when case does not count; other
characters stand for themselves. -/
def fold (char : Char) : List Char :=
  match char.toNat with
  | 0x212A => ['k']
  | 0x17F => ['s']
  | 0xDF => ['s', 's']
  | 0x1E9E => ['s', 's']
  | 0xFB00 => ['f', 'f']
  | 0xFB01 => ['f', 'i']
  | 0xFB02 => ['f', 'l']
  | 0xFB03 => ['f', 'f', 'i']
  | 0xFB04 => ['f', 'f', 'l']
  | 0xFB05 => ['s', 't']
  | 0xFB06 => ['s', 't']
  | _ => [char.toLower]

/-- The type that an extension stands for. -/
def ofExtension? (extension : Bytes) : Option String := do
  let text ← Utf8.decode? extension
  let folded := String.ofList (text.toList.flatMap fold)
  let entry ← all.find? fun entry => entry.2.contains folded
  some entry.1

/-- A type with the encoding that goes with it. -/
def complete (type : String) : String :=
  if type.toList.take 5 = ['t', 'e', 'x', 't', '/'] then type ++ "; charset=utf-8" else type

/-- The content type of the file at a path. -/
def ofPath (path : Bytes) : String :=
  complete (((Path.extension? path).bind ofExtension?).getD octets)

end TunnelBench.ContentType
