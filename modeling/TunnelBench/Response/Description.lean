import TunnelBench.Response.Basic

/-!
# Descriptions of responses

A response can be shown for inspection, field by field. Bodies are shown by kind and
length only.
-/
namespace TunnelBench

/-- A record shown as its name and its fields between braces. -/
def describeRecord (name : String) (fields : List (String × String)) : String :=
  let shown := fields.map fun field => field.1 ++ ": " ++ field.2
  name ++ " \x7b " ++ String.intercalate ", " shown ++ " \x7d"

/-- An optional value shown as present or absent. -/
def describeOption {α : Type} (describe : α → String) : Option α → String
  | none => "None"
  | some value => "Some(" ++ describe value ++ ")"

/-- Values shown as a list. -/
def describeList {α : Type} (describe : α → String) (values : List α) : String :=
  "[" ++ String.intercalate ", " (values.map describe) ++ "]"

/-- A body shown by its kind. -/
def Body.describe : Body → String
  | .fixed data => "Bytes(" ++ toString data.length ++ ")"
  | .reader _ => "Reader"

/-- A header shown as a pair of quoted texts. -/
def Response.describeHeader (header : String × String) : String :=
  "(" ++ Quoted.text header.1 ++ ", " ++ Quoted.text header.2 ++ ")"

/-- A response shown with all its fields. -/
def Response.describe (response : Response) : String :=
  describeRecord "ResponseDescriptor" [
    ("status", toString response.status.code),
    ("reason", describeOption Quoted.text response.reason),
    ("version", response.version.text),
    ("headers", describeList describeHeader response.headers),
    ("body", describeOption Body.describe response.body),
    ("content_length", describeOption toString response.contentLength)]

end TunnelBench
