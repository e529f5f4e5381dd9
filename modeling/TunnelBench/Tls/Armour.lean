import TunnelBench.Tls.Base64

/-!
# Armoured sections

Certificates and keys come as text: sections of base64 between a line that opens the
section with a label and a line that closes it with the same label. Sections with
other labels, and text outside of sections, count for nothing.
-/
namespace TunnelBench.Armour

/-- The kinds of sections that are read. -/
inductive Label where
  | certificate
  | publicKey
  | rsaPrivateKey
  | privateKey
  | ecPrivateKey
  | revocationList
  | certificateRequest
  | helloKeys
  deriving DecidableEq, Repr

/-- The labels as they are written. -/
def labels : List (String × Label) := [
  ("CERTIFICATE", .certificate),
  ("PUBLIC KEY", .publicKey),
  ("RSA PRIVATE KEY", .rsaPrivateKey),
  ("PRIVATE KEY", .privateKey),
  ("EC PRIVATE KEY", .ecPrivateKey),
  ("X509 CRL", .revocationList),
  ("CERTIFICATE REQUEST", .certificateRequest),
  ("ECHCONFIG", .helloKeys)]

/-- The label that is written so. -/
def label? (written : Bytes) : Option Label :=
  (labels.find? fun entry => Bytes.ofString entry.1 == written).map (·.2)

/-- A section that was read. -/
structure Section where
  label : Label
  content : Bytes
  deriving DecidableEq, Repr

/-- A byte that ends a line. -/
def endsLine (byte : UInt8) : Bool := byte == 10 || byte == 13

/-- The first line with its end, and what follows it. -/
def splitLine : Bytes → Bytes × Bytes
  | [] => ([], [])
  | byte :: rest =>
    if endsLine byte then ([byte], rest)
    else
      let (line, later) := splitLine rest
      (byte :: line, later)

/-- What follows a line is no longer than the text. -/
theorem length_splitLine (text : Bytes) : (splitLine text).2.length ≤ text.length := by
  induction text with
  | nil => simp [splitLine]
  | cons byte rest ih =>
    simp only [splitLine]
    split
    · simp
    · exact Nat.le_succ_of_le ih

/-- What follows the first line is shorter than the text. -/
theorem length_splitLine_lt {text : Bytes} (some : text ≠ []) :
    (splitLine text).2.length < text.length := by
  cases text with
  | nil => contradiction
  | cons byte rest =>
    simp only [splitLine]
    split
    · simp
    · exact Nat.lt_succ_of_le (length_splitLine rest)

/-- The lines of a text, each with its end. -/
def lines (text : Bytes) : List Bytes :=
  match text with
  | [] => []
  | byte :: rest =>
    (splitLine (byte :: rest)).1 :: lines (splitLine (byte :: rest)).2
termination_by text.length
decreasing_by exact length_splitLine_lt (by simp)

/-- How a line that opens a section starts. -/
def opening : Bytes := .ofString "-----BEGIN "

/-- How a line that closes a section starts. -/
def closing : Bytes := .ofString "-----END "

/-- The dashes around a label. -/
def dashes : Bytes := .ofString "-----"

/-- The bytes that can stand behind the label of an opening line. -/
def isTrailer (byte : UInt8) : Bool := byte == 45 || endsLine byte || byte == 32

/-- The label in an opening line: five dashes stand behind it, perhaps with blanks. -/
def openedLabel (line : Bytes) : Except ArmourError Bytes :=
  let trailer := (line.reverse.takeWhile isTrailer).reverse
  if trailer.count 45 = dashes.length then
    let before := line.length - (trailer.dropWhile (· != 45)).length
    .ok ((line.take before).drop opening.length)
  else .error (.sectionStart line)

/-- Whether a line closes the section with a label. -/
def closes (label line : Bytes) : Bool := (closing ++ label ++ dashes).isPrefixOf line

/-- Reads on, perhaps in a section, up to the end of a section with a known label. The lines
of sections so far are kept, latest first, until a section ends. -/
def nextFrom (opened : Option Bytes) (kept : List Bytes) :
    List Bytes → Except ArmourError (Option (Section × List Bytes))
  | [] =>
    match opened with
    | some label => .error (.sectionEnd label)
    | none => .ok none
  | line :: rest =>
    if opening.isPrefixOf line then
      match openedLabel line with
      | .ok label => nextFrom (some label) kept rest
      | .error error => .error error
    else
      match opened with
      | none => nextFrom none kept rest
      | some written =>
        if closes written line then
          match label? written with
          | none => nextFrom none [] rest
          | some label =>
            match Base64.decode kept.reverse.flatten with
            | .ok content => .ok (some (⟨label, content⟩, rest))
            | .error error => .error error
        else nextFrom opened (line :: kept) rest

/-- The next section of some lines, and the lines after it. -/
def next (lines : List Bytes) : Except ArmourError (Option (Section × List Bytes)) :=
  nextFrom none [] lines

/-- Fewer lines follow a section than were there before it. -/
theorem length_nextFrom_lt {opened : Option Bytes} {kept lines rest : List Bytes}
    {found : Section} (result : nextFrom opened kept lines = .ok (some (found, rest))) :
    rest.length < lines.length := by
  fun_induction nextFrom opened kept lines <;> simp_all <;> omega

/-- All sections of some lines. -/
def sections (lines : List Bytes) : Except ArmourError (List Section) :=
  match _ : next lines with
  | .error error => .error error
  | .ok none => .ok []
  | .ok (some (found, rest)) => do
    let later ← sections rest
    .ok (found :: later)
termination_by lines.length
decreasing_by exact length_nextFrom_lt ‹_›

/-- The first section that passes a test, with nothing after it being read. -/
def firstSection (test : Label → Bool) (lines : List Bytes) :
    Except ArmourError (Option Section) :=
  match _ : next lines with
  | .error error => .error error
  | .ok none => .ok none
  | .ok (some (found, rest)) =>
    if test found.label then .ok (some found) else firstSection test rest
termination_by lines.length
decreasing_by exact length_nextFrom_lt ‹_›

/-- The contents of all certificates of a text. -/
def certificates (text : Bytes) : Except ArmourError (List Bytes) := do
  let found ← sections (lines text)
  .ok ((found.filter (·.label == .certificate)).map (·.content))

/-- Whether a section holds a private key. -/
def Label.isPrivateKey : Label → Bool
  | .rsaPrivateKey => true
  | .privateKey => true
  | .ecPrivateKey => true
  | _ => false

/-- The first private key of a text. -/
def privateKey (text : Bytes) : Except ArmourError (Option Section) :=
  firstSection Label.isPrivateKey (lines text)

end TunnelBench.Armour
