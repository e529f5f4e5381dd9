import TunnelBench.FileTree.Basic
import TunnelBench.Tls.Certificate
import TunnelBench.Tls.PrivateKey

/-!
# Identities

A chain of certificates and the private key of the first one. Both sides of a
connection use the same identity.
-/
namespace TunnelBench

/-- Certificates and the key that the first of them is for. -/
structure Identity where
  /-- The certificates, the one of the key first. -/
  chain : List Bytes
  key : KeyPair
  deriving DecidableEq, Repr

namespace Identity

/-- An identity from certificates and a key section; the key is looked at before the first
certificate. -/
def make (chain : List Bytes) (part : Armour.Section) : Except Failure Identity :=
  match chain with
  | [] => .error (.config .emptyChain)
  | first :: _ =>
    match PrivateKey.read? part with
    | none => .error (.identity .key)
    | some key =>
      match Certificate.keyInfo first with
      | .error error => .error (.identity (.certificate error))
      | .ok info =>
        if info = key.publicPart.info then .ok ⟨chain, key⟩ else .error (.identity .mismatch)

/-- What was read, with an armour error as a failure. -/
def armoured {α : Type} : Except ArmourError α → Except Failure α
  | .ok value => .ok value
  | .error error => .error (.io (.armour error))

/-- An identity from the texts of certificates and of a key. -/
def ofTexts (certificates key : Bytes) : Except Failure Identity := do
  let chain ← armoured (Armour.certificates certificates)
  match ← armoured (Armour.privateKey key) with
  | none => .error (.config .noPrivateKey)
  | some part => make chain part

/-- The content of a file. -/
def readFile (tree : FileTree) (path : Bytes) : Except Failure Bytes :=
  match tree.read path with
  | .ok content => .ok content
  | .error error => .error (.file path error)

/-- An identity from files with certificates and a key. -/
def ofFiles (tree : FileTree) (certificates key : Bytes) : Except Failure Identity := do
  let chain ← readFile tree certificates
  let key ← readFile tree key
  ofTexts chain key

end Identity
end TunnelBench
