import ArtifactSigning.Key.Primitives
import ArtifactSigning.Packet.Cursor

/-!
# From a passphrase to a cipher key

A string-to-key specifier says how the octets of a passphrase are hashed: alone, behind a salt, or
as a long repetition of salt and passphrase. `StringToKey.deriveKey` takes the key from the digests
of these octets behind no zero octet, one, two and so on. Placeholders for keys kept elsewhere are
specifiers too, from which nothing can be derived.
-/
namespace ArtifactSigning

inductive StringToKey where
  | simple (hash : Int)
  | salted (hash : Int) (salt : Bytes)
  /-- Hashes `count` octets of the repeated salt and passphrase, and each at least once. -/
  | iterated (hash : Int) (salt : Bytes) (count : Nat)
  /-- The private part is absent; the mode says why. -/
  | placeholder (hash : Int) (mode : Nat)
  /-- A kind that no rule is known for. -/
  | reserved (kind hash : Int)
  deriving DecidableEq, Repr

/-- The number of octets hashed at a time when salt and passphrase are repeated. -/
def repetitionBlock : Nat := 64 * 1024

/-- The first `count` octets of the endless repetition of some octets. -/
def repeatTo (count : Nat) (bytes : Bytes) : Bytes :=
  (List.replicate (count / bytes.length) bytes).flatten ++ bytes.take (count % bytes.length)

/-- Absorbs the first `count` octets of the endless repetition of some octets, by large blocks of
whole repetitions as long as they last. -/
def BlockHash.Context.updateRepeated {h : BlockHash} (c : Context h) (count : Nat)
    (bytes : Bytes) : Context h :=
  if bytes.isEmpty then c
  else
    let block := (List.replicate (max 1 (repetitionBlock / bytes.length)) bytes).flatten
    let c := Nat.repeat (·.update block) (count / block.length) c
    c.update (repeatTo (count % block.length) bytes)

namespace StringToKey

/-- The number of octets that the coded form of a count stands for. -/
def decodeCount (coded : Nat) : Nat := (16 + coded % 16) <<< (coded / 16 + 6)

/-- The number of octets that any number stands for by the same rule: its remainder modulo 16 gives
the leading digits, its quotient the digits that follow, of which there must not be less than
none. -/
def decodeSignedCount (coded : Int) : Except Failure Nat :=
  let width := coded.fdiv 16 + 6
  if width < 0 then .error .invalidValue
  else .ok ((16 + (coded.fmod 16).toNat) <<< width.toNat)

def kind : StringToKey → Int
  | .simple _ => 0
  | .salted .. => 1
  | .iterated .. => 3
  | .placeholder .. => 101
  | .reserved kind _ => kind

def hash : StringToKey → Int
  | .simple hash | .salted hash _ | .iterated hash _ _ | .placeholder hash _
  | .reserved _ hash => hash

def salt : StringToKey → Bytes
  | .salted _ salt | .iterated _ salt _ => salt
  | .simple _ | .placeholder .. | .reserved .. => []

def count : StringToKey → Nat
  | .iterated _ _ count => count
  | .simple _ | .salted .. | .placeholder .. | .reserved .. => 0

def mode? : StringToKey → Option Nat
  | .placeholder _ mode => some mode
  | .simple _ | .salted .. | .iterated .. | .reserved .. => none

/-- Whether the specifier stands for a private part that is kept nowhere or on a card. -/
def isStub : StringToKey → Bool
  | .placeholder _ mode => mode = 1 ∨ mode = 2
  | .simple _ | .salted .. | .iterated .. | .reserved .. => false

/-- The three octets that mark a placeholder. -/
def placeholderMark : Bytes := [0x47, 0x4E, 0x55]

/-- Reads a specifier. -/
def read : Reading StringToKey := do
  let kind ← Reading.octet
  match kind.toNat with
  | 0 => return .simple (← Reading.number 1)
  | 1 => return .salted (← Reading.number 1) (← Reading.take 8)
  | 3 =>
      let hash ← Reading.number 1
      let salt ← Reading.take 8
      return .iterated hash salt (decodeCount (← Reading.number 1))
  | 101 =>
      let hash ← Reading.number 1
      if (← Reading.take 3) = placeholderMark then
        return .placeholder hash (← Reading.number 1)
      else throw (.unsupported .specifierExtension)
  | kind => throw (.unsupported (.specifier kind))

/-- How the passphrase goes into a hash context, if the kind has a rule. -/
def feed {h : BlockHash} (specifier : StringToKey) (passphrase : Bytes)
    (c : BlockHash.Context h) : Except Failure (BlockHash.Context h) :=
  match specifier with
  | .simple _ => .ok (c.update passphrase)
  | .salted _ salt => .ok (c.update (salt ++ passphrase))
  | .iterated _ salt count =>
      let bytes := salt ++ passphrase
      .ok (c.updateRepeated (max count bytes.length) bytes)
  | .placeholder .. | .reserved .. => .error (.unsupported (.derivation specifier.kind))

/-- The digest of the passphrase behind `zeros` zero octets. -/
def digestBehind (primitives : Primitives) (specifier : StringToKey) (hash : HashAlgorithm)
    (passphrase : Bytes) (zeros : Nat) : Except Failure Bytes := do
  let c := (primitives.blockHash hash).start.update (List.replicate zeros 0)
  return (← specifier.feed passphrase c).digest

/-- The first `size` octets of the digests of the passphrase behind no zero octet, one, two and so
on. An empty key needs no digest, whatever the specifier. -/
def deriveKeyWith (primitives : Primitives) (specifier : StringToKey) (passphrase : Bytes)
    (size : Nat) : Except Failure Bytes :=
  if size = 0 then .ok []
  else do
    let hash ← HashAlgorithm.ofId specifier.hash
    let count := (size + hash.size - 1) / hash.size
    let digests ← (List.range count).mapM (specifier.digestBehind primitives hash passphrase)
    return digests.flatten.take size

def deriveKey (specifier : StringToKey) (passphrase : Bytes) (size : Nat) :
    Except Failure Bytes :=
  specifier.deriveKeyWith .standard passphrase size

end StringToKey

end ArtifactSigning
