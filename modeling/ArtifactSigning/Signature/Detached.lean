import ArtifactSigning.Armor.Block
import ArtifactSigning.Key.PrivateKey
import ArtifactSigning.Packet.Frame

/-!
# Detached signatures

A generator absorbs the octets of a document and can at any time be asked for a signature of what it
has absorbed so far; asking does not end it. The signature is over the document, the header with the
signed properties, and a trailer with the length of the header.
-/
namespace ArtifactSigning

/-- A finished signature. -/
structure DetachedSignature where
  created : Int
  /-- The signed part of the packet body: version, kind, algorithms and hashed properties. -/
  header : Bytes
  digest : Bytes
  /-- What the private key made of the digest. -/
  fields : Bytes
  packet : Bytes
  deriving DecidableEq, Repr

namespace DetachedSignature

/-- The packet body up to the first two octets of the digest; the area of unsigned properties is
empty. -/
def front (header digest : Bytes) : Bytes := header ++ [0, 0] ++ digest.take 2

/-- The signature as armored text. -/
def armored (s : DetachedSignature) : String := Armor.encode s.packet "SIGNATURE" []

end DetachedSignature

/-- A document being signed. -/
structure SignatureGenerator where
  key : PrivateKey
  kind : Int
  hash : HashAlgorithm
  /-- The properties after the creation time, already encoded. -/
  properties : Bytes
  context : hash.blockHash.Context

namespace SignatureGenerator

/-- A generator for an empty document. -/
def start (key : PrivateKey) (kind hashId : Int) (properties : List Bytes) :
    Except Failure SignatureGenerator := do
  let hash ← HashAlgorithm.ofId hashId
  return ⟨key, kind, hash, properties.flatten, hash.blockHash.start⟩

/-- Absorbs more of the document. -/
def update (g : SignatureGenerator) (bytes : Bytes) : SignatureGenerator :=
  { g with context := g.context.update bytes }

/-- The version of the packets, and of the trailer. -/
def version : UInt8 := 4

/-- The signed part of the packet body. -/
def header (g : SignatureGenerator) (created : Int) : Except Failure Bytes := do
  let properties := (← Subpacket.creationTime created) ++ g.properties
  if g.kind < 0 ∨ 255 < g.kind then throw .invalidValue
  if 0x10000 ≤ properties.length then throw .fieldOverflow
  return [version, UInt8.ofNat g.kind.toNat, UInt8.ofNat g.key.algorithm.id,
    UInt8.ofNat g.hash.id] ++ bigEndian 2 properties.length ++ properties

/-- What is hashed behind the document. -/
def trailer (header : Bytes) : Bytes := header ++ version :: 0xFF :: bigEndian 4 header.length

/-- The digest that is signed. -/
def digest (g : SignatureGenerator) (header : Bytes) : Bytes :=
  (g.context.update (trailer header)).digest

/-- What a signing operation makes of a digest. -/
def signedFieldsBy (sign : Bytes → Int → Except Failure Bytes) (g : SignatureGenerator)
    (digest : Bytes) : Except Failure Bytes :=
  match sign digest g.hash.id with
  | .error .invalidValue => .error .signatureComputation
  | result => result

/-- A signature of the document so far, made at the given second by a signing operation. -/
def finishBy (sign : Bytes → Int → Except Failure Bytes) (g : SignatureGenerator) (created : Int) :
    Except Failure DetachedSignature := do
  let header ← g.header created
  let digest := g.digest header
  let fields ← g.signedFieldsBy sign digest
  let packet ← Packet.encode 2 (DetachedSignature.front header digest ++ fields)
  return { created, header, digest, fields, packet }

/-- A signature of the document so far, made at the given second. -/
def finish (g : SignatureGenerator) : Int → Except Failure DetachedSignature :=
  g.finishBy g.key.sign

end SignatureGenerator

end ArtifactSigning
