import ArtifactSigning.Armor.Block
import ArtifactSigning.Key.SecretKey
import ArtifactSigning.Packet.Frame
import ArtifactSigning.Text.Utf8

/-!
# Key rings

A ring is a primary key with its subkeys. In a sequence of packets every primary key opens a ring;
user ids belong to the primary key, subkeys to the ring, and a signature to the key or the user id
that it follows. `KeyRing.ofPackets` groups packets into rings, `KeyRing.ofMaterial` reads them from
octets, armored or not, and `KeyRing.select?` picks one key.
-/
namespace ArtifactSigning

structure KeyRing where
  primary : SecretKey
  subkeys : List SecretKey
  deriving DecidableEq, Repr

/-- The tags of packets with a meaning in key rings. -/
def Packet.signatureTag : Nat := 2
def Packet.secretKeyTag : Nat := 5
def Packet.publicKeyTag : Nat := 6
def Packet.secretSubkeyTag : Nat := 7
def Packet.markerTag : Nat := 10
def Packet.userIdTag : Nat := 13
def Packet.publicSubkeyTag : Nat := 14
def Packet.userAttributeTag : Nat := 17
def Packet.paddingTag : Nat := 21

namespace KeyRing

/-- All keys of a ring, the primary key first. -/
def keys (ring : KeyRing) : List SecretKey := ring.primary :: ring.subkeys

/-- A ring to which packets are still added. The user ids and self-signatures of its keys stand in
reverse, the newest first. -/
structure Growing where
  primary : SecretKey
  /-- The subkeys, the newest first. -/
  subkeys : List SecretKey
  /-- Whether signatures now belong to the newest subkey, and not to the primary key. -/
  onSubkey : Bool

namespace Growing

def start (primary : SecretKey) : Growing := ⟨primary, [], false⟩

/-- A key with its user ids and self-signatures in order. -/
def settled (key : SecretKey) : SecretKey :=
  { key with
    userIds := key.userIds.reverse
    selfSignatures := key.selfSignatures.reverse }

def finish (ring : Growing) : KeyRing := ⟨settled ring.primary, (ring.subkeys.map settled).reverse⟩

/-- Adds a self-signature to the key that it follows. -/
def addSignature (ring : Growing) (s : SelfSignature) : Growing :=
  match ring.onSubkey, ring.subkeys with
  | true, subkey :: others =>
      { ring with
        subkeys := { subkey with selfSignatures := s :: subkey.selfSignatures } :: others }
  | _, _ =>
      { ring with
        primary := { ring.primary with selfSignatures := s :: ring.primary.selfSignatures } }

/-- Adds a packet other than a key that opens a ring. -/
def add (ring : Growing) (packet : Packet) : Except Failure Growing :=
  if packet.tag = Packet.secretSubkeyTag then do
    let subkey ← SecretKey.ofBody packet.body true
    return { ring with subkeys := subkey :: ring.subkeys, onSubkey := true }
  else if packet.tag = Packet.userIdTag then
    let text := String.ofList (Text.Utf8.decodeLossy packet.body)
    return { ring with
      primary := { ring.primary with userIds := text :: ring.primary.userIds }
      onSubkey := false }
  else if packet.tag = Packet.userAttributeTag then return { ring with onSubkey := false }
  else if packet.tag = Packet.signatureTag then do
    match ← SelfSignature.ofBody packet.body with
    | none => return ring
    | some s =>
        if s.issuedBy ring.primary.fingerprint ring.primary.keyId then
          return ring.addSignature s
        else return ring
  else return ring

end Growing

/-- The rings that are complete, the newest first, and the one that grows. -/
structure Assembly where
  complete : List KeyRing
  growing? : Option Growing

namespace Assembly

def empty : Assembly := ⟨[], none⟩

/-- All rings, the newest first. -/
def reversed (a : Assembly) : List KeyRing :=
  match a.growing? with
  | none => a.complete
  | some ring => ring.finish :: a.complete

/-- Takes the next packet. Public keys are refused; before the first secret key only marker and
padding packets may stand. -/
def step (a : Assembly) (packet : Packet) : Except Failure Assembly :=
  if packet.tag = Packet.secretKeyTag then do
    let primary ← SecretKey.ofBody packet.body false
    return ⟨a.reversed, some (.start primary)⟩
  else if packet.tag = Packet.publicKeyTag ∨ packet.tag = Packet.publicSubkeyTag then
    .error (.format .publicKey)
  else
    match a.growing? with
    | none =>
        if packet.tag = Packet.markerTag ∨ packet.tag = Packet.paddingTag then return a
        else .error (.format (.unexpectedPacket packet.tag))
    | some ring => return { a with growing? := some (← ring.add packet) }

end Assembly

/-- The rings of the packets at the front of some octets. What stopped the reading counts after the
packets before it. -/
def ofScan (scan : Packet.Scan) : Except Failure (List KeyRing) := do
  let assembly ← scan.packets.foldlM Assembly.step Assembly.empty
  match scan.failure?, assembly.reversed.reverse with
  | some failure, _ => .error failure
  | none, [] => .error (.format .noSecretKey)
  | none, rings => .ok rings

/-- The rings of a sequence of packets. -/
def ofPackets (packets : List Packet) : Except Failure (List KeyRing) := ofScan ⟨packets, none⟩

/-- The octets of key material without its armor. -/
def binary (material : Bytes) : Except Failure Bytes :=
  if Armor.isArmored material then Armor.decodeBytes material else .ok material

/-- The rings in key material. -/
def ofMaterial (material : Bytes) : Except Failure (List KeyRing) := do
  ofScan (Packet.scan (← binary material))

/-- The keys of all rings in order. -/
def allKeys (rings : List KeyRing) : List SecretKey := rings.flatMap keys

/-- The first key with the given fingerprint, or without one the first key with a secret part. -/
def select? (rings : List KeyRing) (fingerprint? : Option Bytes) : Option SecretKey :=
  (allKeys rings).find? fun key =>
    match fingerprint? with
    | some fingerprint => key.fingerprint = fingerprint
    | none => key.hasPrivatePart

end KeyRing

end ArtifactSigning
