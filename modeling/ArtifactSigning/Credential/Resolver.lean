import ArtifactSigning.Credential.Loader
import ArtifactSigning.Key.Ring
import ArtifactSigning.Key.Unlock

/-!
# Resolving the signing key

A resolver asks its loaders in order and takes for each credential the first value that one of them
has. The selected key has to hold its private part and must not have expired; only a protected key
needs a passphrase. Loaders that may bother a human are asked only if that is allowed.
-/
namespace ArtifactSigning

/-- The text by which a key is introduced to the user. -/
def SecretKey.describe (key : SecretKey) : String := key.userIds.head?.getD key.fingerprintText

/-- Fails if the validity of a key has ended before an instant. A key that is valid for no seconds
is valid without end. -/
def SecretKey.checkExpiry (key : SecretKey) (now : Rat) : Except Failure Unit :=
  if key.validSeconds = 0 then .ok ()
  else
    let instant := key.created + key.validSeconds
    if (instant : Rat) < now then .error (.expired instant) else .ok ()

/-- Unlocks a key by a passphrase, if it needs one. -/
def ResolvedKey.ofKey (key : SecretKey) (passphrase? : Option RawText) :
    Except Failure ResolvedKey :=
  match h : key.unlock passphrase? with
  | .ok privateKey => .ok ⟨key, privateKey, passphrase?, h⟩
  | .error failure => .error failure

structure Resolver where
  loaders : List Loader
  /-- Whether a human may be bothered. -/
  interactive : Bool
  passphrase? : Option RawText

namespace Resolver

/-- The loaders that may be asked, with their places in the list. -/
def active (r : Resolver) : List (Nat × Loader) :=
  (r.loaders.zipIdx.map fun (loader, i) => (i, loader)).filter fun (_, loader) =>
    r.interactive || !loader.interactive

/-- Notes that a loader is asked for something. -/
def consult (index : Nat) (question : Question) : Act Unit :=
  modify fun w => { w with consulted := w.consulted ++ [(index, question)] }

/-- The first value that a loader has; later ones are not asked. -/
def first? (what : String) (question : Question) (load : Loader → Act (Option α)) :
    List (Nat × Loader) → Act (Option α)
  | [] => return none
  | (index, loader) :: loaders => do
      consult index question
      match ← load loader with
      | some value =>
          Act.debug .credentials s!"Using {what} from {loader.name}"
          return some value
      | none => first? what question load loaders

/-- The key to sign with, which is still locked. -/
def selectKey (r : Resolver) : Act SecretKey := do
  let some material ← first? "key ring material" .material Loader.material r.active
    | throw (.credential .noMaterial)
  let fingerprint? ← first? "key fingerprint" .fingerprint Loader.fingerprint r.active
  let rings ← Act.ofExcept (KeyRing.ofMaterial material)
  let some key := KeyRing.select? rings fingerprint?
    | throw (.credential .noKey)
  unless key.hasPrivatePart do throw (.credential .noPrivateKey)
  return key

/-- The passphrase for a key, if it needs one. -/
def passphraseFor (r : Resolver) (key : SecretKey) : Act (Option RawText) := do
  if key.isEncrypted then
    match r.passphrase? with
    | some passphrase => return some passphrase
    | none =>
        let found? ← first? "passphrase" (.passphrase key.fingerprintText)
          (fun loader => loader.passphrase key) r.active
        match found? with
        | some passphrase => return some passphrase
        | none => throw (.credential .noPassphrase)
  else return none

/-- Selects, checks and unlocks the signing key. -/
def resolve (r : Resolver) : Act ResolvedKey := do
  let key ← r.selectKey
  Act.ofExcept (key.checkExpiry (← get).now)
  let passphrase? ← r.passphraseFor key
  let resolved ← Act.ofExcept (ResolvedKey.ofKey key passphrase?)
  Act.debug .keys s!"Unlocked {key.algorithm.name} key {key.fingerprintText}"
  Act.debug .credentials s!"Selected {key.algorithm.name} key {key.fingerprintText} for signing"
  return resolved

end Resolver

end ArtifactSigning
