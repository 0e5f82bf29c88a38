import ArtifactSigning.Proofs.Armor.Block
import ArtifactSigning.Proofs.Bytes
import ArtifactSigning.Proofs.File.Replacement
import ArtifactSigning.Proofs.Key.Primitives
import ArtifactSigning.Proofs.Signature.Detached
import ArtifactSigning.Proofs.Signature.Fields
import ArtifactSigning.Proofs.Text.Utf8
import ArtifactSigning.Signing.Embedded
import Mathlib.Algebra.Group.Int.Defs

/-!
# Signatures of files

A run signs what it reads with the resolved key, which it keeps for the next run. The file that it
leaves behind is read back as one signature packet over the content of the source, however long that
is and whatever key has been resolved.
-/
namespace ArtifactSigning

open Step

namespace Embedded

variable {operations : PrivateOperations} {resolver : Resolver} {world ready finished : World}
  {resolved : ResolvedKey} {source path : Path} {destination? : Option Path} {document : Bytes}
  {now : Rat}

/-- A resolved key is kept. -/
theorem resolvedKey_eq_ok (h : resolvedKey resolver world = .ok resolved ready) :
    ready.resolved? = some resolved := by
  obtain ⟨_, _, hget, h⟩ := bind_eq_ok.1 h
  cases hget
  cases hsome : world.resolved? with
  | some kept =>
      rw [hsome] at h
      obtain ⟨rfl, rfl⟩ := pure_eq_ok.1 h
      exact hsome
  | none =>
      rw [hsome] at h
      obtain ⟨_, prepared, -, h⟩ := bind_eq_ok.1 h
      obtain ⟨_, _, hget, h⟩ := bind_eq_ok.1 h
      cases hget
      cases hprepared : prepared.resolved? with
      | some found =>
          rw [hprepared] at h
          obtain ⟨rfl, rfl⟩ := pure_eq_ok.1 h
          exact hprepared
      | none =>
          rw [hprepared] at h
          exact absurd h throw_ne_ok

/-- The generator of a signature that has absorbed a document. -/
def generatorOf (resolved : ResolvedKey) (document : Bytes) : SignatureGenerator :=
  SignatureGenerator.update
    ⟨resolved.privateKey, documentKind, .sha512, [0x16, 0x21, 0x04] ++ resolved.key.fingerprint,
      HashAlgorithm.sha512.blockHash.start⟩ document

/-- However a document is cut into pieces, its signature is over the whole of it. -/
theorem signatureBy_eq (operations : PrivateOperations) (resolved : ResolvedKey) (now : Rat)
    (document : Bytes) : signatureBy operations resolved now document =
      (generatorOf resolved document).finishBy (resolved.privateKey.signWith operations)
        (secondsOf now) := by
  rw [signatureBy, Subpacket.issuerFingerprint_eq_ok.2 ⟨SecretKey.length_fingerprint _, rfl⟩]
  have hstart : SignatureGenerator.start resolved.privateKey documentKind HashAlgorithm.sha512.id
      [[0x16, 0x21, 0x04] ++ resolved.key.fingerprint] =
        .ok ⟨resolved.privateKey, documentKind, .sha512,
          [0x16, 0x21, 0x04] ++ resolved.key.fingerprint,
          HashAlgorithm.sha512.blockHash.start⟩ := by
    rw [← List.flatten_singleton (l := [0x16, 0x21, 0x04] ++ resolved.key.fingerprint)]
    rfl
  simp only [bind, Except.bind, hstart, SignatureGenerator.foldl_update,
    flatten_pieces (show chunkSize ≠ 0 by decide)]
  rfl

/-- The body of a packet that signs a document with a key at a second. -/
def IsSignatureBody (operations : PrivateOperations) (resolved : ResolvedKey) (created : Int)
    (document body : Bytes) : Prop :=
  let properties := DetachedSignature.properties created resolved.key.fingerprint
  let header := DetachedSignature.documentHeader resolved.key.algorithm properties
  let digest := DetachedSignature.documentDigest document header
  ∃ fields, body = header ++ [0, 0] ++ digest.take 2 ++ fields ∧
    Carries operations .sha512 digest resolved.privateKey fields

theorem signatureBy_eq_ok {signature : DetachedSignature} (hsizes : operations.FixedSizes)
    (h : signatureBy operations resolved now document = .ok signature) :
    (0 ≤ secondsOf now ∧ secondsOf now < 2 ^ 32) ∧ ∃ body,
      IsSignatureBody operations resolved (secondsOf now) document body ∧
      Packet.Frame ⟨2, body⟩ signature.packet := by
  obtain ⟨passphrase?, hunlock⟩ := resolved.unlocked
  obtain ⟨halgorithm, hcurve⟩ := SecretKey.unlock_eq_ok hunlock
  rw [signatureBy_eq] at h
  obtain ⟨hheader, hdigest, hsign, hframe⟩ := SignatureGenerator.finishBy_eq_ok h
  obtain ⟨hrange, -, -, hform⟩ := SignatureGenerator.header_eq_ok.1 hheader
  have hfront : signature.header = DetachedSignature.documentHeader resolved.key.algorithm
      (DetachedSignature.properties (secondsOf now) resolved.key.fingerprint) := by
    rw [← halgorithm]
    exact hform.symm
  rw [generatorOf, SignatureGenerator.digest_update _ _ _ rfl, hfront] at hdigest
  rw [hfront, hdigest] at hframe
  rw [hdigest] at hsign
  have hhash : HashAlgorithm.forSignature HashAlgorithm.sha512.id = .ok .sha512 := rfl
  exact ⟨hrange, _,
    ⟨signature.fields, rfl, PrivateKey.carries_of_signWith hsizes hcurve hhash hsign⟩, hframe⟩

/-- A document is signed whenever the clock fits its field and the key signs every digest. -/
theorem exists_signatureOf (hrange : 0 ≤ secondsOf now ∧ secondsOf now < 2 ^ 32)
    (hsign : ∀ digest, ∃ fields,
      resolved.privateKey.sign digest HashAlgorithm.sha512.id = .ok fields ∧
        fields.length < 2 ^ 30) (document : Bytes) :
    ∃ signature, signatureOf resolved now document = .ok signature := by
  change ∃ signature, signatureBy .standard resolved now document = .ok signature
  rw [signatureBy_eq]
  have harea : ((generatorOf resolved document).area (secondsOf now)).length = 29 := by
    simp only [generatorOf, SignatureGenerator.update, SignatureGenerator.area, List.length_append,
      List.length_cons, List.length_nil, length_bigEndian,
      SecretKey.length_fingerprint]
  obtain ⟨header, hheader, hfront⟩ : ∃ header,
      (generatorOf resolved document).header (secondsOf now) = .ok header ∧
        header.length = 35 := by
    refine ⟨_, SignatureGenerator.header_eq_ok.2 ⟨hrange, ?_, ?_, rfl⟩, ?_⟩
    · exact (by decide : 0 ≤ documentKind ∧ documentKind ≤ 255)
    · rw [harea]
      decide
    · simp only [List.length_append, List.length_cons, List.length_nil, length_bigEndian, harea]
  obtain ⟨fields, hfields, hlength⟩ := hsign ((generatorOf resolved document).digest header)
  exact SignatureGenerator.exists_finish hheader hfields (by omega)

/-- A run resolves the key, signs what it reads and writes the signature. -/
theorem signBy_eq_ok (h : signBy operations Act.readFile Act.writeFile resolver source destination?
      world = .ok path finished) :
    ∃ resolved ready document signature written,
      resolvedKey resolver world = .ok resolved ready ∧
      Layout.destination source destination? = .ok path ∧ resolved.key.canSign = true ∧
      ready.files.read ready.workingDirectory source = .ok document ∧
      signatureBy operations resolved ready.now document = .ok signature ∧
      Act.writeText path signature.armored ready = .ok () written ∧
      { written with log := finished.log } = finished := by
  obtain ⟨resolved, ready, hresolved, h⟩ := bind_eq_ok.1 h
  obtain ⟨destination, _, hgiven, h⟩ := bind_eq_ok.1 h
  obtain ⟨hdestination, rfl⟩ := Act.ofExcept_eq_ok.1 hgiven
  by_cases hcan : resolved.key.canSign = true
  · rw [if_pos hcan] at h
    obtain ⟨document, _, hread, h⟩ := bind_eq_ok.1 h
    obtain ⟨hdocument, rfl⟩ := Act.readFile_eq_ok.1 hread
    obtain ⟨_, _, hget, h⟩ := bind_eq_ok.1 h
    cases hget
    obtain ⟨signature, _, hmade, h⟩ := bind_eq_ok.1 h
    obtain ⟨hsignature, rfl⟩ := Act.ofExcept_eq_ok.1 hmade
    obtain ⟨_, written, hwrite, h⟩ := bind_eq_ok.1 h
    obtain ⟨_, _, hreport, h⟩ := bind_eq_ok.1 h
    cases hreport
    obtain ⟨rfl, rfl⟩ := pure_eq_ok.1 h
    exact ⟨resolved, _, document, signature, written, hresolved, hdestination, hcan, hdocument,
      hsignature, hwrite, rfl⟩
  · rw [if_neg hcan] at h
    obtain ⟨_, _, hthrow, -⟩ := bind_eq_ok.1 h
    exact absurd hthrow throw_ne_ok

/-- The file that a run leaves behind holds one packet, a signature over the content of the source
with the resolved key, made in the second that the clock showed. It does not matter which operation
makes a signature or a pair of the digest, if only a signature of octets has its size; `sign` is a
run with the operations of this library. -/
theorem packet_of_sign (hsizes : operations.FixedSizes)
    (h : signBy operations Act.readFile Act.writeFile resolver source destination? world =
      .ok path finished) :
    ∃ resolved ready document octets data body,
      resolvedKey resolver world = .ok resolved ready ∧
      (0 ≤ secondsOf ready.now ∧ secondsOf ready.now < 2 ^ 32) ∧
      ready.files.read ready.workingDirectory source = .ok document ∧
      finished.files.read finished.workingDirectory path = .ok octets ∧
      Armor.decodeBytes octets = .ok data ∧ Packet.scan data = ⟨[⟨2, body⟩], none⟩ ∧
      IsSignatureBody operations resolved (secondsOf ready.now) document body := by
  obtain ⟨resolved, ready, document, signature, written, hresolved, -, -, hdocument, hsignature,
    hwrite, hlog⟩ := signBy_eq_ok h
  obtain ⟨hrange, body, hbody, hframe⟩ := signatureBy_eq_ok hsizes hsignature
  obtain ⟨octets, hoctets, hread⟩ := Act.read_of_writeText hwrite
  obtain ⟨hascii, htext⟩ := Act.asciiOctets_eq_ok.1 hoctets
  have hfinished : finished.files.read finished.workingDirectory path = .ok octets := by
    rw [← hlog]
    exact hread
  have hdecode : Armor.decodeBytes octets = .ok signature.packet := by
    rw [Armor.decodeBytes, ← htext, Text.Utf8.decodeLossy_ascii hascii]
    exact Armor.decode_encode _ ⟨by decide, by decide⟩
  have hscan : Packet.scan signature.packet = ⟨[⟨2, body⟩], none⟩ := by
    rw [Packet.scan_complete_iff, ← List.append_nil signature.packet]
    exact .cons hframe .nil
  exact ⟨resolved, ready, document, octets, _, body, hresolved, hrange, hdocument, hfinished,
    hdecode, hscan, hbody⟩

/-- A run keeps the key that it has resolved, and the next run signs with it. -/
theorem resolvedKey_of_sign
    (h : sign resolver source destination? world = .ok path finished) :
    ∃ resolved ready, resolvedKey resolver world = .ok resolved ready ∧
      resolvedKey resolver finished = .ok resolved finished := by
  obtain ⟨resolved, ready, _, _, written, hresolved, -, -, -, -, hwrite, hlog⟩ := signBy_eq_ok h
  have hready := resolvedKey_eq_ok hresolved
  obtain ⟨_, _, rfl⟩ := Act.sameButFiles_of_writeText hwrite
  have hfinished : finished.resolved? = some resolved := by
    rw [← hlog]
    exact hready
  refine ⟨resolved, ready, hresolved, bind_eq_ok.2 ⟨finished, finished, rfl, ?_⟩⟩
  rw [hfinished]
  rfl

/-- A run comes to its end if the key signs, the source can be read and the signature written. -/
theorem sign_ok {signature : DetachedSignature} {written : World}
    (hresolved : resolvedKey resolver world = .ok resolved ready)
    (hdestination : Layout.destination source destination? = .ok path)
    (hcan : resolved.key.canSign = true)
    (hdocument : ready.files.read ready.workingDirectory source = .ok document)
    (hsignature : signatureOf resolved ready.now document = .ok signature)
    (hwrite : Act.writeText path signature.armored ready = .ok () written) :
    ∃ finished, sign resolver source destination? world = .ok path finished := by
  let entry : LogEntry :=
    ⟨.embeddedSigner, .debug, s!"Signed {source.text} -> {path.text}"⟩
  refine ⟨{ written with log := written.log ++ [entry] }, ?_⟩
  refine bind_eq_ok.2 ⟨resolved, ready, hresolved, ?_⟩
  refine bind_eq_ok.2 ⟨path, ready, Act.ofExcept_eq_ok.2 ⟨hdestination, rfl⟩, ?_⟩
  rw [if_pos hcan]
  refine bind_eq_ok.2 ⟨document, ready, Act.readFile_eq_ok.2 ⟨hdocument, rfl⟩, ?_⟩
  refine bind_eq_ok.2 ⟨ready, ready, rfl, ?_⟩
  refine bind_eq_ok.2 ⟨signature, ready, Act.ofExcept_eq_ok.2 ⟨hsignature, rfl⟩, ?_⟩
  exact bind_eq_ok.2 ⟨(), written, hwrite, rfl⟩

/-- A key whose private part is not protected. -/
def openKey : SecretKey where
  algorithm := .ed25519
  created := 0
  publicBody := [4, 0, 0, 0, 0, 27] ++ List.replicate 32 9
  publicPart := .point (List.replicate 32 9)
  protection := .unprotected
  initialVector := []
  secretData := List.replicate 32 1 ++ [0, 32]
  isSubkey := false
  userIds := []
  selfSignatures := []

def openResolvedKey : ResolvedKey where
  key := openKey
  privateKey := ⟨.ed25519, .edwards .ed25519 (List.replicate 32 1)⟩
  unlocked := ⟨none, rfl⟩

/-- A world with one file, in which the key has been resolved before. -/
def keptWorld : World :=
  { World.start ⟨[(["artifact"], .file [1, 2, 3])]⟩ [] 7 ⟨.absent, []⟩ with
    resolved? := some openResolvedKey }

theorem exists_writeText_keptWorld {text : String} (h : ∀ c ∈ text.toList, c.toNat < 0x80) :
    ∃ written, Act.writeText ⟨.relative, ["artifact.asc"]⟩ text keptWorld = .ok () written := by
  have hmake : Act.makeDirectories (Path.parent ⟨.relative, ["artifact.asc"]⟩) keptWorld =
      .ok () keptWorld := by
    rw [Act.makeDirectories]
    rfl
  have hoctets := Act.asciiOctets_eq_ok.2 ⟨h, rfl⟩
  generalize (text.toList.map fun c => UInt8.ofNat c.toNat) = octets at hoctets
  have hchosen : Act.temporaryFor ⟨.relative, ["artifact.asc"]⟩ keptWorld =
      .ok ⟨.slash, ["artifact.asc00000000.tmp"]⟩ keptWorld := rfl
  rw [Act.writeText, Act.writeTextBy, Act.replaceBy]
  simp only [bind, EStateM.bind, hmake, hchosen, hoctets]
  exact ⟨_, rfl⟩

/-- The signature of a file of three octets with a kept key. -/
theorem packet_of_sign_with_kept_key :
    ∃ path finished,
      PrivateOperations.standard.FixedSizes ∧
      sign ⟨[], false, none⟩ ⟨.relative, ["artifact"]⟩ none keptWorld = .ok path finished ∧
      ∃ resolved ready document octets data body,
        resolvedKey ⟨[], false, none⟩ keptWorld = .ok resolved ready ∧
        (0 ≤ secondsOf ready.now ∧ secondsOf ready.now < 2 ^ 32) ∧
        ready.files.read ready.workingDirectory ⟨.relative, ["artifact"]⟩ = .ok document ∧
        finished.files.read finished.workingDirectory path = .ok octets ∧
        Armor.decodeBytes octets = .ok data ∧ Packet.scan data = ⟨[⟨2, body⟩], none⟩ ∧
        IsSignatureBody .standard resolved (secondsOf ready.now) document body := by
  have hsizes := PrivateOperations.fixedSizes_standard
  have hresolved : resolvedKey ⟨[], false, none⟩ keptWorld =
      .ok openResolvedKey keptWorld := rfl
  have hsign : ∀ digest, ∃ fields,
      openResolvedKey.privateKey.sign digest HashAlgorithm.sha512.id = .ok fields ∧
        fields.length < 2 ^ 30 := by
    intro digest
    refine ⟨_, rfl, ?_⟩
    rw [hsizes.length_edwards]
    decide
  obtain ⟨signature, hsignature⟩ : ∃ signature,
      signatureOf openResolvedKey 7 [1, 2, 3] = .ok signature :=
    exists_signatureOf (by decide) hsign _
  have hascii : ∀ c ∈ signature.armored.toList, c.toNat < 0x80 :=
    fun c hc => Armor.ascii_of_mem_encode ⟨by decide, by decide⟩ hc
  obtain ⟨written, hwritten⟩ := exists_writeText_keptWorld hascii
  obtain ⟨finished, hfinished⟩ : ∃ finished, sign ⟨[], false, none⟩ ⟨.relative, ["artifact"]⟩
      none keptWorld = .ok ⟨.relative, ["artifact.asc"]⟩ finished :=
    sign_ok hresolved rfl rfl rfl hsignature hwritten
  exact ⟨_, finished, hsizes, hfinished, packet_of_sign hsizes hfinished⟩

end Embedded

end ArtifactSigning
