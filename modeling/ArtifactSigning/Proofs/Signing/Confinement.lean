import ArtifactSigning.Proofs.File.Confinement
import ArtifactSigning.Proofs.Signing.Embedded
import ArtifactSigning.Proofs.Signing.Steps
import ArtifactSigning.Signing.Backend

/-!
# Signers change their destination alone

A signer is made ready without a change of any file, and signing changes no file but the one that it
is told to write, however it ends. Both signers that settings can name are of this kind: their
credentials are read from files and agents, and the signature takes its place through a temporary
file.
-/
namespace ArtifactSigning

open Step World

/-- A signer that changes no file but the one it is told to write. Directories may be made, and
other things where nothing was. -/
structure Signer.Confined (signer : Signer) : Prop where
  prepare : Respects SameFiles signer.prepare
  sign : ∀ source destination,
    Respects (KeepsBut destination) (signer.sign source (some destination))

/-- A confined signer whose calls, when they succeed, leave a signature of what the source holds at
the destination. -/
structure Signer.Writes (signer : Signer) (IsSignature : Bytes → Bytes → Prop) : Prop
    extends signer.Confined where
  sign_eq_ok : ∀ ⦃source destination path : Path⦄ ⦃w w' : World⦄,
    signer.sign source (some destination) w = .ok path w' →
      path = destination ∧ ∃ document content,
        w.files.read w.workingDirectory source = .ok document ∧
        w'.files.read w'.workingDirectory destination = .ok content ∧
        IsSignature document content

theorem Step.Respects.keepsBut {α : Type} {step : Act α} {p : Path} (h : Respects SameFiles step) :
    Respects (KeepsBut p) step := h.mono fun _ _ => SameFiles.keeps

section Credentials

/-- Asking the loader changes no files. -/
abbrev Loader.KeepsFiles (loader : Loader) : Prop := loader.Respects SameFiles

theorem CredentialSource.keepsFiles (source : CredentialSource) : source.loader.KeepsFiles :=
  CredentialSource.respects_loader (fun _ _ => ⟨rfl, rfl⟩) fun _ _ _ _ =>
    Act.respects_askAgent fun _ _ => ⟨rfl, rfl⟩

/-- None of the loaders changes files. -/
def Resolver.KeepsFiles (resolver : Resolver) : Prop :=
  ∀ loader ∈ resolver.loaders, loader.KeepsFiles

theorem Resolver.KeepsFiles.respects {resolver : Resolver} (h : resolver.KeepsFiles) :
    resolver.Respects SameFiles where
  log _ _ := ⟨rfl, rfl⟩
  consult _ _ _ _ := ⟨rfl, rfl⟩
  loader _ hmem := h _ (List.mem_of_getElem? (Resolver.mem_active_iff.1 hmem).1)

end Credentials

section Embedded

variable {resolver : Resolver}

theorem Embedded.sameFiles_resolvedKey (h : resolver.KeepsFiles) :
    Respects SameFiles (resolvedKey resolver) :=
  respects_resolvedKey h.respects fun _ _ => ⟨rfl, rfl⟩

/-- The embedded signer writes its destination alone if none of its loaders changes files. -/
theorem Embedded.confined (h : resolver.KeepsFiles) : (signer resolver).Confined where
  prepare := respects_prepare h.respects fun _ _ => ⟨rfl, rfl⟩
  sign source destination := by
    have hkeeps : resolver.Respects (KeepsBut destination) :=
      h.respects.mono fun _ _ => SameFiles.keeps
    refine respects_sign hkeeps (fun _ _ => SameFiles.keeps ⟨rfl, rfl⟩) fun path text hpath => ?_
    obtain rfl : destination = path := Except.ok.inj hpath
    exact Act.respects_writeText destination text

/-- The octets of the armored text of a signature of a document. -/
def Embedded.IsArmoredSignature (document content : Bytes) : Prop :=
  ∃ resolved now signature, signatureOf resolved now document = .ok signature ∧
    Act.asciiOctets signature.armored = .ok content

theorem Embedded.writes (h : resolver.KeepsFiles) :
    (signer resolver).Writes IsArmoredSignature where
  toConfined := confined h
  sign_eq_ok source destination path w w' hsign := by
    obtain ⟨resolved, ready, document, signature, written, hresolved, hdestination, -, hdocument,
      hsignature, hwrite, hlog⟩ := Embedded.signBy_eq_ok hsign
    obtain rfl : destination = path := Except.ok.inj hdestination
    obtain ⟨content, hcontent, hread⟩ := Act.read_of_writeText hwrite
    have hsame := (sameFiles_resolvedKey h).of_ok hresolved
    rw [hsame.files, hsame.workingDirectory] at hdocument
    refine ⟨rfl, document, content, hdocument, ?_, resolved, _, signature, hsignature, hcontent⟩
    rw [← hlog]
    exact hread

end Embedded

section Gpg

variable (options : Gpg.Options)

theorem Gpg.sameFiles_prepare : Respects SameFiles (prepare options) :=
  respects_prepare options (fun _ _ => ⟨rfl, rfl⟩) (fun _ => ⟨rfl, rfl⟩) fun _ _ => ⟨rfl, rfl⟩

/-- The signer that runs a tool writes its destination alone. -/
theorem Gpg.confined : (signer options).Confined where
  prepare := sameFiles_prepare options
  sign source destination := by
    have hlog : ∀ w entry, KeepsBut destination w { w with log := w.log ++ [entry] } :=
      fun _ _ => SameFiles.keeps ⟨rfl, rfl⟩
    refine respects_sign options (sameFiles_prepare options).keepsBut ?_
    refine respects_signNow options hlog fun path hpath => ?_
    obtain rfl : destination = path := Except.ok.inj hpath
    refine Act.respects_replaceBy fun temporary => ?_
    exact respects_fill options (fun _ _ => SameFiles.replaces ⟨rfl, rfl⟩) source
      (Act.respects_writeFile_temporary temporary destination)
      fun _ _ _ => SameFiles.replaces ⟨rfl, rfl⟩

end Gpg

/-- Neither of the signers that settings can name changes another file than its destination. -/
theorem Backend.confined (backend : Backend) : backend.signer.Confined := by
  cases backend with
  | gpg options => exact Gpg.confined options
  | embedded credentials =>
      refine Embedded.confined fun loader hmem => ?_
      obtain ⟨source, -, rfl⟩ := List.mem_map.1 hmem
      exact source.keepsFiles

end ArtifactSigning
