import ArtifactSigning.Proofs.Signature.Detached

/-!
# Calls of a generator

A generator is asked to absorb chunks and to finish signatures, in any order. A call to finish
leaves it as it was, whether or not the call fails, and where a chunk ends plays no role. So what
comes of finishing depends on the octets alone that were absorbed before, and it is what a new
generator makes of these octets in one piece.
-/
namespace ArtifactSigning

open Step

namespace SignatureGenerator

/-- A call of a generator. -/
inductive Call where
  | update (chunk : Bytes)
  | finish (created : Int)
  deriving DecidableEq

/-- The octets that a call brings. -/
def Call.chunk : Call → Bytes
  | .update chunk => chunk
  | .finish _ => []

/-- The octets that calls bring, in order. -/
def octets (calls : List Call) : Bytes := (calls.map Call.chunk).flatten

section Running

variable (sign : Bytes → Int → Except Failure Bytes) {g : SignatureGenerator}

/-- A call as a step of the generator that is called. A signing operation makes the signatures. -/
def Call.perform : Call → EStateM Failure SignatureGenerator (Option DetachedSignature)
  | .update chunk => do
      modify (·.update chunk)
      return none
  | .finish created => do
      match (← get).finishBy sign created with
      | .ok signature => return some signature
      | .error failure => throw failure

/-- What comes of each of the calls. A call that fails does not keep the others from being made. -/
def answers : List Call → SignatureGenerator → List (Except Failure (Option DetachedSignature))
  | [], _ => []
  | call :: calls, g =>
      outcome (call.perform sign) g :: answers calls (finalState (call.perform sign) g)

@[simp] theorem update_nil (g : SignatureGenerator) : g.update [] = g := rfl

theorem update_append (g : SignatureGenerator) (front back : Bytes) :
    g.update (front ++ back) = (g.update front).update back := by
  simp only [update, BlockHash.Context.update_append]

theorem outcome_finish (created : Int) (g : SignatureGenerator) :
    outcome ((Call.finish created).perform sign) g = (g.finishBy sign created).map some := by
  rw [Call.perform, outcome, bind_of_ok _ (get_eq_ok g)]
  cases g.finishBy sign created <;> rfl

/-- However a call ends, the generator has absorbed what the call brings, and nothing else. -/
theorem finalState_perform (call : Call) (g : SignatureGenerator) :
    finalState (call.perform sign) g = g.update call.chunk := by
  cases call with
  | update chunk => rfl
  | finish created =>
    rw [Call.perform, finalState_get_bind, Call.chunk, update_nil]
    cases g.finishBy sign created <;> rfl

theorem length_answers (calls : List Call) (g : SignatureGenerator) :
    (answers sign calls g).length = calls.length := by
  induction calls generalizing g with
  | nil => rfl
  | cons call calls ih => simp [answers, ih]

/-- Later calls find the generator that has absorbed what the earlier ones have brought. -/
theorem answers_append (before later : List Call) (g : SignatureGenerator) :
    answers sign (before ++ later) g =
      answers sign before g ++ answers sign later (g.update (octets before)) := by
  induction before generalizing g with
  | nil => rfl
  | cons call before ih =>
    rw [List.cons_append, answers, answers, ih, finalState_perform, ← update_append]
    rfl

theorem answers_finish (before after : List Call) (created : Int) (g : SignatureGenerator) :
    (answers sign (before ++ .finish created :: after) g)[before.length]? =
      some (((g.update (octets before)).finishBy sign created).map some) := by
  have hle : (answers sign before g).length ≤ before.length :=
    Nat.le_of_eq (length_answers sign before g)
  rw [answers_append, List.getElem?_append_right hle, length_answers, Nat.sub_self, answers,
    List.getElem?_cons_zero, outcome_finish]

end Running

/-- Whatever the calls before and after it are, a call to finish is answered as by the new generator
that has absorbed, in one call, the octets that came before; a signature is over the digest of these
octets, its header and the trailer. -/
theorem finish_by_octets {key : PrivateKey} {kind hashId : Int} {properties : List Bytes}
    {g : SignatureGenerator} (hstart : start key kind hashId properties = .ok g)
    (sign : Bytes → Int → Except Failure Bytes) (before after : List Call) (created : Int) :
    ∃ answer, (answers sign (before ++ .finish created :: after) g)[before.length]? = some answer ∧
      answers sign [.update (octets before), .finish created] g = [.ok none, answer] ∧
      ∀ s, answer = .ok (some s) → sign s.digest g.hash.id = .ok s.fields ∧
        s.digest = g.hash.hash
          (octets before ++ s.header ++ [0x04, 0xFF] ++ bigEndian 4 s.header.length) := by
  refine ⟨_, answers_finish sign before after created g, ?_, ?_⟩
  · rw [answers, answers, answers, finalState_perform, outcome_finish]
    rfl
  · intro s hs
    have hfinish : (g.update (octets before)).finishBy sign created = .ok s := by
      cases hresult : (g.update (octets before)).finishBy sign created with
      | error failure => simp [hresult, Except.map] at hs
      | ok s' => simpa [hresult, Except.map] using hs
    obtain ⟨-, hdigest, hsign, -⟩ := finishBy_eq_ok hfinish
    have hnew : g.context = g.hash.blockHash.start := by
      obtain ⟨hash, -, h⟩ := except_bind_eq_ok.1 hstart
      obtain rfl := Except.ok.inj h
      rfl
    exact ⟨hsign, hdigest.trans (digest_update g _ _ hnew)⟩

/-- An empty chunk and two calls to finish lie between the octets; one of these fails. -/
theorem finish_by_octets_amid_calls :
    ∃ g answer, start ⟨.ed25519, .edwards .ed25519 (List.replicate 32 1)⟩ 0
        HashAlgorithm.sha512.id [] = .ok g ∧
      (answers (fun digest _ => .ok digest) [.update [1], .finish (-1), .update [], .finish 5,
        .update [2, 3], .finish 7, .update [4]] g)[5]? = some answer ∧
      answers (fun digest _ => .ok digest) [.update [1, 2, 3], .finish 7] g =
        [.ok none, answer] := by
  let key : PrivateKey := ⟨.ed25519, .edwards .ed25519 (List.replicate 32 1)⟩
  have hstart : start key 0 HashAlgorithm.sha512.id [] =
      .ok ⟨key, 0, .sha512, [], HashAlgorithm.sha512.blockHash.start⟩ := rfl
  obtain ⟨answer, hmidst, hnew, -⟩ := finish_by_octets hstart (fun digest _ => .ok digest)
    [.update [1], .finish (-1), .update [], .finish 5, .update [2, 3]] [.update [4]] 7
  exact ⟨_, answer, hstart, hmidst, hnew⟩

end SignatureGenerator

end ArtifactSigning
