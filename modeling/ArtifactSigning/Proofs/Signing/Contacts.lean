import ArtifactSigning.Proofs.File.Keeping
import ArtifactSigning.Signing.Batch

/-!
# Whom a signer turns to

The world records which loaders are asked, what is written to agents and how the tool is run, and
it counts how often a human is asked. Calls of a signer only add to the records. What each call may
add, a whole sequence of calls may add, whatever else happens between them.
-/
namespace ArtifactSigning

open Step

/-- Entries of one kind have been added at the end. -/
def Extends {α : Type} (p : α → Prop) (before after : List α) : Prop :=
  ∃ added, after = before ++ added ∧ ∀ entry ∈ added, p entry

namespace Extends

variable {α : Type} {p q : α → Prop} {before middle after : List α}

theorem refl (p : α → Prop) (entries : List α) : Extends p entries entries :=
  ⟨[], (List.append_nil entries).symm, fun _ hmem => absurd hmem List.not_mem_nil⟩

theorem concat {entry : α} (entries : List α) (h : p entry) :
    Extends p entries (entries ++ [entry]) :=
  ⟨[entry], rfl, fun _ hmem => List.mem_singleton.1 hmem ▸ h⟩

theorem trans (h : Extends p before middle) (h' : Extends p middle after) :
    Extends p before after := by
  obtain ⟨added, rfl, hadded⟩ := h
  obtain ⟨more, rfl, hmore⟩ := h'
  exact ⟨added ++ more, List.append_assoc _ _ _, List.forall_mem_append.2 ⟨hadded, hmore⟩⟩

theorem mono (h : Extends p before after) (himp : ∀ entry, p entry → q entry) :
    Extends q before after :=
  h.imp fun _ hadded => ⟨hadded.1, fun entry hmem => himp entry (hadded.2 entry hmem)⟩

end Extends

/-- The contacts that are allowed, apart from asking a human. -/
structure Contacts where
  /-- Asking the loader at a place in the list. -/
  asks : Nat × Question → Prop
  /-- Writing to the agent at a path. -/
  writes : String × Option String → Prop
  /-- Running the tool. -/
  runs : ToolCall → Prop

/-- Running the tool alone. -/
def Contacts.tool (runs : ToolCall → Prop) : Contacts where
  asks _ := False
  writes _ := False
  runs := runs

/-- No contacts at all. -/
def Contacts.none : Contacts := .tool fun _ => False

namespace World

/-- How often a human was asked, and the records. -/
def contacted (w : World) :
    Nat × List (Nat × Question) × List (String × Option String) × List ToolCall :=
  (w.prompts, w.consulted, w.agentSent, w.toolCalls)

/-- No human has been asked, and all contacts have been allowed ones. -/
structure StaysWithin (contacts : Contacts) (before after : World) : Prop where
  prompts : after.prompts = before.prompts
  consulted : Extends contacts.asks before.consulted after.consulted
  agentSent : Extends contacts.writes before.agentSent after.agentSent
  toolCalls : Extends contacts.runs before.toolCalls after.toolCalls

namespace StaysWithin

variable {contacts contacts' : Contacts} {w w' : World}

theorem of_contacted (contacts : Contacts) (h : w'.contacted = w.contacted) :
    w.StaysWithin contacts w' := by
  obtain ⟨hprompts, hrest⟩ := Prod.mk.inj h
  obtain ⟨hconsulted, hrest⟩ := Prod.mk.inj hrest
  obtain ⟨hsent, hcalls⟩ := Prod.mk.inj hrest
  exact ⟨hprompts, hconsulted ▸ .refl _ _, hsent ▸ .refl _ _, hcalls ▸ .refl _ _⟩

instance (contacts : Contacts) : IsPreorder World (StaysWithin contacts) where
  refl _ := of_contacted contacts rfl
  trans _ _ _ h h' :=
    ⟨h'.prompts.trans h.prompts, h.consulted.trans h'.consulted, h.agentSent.trans h'.agentSent,
      h.toolCalls.trans h'.toolCalls⟩

theorem mono (h : w.StaysWithin contacts w')
    (hasks : ∀ note, contacts.asks note → contacts'.asks note)
    (hwrites : ∀ sent, contacts.writes sent → contacts'.writes sent)
    (hruns : ∀ call, contacts.runs call → contacts'.runs call) : w.StaysWithin contacts' w' :=
  ⟨h.prompts, h.consulted.mono hasks, h.agentSent.mono hwrites, h.toolCalls.mono hruns⟩

end StaysWithin

end World

/-- What can be asked of a signer. -/
inductive SignerCall where
  | prepare
  | describe
  | sign (source : Path) (destination? : Option Path)
  deriving DecidableEq, Repr

/-- Makes a call, whose result does not count. -/
def Signer.perform (signer : Signer) : SignerCall → Act Unit
  | .prepare => signer.prepare
  | .describe => do
      let _ ← signer.describe
      return
  | .sign source destination? => do
      let _ ← signer.sign source destination?
      return

/-- Calls of a signer one after the other, whether or not they fail. Before each of them everything
but the records may change: files, agents, the tool and the clock. -/
inductive Signer.Runs (signer : Signer) (u : World) : World → Prop
  | start : Runs signer u u
  | call {v v' : World} (call : SignerCall) (h : Runs signer u v)
      (hrecords : v'.contacted = v.contacted) :
      Runs signer u (finalState (signer.perform call) v')

/-- What every call may add, the whole run may add. -/
theorem Signer.Runs.staysWithin {signer : Signer} {contacts : Contacts} {u v : World}
    (hcalls : ∀ call, Respects (World.StaysWithin contacts) (signer.perform call))
    (h : signer.Runs u v) : u.StaysWithin contacts v := by
  induction h with
  | start => exact refl_of (World.StaysWithin contacts) u
  | call call _ hrecords ih =>
      have hbetween := World.StaysWithin.of_contacted contacts hrecords
      exact trans_of (World.StaysWithin contacts) ih
        (trans_of (World.StaysWithin contacts) hbetween (hcalls call _))

end ArtifactSigning
