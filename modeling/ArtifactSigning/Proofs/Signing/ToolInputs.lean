import ArtifactSigning.Proofs.Step
import ArtifactSigning.World

/-!
# Runs that differ in what is written to the tool

Two worlds are the same but for the inputs of the tool if nothing else tells them apart than the
texts that were written to it. Two actions are alike if from every two such worlds they end in the
same way. No action looks at these texts, so each is like itself, and composed actions are alike
where their parts are.
-/
namespace ArtifactSigning

open Step

/-- A call of the tool without the text that is written to it. Whether there is one stays. -/
def ToolCall.withoutInput (call : ToolCall) : ToolCall :=
  { call with input? := call.input?.map fun _ => "" }

namespace World

/-- The surroundings without the texts that were written to the tool. -/
def withoutInputs (w : World) : World :=
  { w with toolCalls := w.toolCalls.map ToolCall.withoutInput }

/-- Nothing but the texts that were written to the tool tells the two apart. -/
def SameButInputs (w w' : World) : Prop := w.withoutInputs = w'.withoutInputs

namespace SameButInputs

variable {w w' : World}

/-- What the worlds have in common besides the calls of the tool. -/
theorem view_eq (h : w.SameButInputs w') (view : World → α)
    (hview : ∀ w, view w.withoutInputs = view w := by intro; rfl) : view w = view w' := by
  rw [← hview w, ← hview w', h]

/-- A change of both worlds that does not look at what was written to the tool. -/
theorem change (h : w.SameButInputs w') (f : World → World)
    (hf : ∀ w, (f w).withoutInputs = f w.withoutInputs := by intro; rfl) :
    (f w).SameButInputs (f w') := by
  rw [SameButInputs, hf, hf, h]

/-- What is found out about the files. -/
theorem onFiles (h : w.SameButInputs w') (view : FileTree → Place → α) :
    view w.files w.workingDirectory = view w'.files w'.workingDirectory :=
  h.view_eq fun w => view w.files w.workingDirectory

theorem withFiles (h : w.SameButInputs w') (files : FileTree) :
    SameButInputs { w with files } { w' with files } := h.change fun w => { w with files }

end SameButInputs

end World

namespace Act

/-- Two ends of actions: with the same result or with the same failure, and in worlds that are the
same but for the inputs of the tool. -/
inductive EndsAlike : EStateM.Result Failure World α → EStateM.Result Failure World α → Prop
  | ok {a : α} {w w' : World} (h : w.SameButInputs w') : EndsAlike (.ok a w) (.ok a w')
  | error {failure : Failure} {w w' : World} (h : w.SameButInputs w') :
      EndsAlike (.error failure w) (.error failure w')

/-- From worlds that are the same but for the inputs of the tool the actions end alike. -/
def Alike (step step' : Act α) : Prop := ∀ w w', w.SameButInputs w' → EndsAlike (step w) (step' w')

section Composition

variable {w w' : World} {step step' : Act α}

theorem alike_pure (a : α) : Alike (pure a) (pure a) := fun _ _ h => .ok h

theorem alike_pure_of_eq {a a' : α} (h : a = a') : Alike (pure a) (pure a') := h ▸ alike_pure a

theorem alike_throw (failure : Failure) : Alike (throw failure : Act α) (throw failure) :=
  fun _ _ h => .error h

theorem alike_ofExcept (outcome : Except Failure α) :
    Alike (ofExcept outcome) (ofExcept outcome) := by
  cases outcome with
  | ok a => exact alike_pure a
  | error failure => exact alike_throw failure

theorem alike_set (h : w.SameButInputs w') : Alike (set w) (set w') := fun _ _ _ => .ok h

/-- A change that does not look at what was written to the tool. -/
theorem alike_modify (f : World → World)
    (hf : ∀ w, (f w).withoutInputs = f w.withoutInputs := by intro; rfl) :
    Alike (modify f) (modify f) := fun _ _ h => .ok (h.change f hf)

theorem Alike.bind {next next' : α → Act β} (h : Alike step step')
    (h' : ∀ a, Alike (next a) (next' a)) : Alike (step >>= next) (step' >>= next') := by
  intro w w' hw
  have hends := h w w' hw
  change EndsAlike (EStateM.bind step next w) (EStateM.bind step' next' w')
  rw [EStateM.bind, EStateM.bind]
  generalize step w = e at hends ⊢
  generalize step' w' = e' at hends ⊢
  cases hends with
  | @ok a v v' hv => exact h' a v v' hv
  | error hv => exact .error hv

/-- An action that looks at the world. -/
theorem Alike.get_bind {next next' : World → Act α}
    (h : ∀ w w', w.SameButInputs w' → Alike (next w) (next' w')) :
    Alike (get >>= next) (get >>= next') := by
  intro w w' hw
  rw [bind_of_ok next (get_eq_ok w), bind_of_ok next' (get_eq_ok w')]
  exact h w w' hw w w' hw

theorem Alike.andFinally {last last' : Act Unit} (h : Alike step step') (h' : Alike last last') :
    Alike (andFinally step last) (andFinally step' last') := by
  intro w w' hw
  have hends := h w w' hw
  rw [Act.andFinally, Act.andFinally]
  generalize step w = e at hends ⊢
  generalize step' w' = e' at hends ⊢
  cases hends with
  | @ok a v v' hv =>
      have hlast := h' v v' hv
      simp only
      generalize last v = e at hlast ⊢
      generalize last' v' = e' at hlast ⊢
      cases hlast with
      | ok hv => exact .ok hv
      | error hv => exact .error hv
  | @error failure v v' hv =>
      have hlast := h' v v' hv
      simp only
      generalize last v = e at hlast ⊢
      generalize last' v' = e' at hlast ⊢
      cases hlast with
      | ok hv => exact .error hv
      | error hv => exact .error hv

theorem alike_report (source : LogSource) (level : LogLevel) (message : String) :
    Alike (report source level message) (report source level message) := alike_modify _

end Composition

section Files

theorem alike_find? (p : Path) : Alike (find? p) (find? p) := by
  refine Alike.get_bind fun w w' h => ?_
  rw [h.onFiles fun files place => files.find? place p]
  exact alike_pure _

theorem alike_pathExists (p : Path) : Alike (pathExists p) (pathExists p) :=
  (alike_find? p).bind fun _ => alike_pure _

theorem alike_isDirectory (p : Path) : Alike (isDirectory p) (isDirectory p) :=
  (alike_find? p).bind fun _ => alike_pure _

theorem alike_onPath (p : Path) (outcome : Except FileRule α) :
    Alike (onPath p outcome) (onPath p outcome) := by
  cases outcome with
  | ok a => exact alike_pure a
  | error rule => exact alike_throw _

theorem alike_changeFiles (p : Path) (change : FileTree → Place → Except FileRule FileTree) :
    Alike (changeFiles p change) (changeFiles p change) := by
  refine Alike.get_bind fun w w' h => ?_
  rw [h.onFiles change]
  exact (alike_onPath p _).bind fun files => alike_set (h.withFiles files)

theorem alike_moveFile (source target : Path) :
    Alike (moveFile source target) (moveFile source target) := by
  refine Alike.get_bind fun w w' h => ?_
  rw [h.onFiles fun files place => files.move place source target]
  split
  · exact alike_set (h.withFiles _)
  · exact alike_throw _

theorem alike_removeIfPresent (p : Path) : Alike (removeIfPresent p) (removeIfPresent p) := by
  refine Alike.get_bind fun w w' h => ?_
  rw [h.onFiles fun files place => files.remove place p]
  split
  · exact alike_set (h.withFiles _)
  · exact alike_pure ()
  · exact alike_throw _

theorem alike_orDirectory (p : Path) (rule : FileRule) :
    Alike (orDirectory p rule) (orDirectory p rule) := by
  refine (alike_isDirectory p).bind fun found => ?_
  split
  · exact alike_pure ()
  · exact alike_throw _

theorem alike_makeDirectories (p : Path) : Alike (makeDirectories p) (makeDirectories p) := by
  induction hnames : p.names.length using Nat.strongRecOn generalizing p with
  | ind n ih =>
      rw [makeDirectories]
      refine Alike.get_bind fun w w' h => ?_
      rw [h.onFiles fun files place => files.makeDirectory place p]
      split
      · exact alike_set (h.withFiles _)
      · split
        · exact alike_throw _
        · rename_i hne
          have hlength : p.parent.names.length < n := by
            have hpos := List.length_pos_iff.2 hne
            rw [Path.parent, List.length_dropLast]
            omega
          refine (ih _ hlength p.parent rfl).bind fun _ => Alike.get_bind fun v v' h => ?_
          rw [h.onFiles fun files place => files.makeDirectory place p]
          split
          · exact alike_set (h.withFiles _)
          · exact alike_throw _
          · exact alike_orDirectory p _
      · exact alike_orDirectory p _

theorem alike_temporaryFor (p : Path) : Alike (temporaryFor p) (temporaryFor p) := by
  have hworking : Alike workingPath workingPath := by
    refine Alike.get_bind fun w w' h => ?_
    rw [h.view_eq World.workingDirectory]
    exact alike_pure _
  refine Alike.bind (hworking.bind fun _ => alike_pure _) fun directory => ?_
  let candidate (number : Nat) := directory.join ⟨.relative, [temporaryName p.name number]⟩
  refine Alike.get_bind fun w w' h => ?_
  have hnumber := h.onFiles fun files place => ((List.range (files.entries.length + 1)).find?
    fun number => (files.find? place (candidate number)).isNone).getD 0
  exact alike_pure_of_eq (congrArg candidate hnumber)

/-- Files are replaced alike if they are filled alike. -/
theorem Alike.replaceBy {work work' : Path → Act α} (p : Path)
    (h : ∀ temporary, Alike (work temporary) (work' temporary)) :
    Alike (replaceBy p work) (replaceBy p work') := by
  refine (alike_makeDirectories p.parent).bind fun _ => (alike_temporaryFor p).bind fun t => ?_
  refine Alike.bind (alike_modify _) fun _ => Alike.andFinally ?_ (alike_removeIfPresent t)
  exact (h t).bind fun a => (alike_moveFile t p).bind fun _ => alike_pure a

end Files

end Act

end ArtifactSigning
