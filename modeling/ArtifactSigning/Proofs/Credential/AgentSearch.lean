import ArtifactSigning.Credential.Loader
import ArtifactSigning.Proofs.Agent.Verdict
import ArtifactSigning.Proofs.Signing.Embedded
import ArtifactSigning.Proofs.Text.Separated

/-!
# The search for an agent that has the passphrase

The sockets are tried in their order. An agent that cannot be reached or whose exchange comes to
nothing is passed over; the first other one decides the search, and no later one is contacted. The
search fails only at an agent with which the exchange is disrupted: it no longer takes what is sent,
what it is to be sent has no octets, or its refusal has a code that cannot be read.
-/
namespace ArtifactSigning

open Step

/-- An agent answers at a path. -/
structure World.Reaches (w : World) (path : Path) (peer : Agent.Peer) : Prop where
  short : (Text.Utf8.encode path.text.toList).length ≤ Agent.maxPathLength
  socket : w.agents.lookup path.text = some peer

/-- A text without slashes spells its name, except for nothing and a single dot. -/
theorem Path.ofText_of_name {name : String} (hslash : '/' ∉ name.toList)
    (hname : name ≠ "" ∧ name ≠ ".") : ofText name = ⟨.relative, [name]⟩ := by
  have hroot : rootOf name.toList = .relative := by
    unfold rootOf
    split <;> simp_all
  rw [ofText, hroot, namesOf, Text.separated_of_not_mem hslash]
  simp [hname]

theorem World.reaches_congr {w w' : World} {path : Path} {peer : Agent.Peer}
    (h : w.agents = w'.agents) : w.Reaches path peer ↔ w'.Reaches path peer :=
  ⟨fun hr => ⟨hr.short, h ▸ hr.socket⟩, fun hr => ⟨hr.short, h ▸ hr.socket⟩⟩

namespace AgentSource

variable {source : AgentSource} {key : SecretKey} {w w' w'' : World} {path : Path}
  {paths later : List Path} {passphrase : String} {failure : Failure}

/-- The agent at a path gives a passphrase. -/
def Gives (source : AgentSource) (w : World) (path : Path) (passphrase : String) : Prop :=
  ∃ peer, w.Reaches path peer ∧ peer.Gives source.environment passphrase

/-- The agent at a path refuses the request. -/
def Refuses (source : AgentSource) (w : World) (path : Path) : Prop :=
  ∃ peer, w.Reaches path peer ∧ peer.Refuses source.environment

/-- The agent at a path disrupts the exchange. -/
def Disrupts (source : AgentSource) (w : World) (path : Path) (failure : Failure) : Prop :=
  ∃ peer, w.Reaches path peer ∧ peer.Disrupts source.environment failure

/-- What the search results in if it comes to the agent at a path. -/
inductive Decides (source : AgentSource) (w : World) (path : Path) :
    Except Failure (Option RawText) → Prop
  | gives {passphrase : String} (h : source.Gives w path passphrase) :
      Decides source w path (.ok (some (.ofString passphrase)))
  | refuses (h : source.Refuses w path) : Decides source w path (.ok none)
  | disrupts {failure : Failure} (h : source.Disrupts w path failure) :
      Decides source w path (.error failure)

/-- No agent is reached at a path, or the exchange with it comes to nothing. -/
def PassesOver (source : AgentSource) (w : World) (path : Path) : Prop :=
  ∀ peer, w.Reaches path peer → peer.Fails source.environment

/-- The exchange with the agent at a path, if one is reached. -/
def contact? (source : AgentSource) (key : SecretKey) (agents : List (String × Agent.Peer))
    (path : Path) : Option (String × Option String) :=
  match Agent.reach (agents.lookup path.text) path.text with
  | .ok peer =>
      some (path.text,
        (Agent.converse peer path.text source.environment (source.request key)).sent)
  | .error _ => none

/-- The agents at these paths have been contacted, in this order, and nothing else happened but
reports. -/
def Contacted (source : AgentSource) (key : SecretKey) (paths : List Path) (w w' : World) : Prop :=
  ∃ log, w' = { w with
    agentSent := w.agentSent ++ paths.filterMap (source.contact? key w.agents)
    log := w.log ++ log }

theorem contacted_nil (source : AgentSource) (key : SecretKey) (w : World) :
    source.Contacted key [] w w := ⟨[], by simp⟩

/-- A report changes nothing that counts. -/
theorem Contacted.debug (h : source.Contacted key paths w w') (text : String) :
    ∃ d, Act.debug .loaders text w' = .ok () d ∧ source.Contacted key paths w d := by
  obtain ⟨log, rfl⟩ := h
  exact ⟨_, rfl, log ++ [⟨.loaders, .debug, text⟩], by rw [← List.append_assoc]⟩

theorem Contacted.trans (h : source.Contacted key paths w w')
    (h' : source.Contacted key later w' w'') : source.Contacted key (paths ++ later) w w'' := by
  obtain ⟨log, rfl⟩ := h
  obtain ⟨more, rfl⟩ := h'
  exact ⟨log ++ more, by simp⟩

theorem Contacted.agents (h : source.Contacted key paths w w') : w'.agents = w.agents := by
  obtain ⟨log, rfl⟩ := h
  rfl

theorem Contacted.passesOver_iff (h : source.Contacted key paths w w') :
    source.PassesOver w' path ↔ source.PassesOver w path :=
  forall_congr' fun _ => imp_congr_left (World.reaches_congr h.agents)

theorem Contacted.decides {result : Except Failure (Option RawText)}
    (h : source.Contacted key paths w w') (hresult : source.Decides w path result) :
    source.Decides w' path result := by
  have hreaches (peer) : w.Reaches path peer ↔ w'.Reaches path peer :=
    World.reaches_congr h.agents.symm
  cases hresult with
  | gives hgives =>
      obtain ⟨peer, hpeer, hgives⟩ := hgives
      exact .gives ⟨peer, (hreaches peer).1 hpeer, hgives⟩
  | refuses hrefuses =>
      obtain ⟨peer, hpeer, hrefuses⟩ := hrefuses
      exact .refuses ⟨peer, (hreaches peer).1 hpeer, hrefuses⟩
  | disrupts hdisrupts =>
      obtain ⟨peer, hpeer, hdisrupts⟩ := hdisrupts
      exact .disrupts ⟨peer, (hreaches peer).1 hpeer, hdisrupts⟩

section Asking

variable {peer : Agent.Peer} {environment : Variables} {request : Agent.Request}

theorem reach_eq_ok_iff : Agent.reach (w.agents.lookup path.text) path.text = .ok peer ↔
    w.Reaches path peer := by
  rw [Agent.reach.eq_def]
  split
  · rename_i hlong
    exact ⟨fun h => (nomatch h), fun h => absurd h.short (Nat.not_le.2 hlong)⟩
  · rename_i hshort
    cases hsocket : w.agents.lookup path.text with
    | none => exact ⟨fun h => (nomatch h), fun h => nomatch hsocket.symm.trans h.socket⟩
    | some found =>
        exact ⟨fun h => ⟨Nat.not_lt.1 hshort, hsocket.trans (congrArg some (Except.ok.inj h))⟩,
          fun h => congrArg Except.ok (Option.some.inj (hsocket.symm.trans h.socket))⟩

/-- A path without an agent is a fault, but no refusal. -/
theorem reach_eq_error (h : ∀ peer, ¬w.Reaches path peer) :
    ∃ fault, ¬Agent.IsRefused fault ∧
      Agent.reach (w.agents.lookup path.text) path.text = .error (.agent fault) := by
  cases hreach : Agent.reach (w.agents.lookup path.text) path.text with
  | ok peer => exact absurd (reach_eq_ok_iff.1 hreach) (h peer)
  | error failure =>
      rw [Agent.reach.eq_def] at hreach
      split at hreach
      · cases hreach
        exact ⟨_, by rintro ⟨_, _, ⟨⟩⟩, rfl⟩
      · split at hreach
        · cases hreach
        · cases hreach
          exact ⟨_, by rintro ⟨_, _, ⟨⟩⟩, rfl⟩

/-- Asking an agent that is reached has the result of the exchange. -/
theorem askAgent_of_reaches (source : AgentSource) (key : SecretKey)
    (h : w.Reaches path peer) :
    ∃ d, source.Contacted key [path] w d ∧
      Act.askAgent path.text source.environment (source.request key) w =
        Act.ofExcept
          (Agent.converse peer path.text source.environment (source.request key)).result d := by
  have hreach := reach_eq_ok_iff.2 h
  have hcontact : source.contact? key w.agents path = some (path.text,
      (Agent.converse peer path.text source.environment (source.request key)).sent) := by
    rw [contact?, hreach]
  refine ⟨_, ⟨(Agent.converse peer path.text source.environment (source.request key)).log, rfl⟩, ?_⟩
  rw [Act.askAgent, bind_of_ok _ (get_eq_ok w), hreach, List.filterMap_cons, hcontact]
  rfl

/-- Asking where no agent is reached fails at once. -/
theorem askAgent_of_not_reaches (source : AgentSource) (key : SecretKey)
    (h : ∀ peer, ¬w.Reaches path peer) :
    ∃ fault, ¬Agent.IsRefused fault ∧ source.Contacted key [path] w w ∧
      Act.askAgent path.text source.environment (source.request key) w =
        .error (.agent fault) w := by
  obtain ⟨fault, hfault, hreach⟩ := reach_eq_error h
  refine ⟨fault, hfault, ⟨[], ?_⟩, ?_⟩
  · simp [contact?, hreach]
  · rw [Act.askAgent, bind_of_ok _ (get_eq_ok w), hreach]
    rfl

end Asking

section Searching

/-- A passphrase ends the search. -/
theorem search_of_gives (h : source.Gives w path passphrase) :
    ∃ d, source.search key (path :: later) w = .ok (some (.ofString passphrase)) d ∧
      source.Contacted key [path] w d := by
  obtain ⟨peer, hreaches, hgives⟩ := h
  obtain ⟨d, hd, hask⟩ := askAgent_of_reaches source key hreaches
  rw [Agent.result_of_gives _ _ hgives] at hask
  refine ⟨d, ?_, hd⟩
  simp only [search, hask]
  rfl

/-- A refusal ends the search without a passphrase. -/
theorem search_of_refuses (h : source.Refuses w path) :
    ∃ d, source.search key (path :: later) w = .ok none d ∧
      source.Contacted key [path] w d := by
  obtain ⟨peer, hreaches, hrefuses⟩ := h
  obtain ⟨d, hd, hask⟩ := askAgent_of_reaches source key hreaches
  obtain ⟨_, ⟨line, code, rfl⟩, hresult⟩ := Agent.result_of_refuses path.text (source.request key)
    hrefuses
  rw [hresult] at hask
  obtain ⟨e, hdebug, he⟩ := hd.debug
    s!"gpg-agent at {path.text} gave no passphrase: {(AgentFault.refused line code).message}"
  refine ⟨e, ?_, he⟩
  simp only [search, hask, Act.ofExcept]
  exact bind_of_ok _ hdebug

/-- A disrupted exchange ends the search with its failure. -/
theorem search_of_disrupts (h : source.Disrupts w path failure) :
    ∃ d, source.search key (path :: later) w = .error failure d ∧
      source.Contacted key [path] w d := by
  obtain ⟨peer, hreaches, hdisrupts⟩ := h
  obtain ⟨d, hd, hask⟩ := askAgent_of_reaches source key hreaches
  rw [Agent.result_of_disrupts _ _ hdisrupts] at hask
  refine ⟨d, ?_, hd⟩
  simp only [search, hask]
  cases failure with
  | agent fault => exact absurd rfl (hdisrupts.ne_agent fault)
  | _ => rfl

/-- An agent that is passed over leaves the search to the later ones. -/
theorem search_of_passesOver (key : SecretKey) (h : source.PassesOver w path) :
    ∃ d, source.Contacted key [path] w d ∧
      ∀ later, source.search key (path :: later) w = source.search key later d := by
  obtain ⟨fault, d, hfault, hd, hask⟩ : ∃ fault d, ¬Agent.IsRefused fault ∧
      source.Contacted key [path] w d ∧
        Act.askAgent path.text source.environment (source.request key) w =
          .error (.agent fault) d := by
    by_cases hreaches : ∃ peer, w.Reaches path peer
    · obtain ⟨peer, hreaches⟩ := hreaches
      obtain ⟨d, hd, hask⟩ := askAgent_of_reaches source key hreaches
      obtain ⟨fault, hfault, hresult⟩ := Agent.result_of_fails path.text (source.request key)
        (h peer hreaches)
      rw [hresult] at hask
      exact ⟨fault, d, hfault.not_isRefused, hd, hask⟩
    · obtain ⟨fault, hfault, hd, hask⟩ := askAgent_of_not_reaches source key
        (not_exists.1 hreaches)
      exact ⟨fault, w, hfault, hd, hask⟩
  obtain ⟨e, hdebug, he⟩ := hd.debug s!"gpg-agent at {path.text} unusable: {fault.message}"
  refine ⟨e, he, fun later => ?_⟩
  simp only [search, hask]
  cases fault with
  | refused line code => exact absurd ⟨line, code, rfl⟩ hfault
  | _ => exact bind_of_ok _ hdebug

/-- Agents that are passed over leave the search to the later ones. -/
theorem search_of_passed (key : SecretKey) (passed : List Path)
    (h : ∀ other ∈ passed, source.PassesOver w other) :
    ∃ d, source.Contacted key passed w d ∧
      ∀ later, source.search key (passed ++ later) w = source.search key later d := by
  induction passed generalizing w with
  | nil => exact ⟨w, contacted_nil source key w, fun later => rfl⟩
  | cons path passed ih =>
      obtain ⟨d, hd, hstep⟩ := search_of_passesOver key (h path List.mem_cons_self)
      obtain ⟨e, he, hrest⟩ := ih fun other hother =>
        hd.passesOver_iff.2 (h other (List.mem_cons_of_mem path hother))
      exact ⟨e, hd.trans he, fun later => (hstep _).trans (hrest later)⟩

/-- Either all agents are passed over, or one of them is the first that is not. -/
theorem passed_or_decided (source : AgentSource) (w : World) (paths : List Path) :
    (∀ path ∈ paths, source.PassesOver w path) ∨
      ∃ passed path later, paths = passed ++ path :: later ∧
        (∀ other ∈ passed, source.PassesOver w other) ∧ ¬source.PassesOver w path := by
  induction paths with
  | nil => exact .inl fun path hmem => absurd hmem List.not_mem_nil
  | cons path paths ih =>
      by_cases hpassed : source.PassesOver w path
      · rcases ih with hall | ⟨passed, first, later, rfl, hbefore, hfirst⟩
        · exact .inl (List.forall_mem_cons.2 ⟨hpassed, hall⟩)
        · exact .inr ⟨path :: passed, first, later, rfl,
            List.forall_mem_cons.2 ⟨hpassed, hbefore⟩, hfirst⟩
      · exact .inr ⟨[], path, paths, rfl, fun other hmem => absurd hmem List.not_mem_nil, hpassed⟩

/-- An agent that is not passed over decides the search. -/
theorem decides_of_not_passesOver (h : ¬source.PassesOver w path) :
    ∃ result, source.Decides w path result := by
  by_cases hreaches : ∃ peer, w.Reaches path peer ∧ ¬peer.Fails source.environment
  · obtain ⟨peer, hreaches, hfails⟩ := hreaches
    rcases peer.gives_or source.environment with
      ⟨passphrase, hgives⟩ | hrefuses | ⟨failure, hdisrupts⟩ | hfails'
    · exact ⟨_, .gives ⟨peer, hreaches, hgives⟩⟩
    · exact ⟨_, .refuses ⟨peer, hreaches, hrefuses⟩⟩
    · exact ⟨_, .disrupts ⟨peer, hreaches, hdisrupts⟩⟩
    · exact absurd hfails' hfails
  · exact absurd (fun peer hpeer => Classical.byContradiction fun hfails =>
      hreaches ⟨peer, hpeer, hfails⟩) h

/-- The agent that decides the search ends it. -/
theorem search_of_decides (key : SecretKey) {result : Except Failure (Option RawText)}
    (h : source.Decides w path result) (later : List Path) :
    ∃ d, source.search key (path :: later) w = Act.ofExcept result d ∧
      source.Contacted key [path] w d := by
  cases h with
  | gives h => exact search_of_gives h
  | refuses h => exact search_of_refuses h
  | disrupts h => exact search_of_disrupts h

/-- The search ends at the first agent that is not passed over. -/
theorem search_of_passed_decides (key : SecretKey) {passed : List Path}
    {result : Except Failure (Option RawText)}
    (hpassed : ∀ other ∈ passed, source.PassesOver w other) (h : source.Decides w path result)
    (later : List Path) :
    ∃ e, source.search key (passed ++ path :: later) w = Act.ofExcept result e ∧
      source.Contacted key (passed ++ [path]) w e := by
  obtain ⟨d, hd, hrest⟩ := search_of_passed key passed hpassed
  obtain ⟨e, hend, he⟩ := search_of_decides key (hd.decides h) later
  exact ⟨e, (hrest _).trans hend, hd.trans he⟩

/-- Agents that are all passed over leave the search without a passphrase. -/
theorem search_of_all_passed (key : SecretKey) {paths : List Path}
    (h : ∀ path ∈ paths, source.PassesOver w path) :
    ∃ d, source.search key paths w = .ok none d ∧ source.Contacted key paths w d := by
  obtain ⟨d, hd, hrest⟩ := search_of_passed key paths h
  have hend := hrest []
  rw [List.append_nil] at hend
  exact ⟨d, hend, hd⟩

/-- The search fails exactly if the first agent that is not passed over disrupts it. -/
theorem search_eq_error_iff (key : SecretKey) {paths : List Path} :
    (∃ d, source.search key paths w = .error failure d) ↔
      ∃ passed path later, paths = passed ++ path :: later ∧
        (∀ other ∈ passed, source.PassesOver w other) ∧ source.Disrupts w path failure := by
  constructor
  · rintro ⟨d, hfailed⟩
    rcases passed_or_decided source w paths with hall | ⟨passed, path, later, rfl, hpassed, hpath⟩
    · obtain ⟨_, hend, -⟩ := search_of_all_passed key hall
      cases hend.symm.trans hfailed
    · obtain ⟨result, hresult⟩ := decides_of_not_passesOver hpath
      obtain ⟨_, hend, -⟩ := search_of_passed_decides key hpassed hresult later
      rw [hend] at hfailed
      cases hresult with
      | gives _ => cases hfailed
      | refuses _ => cases hfailed
      | disrupts hdisrupts =>
          cases hfailed
          exact ⟨passed, path, later, rfl, hpassed, hdisrupts⟩
  · rintro ⟨passed, path, later, rfl, hpassed, hdisrupts⟩
    obtain ⟨d, hend, -⟩ := search_of_passed_decides key hpassed (.disrupts hdisrupts) later
    exact ⟨d, hend⟩

end Searching

/-- The search contacts the agents in their order up to the first that is not passed over, and ends
as that one decides. It fails only if the exchange with that one is disrupted, and so because of an
obstacle to sending or of a code that cannot be read. -/
theorem passphrase_by_candidates (source : AgentSource) (key : SecretKey) (w : World) :
    let ask := (CredentialSource.agents source).loader.passphrase key
    (∀ passed path later result, source.paths = passed ++ path :: later →
      (∀ other ∈ passed, source.PassesOver w other) → source.Decides w path result →
        ∃ w', ask w = Act.ofExcept result w' ∧
          source.Contacted key (passed ++ [path]) w w') ∧
    ((∀ path ∈ source.paths, source.PassesOver w path) →
      ∃ w', ask w = .ok none w' ∧ source.Contacted key source.paths w w') ∧
    ∀ failure, ((∃ w', ask w = .error failure w') ↔
      ∃ passed path later, source.paths = passed ++ path :: later ∧
        (∀ other ∈ passed, source.PassesOver w other) ∧ source.Disrupts w path failure) ∧
      ((∃ w', ask w = .error failure w') →
        failure = .invalidValue ∨ Agent.IsObstacle failure) := by
  intro ask
  have hask : ask w = source.search key source.paths w := rfl
  rw [hask]
  refine ⟨fun passed path later result hpaths hpassed hresult => ?_, search_of_all_passed key,
    fun failure => ⟨search_eq_error_iff key, fun hfailed => ?_⟩⟩
  · rw [hpaths]
    exact search_of_passed_decides key hpassed hresult later
  · obtain ⟨_, _, _, -, -, _, -, hdisrupts⟩ := (search_eq_error_iff key).1 hfailed
    exact hdisrupts.invalidValue_or

/-- Three sockets of a user, who has set no terminal. -/
def threeSockets : AgentSource where
  locations := ["first", "second", "third"]
  home := ⟨.slash, ["home"]⟩
  interactive := false
  limit? := none
  environment _ := none
  style := .keyId

/-- An agent that writes lines of text. -/
def agentOf (lines : List String) (ending : Agent.Ending) : Agent.Peer :=
  ⟨Agent.repliesOf (lines.map fun line => Text.Utf8.encode line.toList), ending⟩

/-- Surroundings with these agents. -/
def worldOf (agents : List (String × Agent.Peer)) : World :=
  { World.start .empty [] 0 ⟨.absent, []⟩ with agents := agents }

theorem answers_agentOf {lines : List String} {ending : Agent.Ending}
    (h : ∀ line ∈ lines.map fun line => Text.Utf8.encode line.toList, Agent.lineEnd ∉ line) :
    (agentOf lines ending).answers =
      Agent.answersIn (lines.map fun line => Text.Utf8.encode line.toList) :=
  Agent.answersFrom_repliesOf h

/-- An agent that has the passphrase. -/
def answeringAgent : Agent.Peer := agentOf ["OK", "OK 7A7a"] .close

theorem answeringAgent_gives : answeringAgent.Gives (fun _ => none) "zz" := by
  have hanswers : answeringAgent.answers = ["OK".toList, "OK 7A7a".toList] := by
    rw [answeringAgent, answers_agentOf (by decide)]
    simp only [Agent.answersIn, List.map_cons, List.map_nil, Agent.lineText_encode]
    rfl
  refine ⟨"OK 7A7a".toList,
    ⟨Agent.Peer.sendsAll_of_optionLines_eq_nil (fun _ => rfl) rfl, ?_, ?_⟩, by decide,
    Text.Hex.decode?_eq_some_iff.1 (by decide)⟩
  · rw [hanswers, ← Agent.le_allowance_iff (by decide)]
    decide
  · rw [hanswers]
    rfl

theorem paths_threeSockets : threeSockets.paths =
    [⟨.slash, ["home", "first"]⟩, ⟨.slash, ["home", "second"]⟩, ⟨.slash, ["home", "third"]⟩] := by
  have hnames : threeSockets.locations.filter (· ≠ "") = ["first", "second", "third"] := by decide
  rw [AgentSource.paths, hnames, List.map_cons, List.map_cons, List.map_cons, List.map_nil,
    Path.ofText_of_name (by decide) (by decide), Path.ofText_of_name (by decide) (by decide),
    Path.ofText_of_name (by decide) (by decide)]
  rfl

/-- There is no first agent and the second one does not greet, so the third one is asked. -/
theorem passphrase_of_third_socket :
    let w := worldOf [("/home/second", agentOf ["ERR 1"] .close), ("/home/third", answeringAgent)]
    ∃ w', (CredentialSource.agents threeSockets).loader.passphrase Embedded.openKey w =
        .ok (some (.ofString "zz")) w' ∧
      threeSockets.Contacted Embedded.openKey threeSockets.paths w w' := by
  intro w
  have hfirst : threeSockets.PassesOver w ⟨.slash, ["home", "first"]⟩ :=
    fun peer hpeer => nomatch hpeer.socket
  have hsecond : threeSockets.PassesOver w ⟨.slash, ["home", "second"]⟩ := by
    intro peer hpeer
    obtain rfl : agentOf ["ERR 1"] .close = peer := Option.some.inj hpeer.socket
    refine Agent.Peer.fails_of_not_clears
      (Agent.Peer.sendsAll_of_optionLines_eq_nil (fun _ => rfl) rfl) ?_
    rw [answers_agentOf (by decide), ← Agent.le_allowance_iff (by decide)]
    decide +kernel
  have hthird : threeSockets.Gives w ⟨.slash, ["home", "third"]⟩ "zz" :=
    ⟨answeringAgent, ⟨by decide, rfl⟩, answeringAgent_gives⟩
  have hpassed : ∀ other ∈ [⟨.slash, ["home", "first"]⟩, ⟨.slash, ["home", "second"]⟩],
      threeSockets.PassesOver w other := by
    intro other hmem
    rcases List.mem_cons.1 hmem with rfl | hmem
    · exact hfirst
    · rw [List.mem_singleton.1 hmem]
      exact hsecond
  have hend := (passphrase_by_candidates threeSockets Embedded.openKey w).1 _ _ [] _
    paths_threeSockets hpassed (.gives hthird)
  rw [paths_threeSockets]
  exact hend

/-- A refusal with a superscript for its code, an agent that has closed its side, or one that stays
open and does not read makes the search fail, although the next agent would give a passphrase. -/
theorem passphrase_behind_disruption :
    let ask := (CredentialSource.agents threeSockets).loader.passphrase Embedded.openKey
    (∃ w', ask (worldOf [("/home/first", agentOf ["OK", "ERR ²"] .close),
        ("/home/second", answeringAgent)]) = .error .invalidValue w') ∧
      (∃ w', ask (worldOf [("/home/first", agentOf ["OK"] .hangUp),
        ("/home/second", answeringAgent)]) = .error .brokenPipe w') ∧
      ∃ w', ask (worldOf [("/home/first", agentOf ["OK"] (.stall 0)),
        ("/home/second", answeringAgent)]) = .error .sendTimedOut w' := by
  intro ask
  have hask (w : World) : ask w = threeSockets.search Embedded.openKey threeSockets.paths w := rfl
  simp only [hask, paths_threeSockets]
  have hrefusing : (agentOf ["OK", "ERR ²"] .close).Disrupts (fun _ => none) .invalidValue := by
    have hanswers : (agentOf ["OK", "ERR ²"] .close).answers = ["OK".toList, "ERR ²".toList] := by
      rw [answers_agentOf (by decide)]
      decide +kernel
    have hconcludes : (agentOf ["OK", "ERR ²"] .close).Concludes (fun _ => none)
        "ERR ²".toList := by
      refine ⟨Agent.Peer.sendsAll_of_optionLines_eq_nil (fun _ => rfl) rfl, ?_, ?_⟩
      · rw [hanswers, ← Agent.le_allowance_iff (by decide)]
        decide
      · rw [hanswers]
        rfl
    exact .unreadable hconcludes (by decide) ⟨['²'], by decide +kernel, by decide, by decide⟩
  have hclears (ending : Agent.Ending) : Agent.Clears (agentOf ["OK"] ending).answers 1 := by
    rw [answers_agentOf (by decide), ← Agent.le_allowance_iff (by decide)]
    decide +kernel
  have hclosed : (agentOf ["OK"] .hangUp).Disrupts (fun _ => none) .brokenPipe :=
    .stops ⟨0, by decide, hclears _, rfl, nofun⟩
  have hstalled : (agentOf ["OK"] (.stall 0)).Disrupts (fun _ => none) .sendTimedOut :=
    .stops ⟨0, by decide, hclears _, rfl, nofun⟩
  refine ⟨?_, ?_, ?_⟩
  · exact (search_of_disrupts ⟨_, ⟨by decide, rfl⟩, hrefusing⟩).imp fun _ hend => hend.1
  · exact (search_of_disrupts ⟨_, ⟨by decide, rfl⟩, hclosed⟩).imp fun _ hend => hend.1
  · exact (search_of_disrupts ⟨_, ⟨by decide, rfl⟩, hstalled⟩).imp fun _ hend => hend.1

end AgentSource

end ArtifactSigning
