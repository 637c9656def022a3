/-
No agent is shut out.

Whatever agents, strangers and the server have done so far, there is a way for
every agent to go through the rest of its entities, in which each entity that
the host knows, and whose connection and files do not fail, is given its
credentials.  No two agents of one guest share a client port, so an agent finds
its own port free, needs nobody but the server, and the ways of all agents can be
gone one after the other.
-/

import AuthScope.Network.Separation

set_option autoImplicit false

namespace AuthScope

open ByteText EffectLog ByteStream FileSystem StateMachine

variable {κ : Type} {libs : Libraries κ} {rcgen : RequestLibraries κ} {config : HostConfig}
  {ca : CertificateAuthority}

structure Agent.GoesOn (agent later : Agent) : Prop where
  config : later.config = agent.config
  cid : later.cid = agent.cid
  records : agent.records <+: later.records
  alive : agent.phase ≠ .aborted → later.phase ≠ .aborted
  reliable : agent.disk.Reliable → later.disk.Reliable

theorem Agent.GoesOn.refl (agent : Agent) : agent.GoesOn agent :=
  ⟨rfl, rfl, List.prefix_refl _, id, id⟩

theorem Agent.GoesOn.trans {first middle last : Agent} (head : first.GoesOn middle)
    (tail : middle.GoesOn last) : first.GoesOn last where
  config := tail.config.trans head.config
  cid := tail.cid.trans head.cid
  records := head.records.trans tail.records
  alive := fun before => tail.alive (head.alive before)
  reliable := fun before => tail.reliable (head.reliable before)

theorem Agent.GoesOn.ended (agent : Agent) (rest : List EntityEntry) {nonces : Nonces}
    {disk : Disk} (entity : EntityEntry) (ending : Ending)
    (kept : agent.disk.Reliable → disk.Reliable) :
    agent.GoesOn
      ({ agent with pending := rest, nonces := nonces, disk := disk }.ended entity ending) where
  config := rfl
  cid := rfl
  records := List.prefix_append _ _
  alive := by simp [Agent.ended]
  reliable := kept

variable (libs rcgen) in
theorem Agent.begin_goesOn (env : ExchangeEnvironment) (link : Nat) (agent : Agent) :
    agent.GoesOn (agent.begin libs rcgen env link).1 := by
  cases phase : agent.phase with
  | idle =>
      cases pending : agent.pending with
      | nil =>
          simp only [Agent.begin, phase, pending]
          exact GoesOn.refl agent
      | cons entity rest =>
          rcases agent.begin_cases libs rcgen env link phase pending with
            ⟨report, _, step⟩ | ⟨generated, _, ⟨report, _, step⟩ | ⟨_, step⟩⟩
          · rw [step]
            exact GoesOn.ended agent rest entity _ id
          · rw [step]
            exact GoesOn.ended agent rest entity _ id
          · rw [step]
            exact ⟨rfl, rfl, List.prefix_refl _, by simp, id⟩
  | receiving entity generated link stream =>
      simp only [Agent.begin, phase]
      exact GoesOn.refl agent
  | storing entity generated certPem caCertPem =>
      simp only [Agent.begin, phase]
      exact GoesOn.refl agent
  | aborted =>
      simp only [Agent.begin, phase]
      exact GoesOn.refl agent

variable (libs) in
theorem Agent.receive_goesOn (chunks : List Bytes) (endMessage : String) (agent : Agent) :
    agent.GoesOn (agent.receive libs chunks endMessage) := by
  cases phase : agent.phase with
  | receiving entity generated link stream =>
      rcases agent.receive_cases libs chunks endMessage phase with
        ⟨certPem, caCertPem, _, step⟩ | ⟨message, _, step⟩ | ⟨report, _, step⟩
      · rw [step]
        exact ⟨rfl, rfl, List.prefix_refl _, by simp, id⟩
      · rw [step]
        exact GoesOn.ended agent agent.pending entity _ id
      · rw [step]
        exact GoesOn.ended agent agent.pending entity _ id
  | idle =>
      simp only [Agent.receive, phase]
      exact GoesOn.refl agent
  | storing entity generated certPem caCertPem =>
      simp only [Agent.receive, phase]
      exact GoesOn.refl agent
  | aborted =>
      simp only [Agent.receive, phase]
      exact GoesOn.refl agent

/-- A store leaves a reliable disk reliable, whether it succeeds or not. -/
theorem Agent.store_goesOn (agent : Agent) : agent.GoesOn agent.store := by
  cases phase : agent.phase with
  | storing entity generated certPem caCertPem =>
      have triple := staysReliable_storeEntityCredentials entity certPem generated.keyPem caCertPem
      rcases agent.store_cases phase with ⟨exit, step⟩ | ⟨report, exit, step⟩
      · rw [step]
        exact GoesOn.ended agent agent.pending entity _ fun reliable =>
          triple.returned reliable exit
      · rw [step]
        exact GoesOn.ended agent agent.pending entity _ fun reliable =>
          triple.failed reliable exit
  | idle =>
      simp only [Agent.store, phase]
      exact GoesOn.refl agent
  | receiving entity generated link stream =>
      simp only [Agent.store, phase]
      exact GoesOn.refl agent
  | aborted =>
      simp only [Agent.store, phase]
      exact GoesOn.refl agent

structure AgentsGoOn (before after : List Agent) : Prop where
  length : after.length = before.length
  each : ∀ (index : Nat) (agent : Agent), before[index]? = some agent →
    ∃ later : Agent, after[index]? = some later ∧ agent.GoesOn later

theorem AgentsGoOn.refl (agents : List Agent) : AgentsGoOn agents agents :=
  ⟨rfl, fun _ agent present => ⟨agent, present, .refl agent⟩⟩

theorem AgentsGoOn.trans {first middle last : List Agent} (head : AgentsGoOn first middle)
    (tail : AgentsGoOn middle last) : AgentsGoOn first last := by
  refine ⟨tail.length.trans head.length, ?_⟩
  intro index agent present
  obtain ⟨between, betweenPresent, early⟩ := head.each index agent present
  obtain ⟨later, laterPresent, late⟩ := tail.each index between betweenPresent
  exact ⟨later, laterPresent, early.trans late⟩

theorem AgentsGoOn.set {agents : List Agent} {stepped : Nat} {old new : Agent}
    (present : agents[stepped]? = some old) (goesOn : old.GoesOn new) :
    AgentsGoOn agents (agents.set stepped new) := by
  refine ⟨List.length_set, ?_⟩
  intro index agent found
  by_cases here : stepped = index
  · subst here
    cases present.symm.trans found
    exact ⟨new, List.getElem?_set_self (List.getElem?_eq_some_iff.mp present).1, goesOn⟩
  · rw [← List.getElem?_set_ne here] at found
    exact ⟨agent, found, .refl agent⟩

theorem NetworkStep.goesOn {before after : NetworkState}
    (step : NetworkStep libs rcgen config ca before after) :
    AgentsGoOn before.agents after.agents := by
  cases step with
  | stutter => exact .refl _
  | server action => exact .refl _
  | accept link found stream present accepts => exact .refl _
  | begin index agent env present may => exact .set present (agent.begin_goesOn libs rcgen env _)
  | receive index agent chunks endMessage present arrived =>
      exact .set present (agent.receive_goesOn libs chunks endMessage)
  | store index agent present => exact .set present agent.store_goesOn
  | listen index agent present finished free => exact .refl _

variable (libs rcgen config ca) in
theorem network_goesOn (state : NetworkState) (actions : List NetworkAction) :
    AgentsGoOn state.agents ((network libs rcgen config ca).run state actions).agents := by
  induction actions generalizing state with
  | nil => exact .refl _
  | cons action rest ih =>
      exact (networkNext_step libs rcgen config ca state action).goesOn.trans
        (ih (networkNext libs rcgen config ca state action))

/-- No agent of a state that is reached has aborted. -/
theorem network_alive {state : NetworkState}
    (reached : (network libs rcgen config ca).Reachable state) {index : Nat} {agent : Agent}
    (present : state.agents[index]? = some agent) : agent.phase ≠ .aborted := by
  induction reached generalizing agent with
  | start initial =>
      rw [(initial.2.1 agent (List.mem_of_getElem? present)).phase]
      simp
  | @step earlier before action ih =>
      have goesOn := (networkNext_step libs rcgen config ca earlier action).goesOn
      have within : index < earlier.agents.length :=
        goesOn.length ▸ (List.getElem?_eq_some_iff.mp present).1
      obtain ⟨later, laterPresent, on⟩ :=
        goesOn.each index earlier.agents[index] (List.getElem?_eq_getElem within)
      cases laterPresent.symm.trans present
      exact on.alive (ih (List.getElem?_eq_getElem within))

/-- Agents of one guest have different client ports. -/
def PortsApart (agents : List Agent) : Prop :=
  ∀ (index other : Nat) (agent rival : Agent), agents[index]? = some agent →
    agents[other]? = some rival → rival.cid = agent.cid →
    rival.config.clientPort = agent.config.clientPort → other = index

theorem PortsApart.goesOn {before after : List Agent} (apart : PortsApart before)
    (on : AgentsGoOn before after) : PortsApart after := by
  have earlier {index : Nat} {later : Agent} (present : after[index]? = some later) :
      ∃ agent, before[index]? = some agent ∧ agent.GoesOn later := by
    have within : index < before.length :=
      on.length ▸ (List.getElem?_eq_some_iff.mp present).1
    obtain ⟨same, samePresent, goesOn⟩ :=
      on.each index before[index] (List.getElem?_eq_getElem within)
    cases samePresent.symm.trans present
    exact ⟨_, List.getElem?_eq_getElem within, goesOn⟩
  intro index other agent rival present rivalPresent cid port
  obtain ⟨first, firstPresent, firstOn⟩ := earlier present
  obtain ⟨second, secondPresent, secondOn⟩ := earlier rivalPresent
  rw [firstOn.cid, secondOn.cid] at cid
  rw [firstOn.config, secondOn.config] at port
  exact apart index other first second firstPresent secondPresent cid port

theorem PortsApart.portFree {state : NetworkState} (apart : PortsApart state.agents) {index : Nat}
    {agent : Agent} (present : state.agents[index]? = some agent) :
    state.portFree index agent = true := by
  apply List.all_eq_true.mpr
  intro pair member
  obtain ⟨rival, other⟩ := pair
  have rivalPresent : state.agents[other]? = some rival :=
    List.mem_zipIdx_iff_getElem?.mp member
  have own := apart index other agent rival present rivalPresent
  by_cases cid : rival.cid = agent.cid
  · by_cases port : rival.config.clientPort = agent.config.clientPort
    · simp [own cid port]
    · simp [port]
  · simp [cid]

/-! ### Actions of one agent -/

def NetworkAction.Spares (index : Nat) : NetworkAction → Prop
  | .server _ => True
  | .accept _ _ => True
  | .begin other _ => other ≠ index
  | .receive other _ _ => other ≠ index
  | .store other => other ≠ index
  | .listen _ => True

def OnlyOf (index : Nat) (actions : List NetworkAction) : Prop :=
  ∀ action ∈ actions, ∀ other, other ≠ index → action.Spares other

theorem OnlyOf.single {index : Nat} {action : NetworkAction}
    (own : ∀ other, other ≠ index → action.Spares other) : OnlyOf index [action] := by
  intro member inside
  rw [List.mem_singleton.mp inside]
  exact own

theorem OnlyOf.append {index : Nat} {first second : List NetworkAction}
    (head : OnlyOf index first) (tail : OnlyOf index second) : OnlyOf index (first ++ second) := by
  intro action member
  rcases List.mem_append.mp member with early | late
  · exact head action early
  · exact tail action late

variable (libs rcgen config ca) in
theorem networkNext_spares (state : NetworkState) {action : NetworkAction} {index : Nat}
    (spares : action.Spares index) :
    (networkNext libs rcgen config ca state action).agents[index]? = state.agents[index]? := by
  cases action with
  | server action => rfl
  | accept link stream =>
      simp only [networkNext]
      split
      · rfl
      · split <;> rfl
  | begin other env =>
      simp only [networkNext]
      split
      · rfl
      · split
        · exact List.getElem?_set_ne spares
        · rfl
  | receive other chunks endMessage =>
      simp only [networkNext]
      split
      · rfl
      · split
        · exact List.getElem?_set_ne spares
        · rfl
  | store other =>
      simp only [networkNext]
      split
      · rfl
      · exact List.getElem?_set_ne spares
  | listen other =>
      simp only [networkNext]
      split
      · rfl
      · split <;> rfl

variable (libs rcgen config ca) in
theorem network_spares (state : NetworkState) {actions : List NetworkAction} {index other : Nat}
    (only : OnlyOf index actions) (different : other ≠ index) :
    ((network libs rcgen config ca).run state actions).agents[other]? = state.agents[other]? := by
  induction actions generalizing state with
  | nil => rfl
  | cons action rest ih =>
      have spares := only action List.mem_cons_self other different
      have later : OnlyOf index rest := fun next member => only next (List.mem_cons_of_mem _ member)
      exact (ih _ later).trans (networkNext_spares libs rcgen config ca state spares)

theorem Course.onlyOf (course : Course κ) (state : NetworkState) (index : Nat) :
    OnlyOf index (course.actions state index) := by
  intro action member other different
  simp only [Course.actions, List.mem_append, List.mem_cons, List.not_mem_nil, or_false,
    List.mem_map, List.mem_replicate] at member
  rcases member with ((rfl | rfl) | ⟨step, _, rfl⟩) | rfl | rfl
  · exact different.symm
  · trivial
  · trivial
  · exact different.symm
  · exact different.symm

/-! ### One agent -/

variable (libs rcgen config ca) in
/-- Nothing stands in the way of credentials for the entity: the host knows it,
and an exchange for it can go undisturbed. -/
def Servable (agent : Agent) (entity : EntityEntry) : Prop :=
  ∃ course : Course κ, Undisturbed libs rcgen config ca agent entity course

theorem Servable.goesOn {agent later : Agent} {entity : EntityEntry} (on : agent.GoesOn later)
    (servable : Servable libs rcgen config ca agent entity) :
    Servable libs rcgen config ca later entity := by
  obtain ⟨course, undisturbed⟩ := servable
  refine ⟨course, ?_⟩
  constructor
  · rw [on.config]
    exact undisturbed.prepared
  · exact undisturbed.host
  · rw [on.config]
    exact undisturbed.serverPort
  · exact undisturbed.writes
  · rw [on.config]
    exact undisturbed.request
  · exact undisturbed.requestFits
  · rw [on.config]
    exact undisturbed.port
  · rw [on.config, on.cid]
    exact undisturbed.issued
  · exact undisturbed.response
  · exact undisturbed.responseFits
  · exact on.reliable undisturbed.disk
  · exact undisturbed.areFiles
  · exact undisturbed.certMode
  · exact undisturbed.keyMode

variable (libs rcgen ca) in
def Agent.HasStored (agent : Agent) (entity : EntityEntry) : Prop :=
  ∃ nonces generated certPem caCertPem,
    { entity, nonces, ending := .stored generated certPem caCertPem } ∈ agent.records ∧
      OwnCredentials libs rcgen ca agent.config entity nonces generated certPem caCertPem

theorem Agent.HasStored.goesOn {agent later : Agent} {entity : EntityEntry}
    (on : agent.GoesOn later) (stored : agent.HasStored libs rcgen ca entity) :
    later.HasStored libs rcgen ca entity := by
  obtain ⟨nonces, generated, certPem, caCertPem, member, own⟩ := stored
  rw [← on.config] at own
  exact ⟨nonces, generated, certPem, caCertPem, on.records.subset member, own⟩

variable (libs rcgen config ca) in
/-- By these actions, its own, the agent gets through its entities. -/
structure Serves (state : NetworkState) (index : Nat) (agent : Agent)
    (actions : List NetworkAction) (later : Agent) : Prop where
  only : OnlyOf index actions
  present : ((network libs rcgen config ca).run state actions).agents[index]? = some later
  goesOn : agent.GoesOn later
  finished : later.Finished
  stored : ∀ entity ∈ agent.pending, Servable libs rcgen config ca agent entity →
    later.HasStored libs rcgen ca entity

theorem Serves.after {state : NetworkState} {index : Nat} {agent middle later : Agent}
    {first second : List NetworkAction} (only : OnlyOf index first)
    (before : state.agents[index]? = some agent)
    (present : ((network libs rcgen config ca).run state first).agents[index]? = some middle)
    (passed : ∀ entity ∈ agent.pending, Servable libs rcgen config ca agent entity →
      middle.HasStored libs rcgen ca entity ∨ entity ∈ middle.pending)
    (behind : Serves libs rcgen config ca ((network libs rcgen config ca).run state first) index
      middle second later) :
    Serves libs rcgen config ca state index agent (first ++ second) later := by
  obtain ⟨other, otherPresent, goesOn⟩ :=
    (network_goesOn libs rcgen config ca state first).each index agent before
  cases otherPresent.symm.trans present
  constructor
  · exact only.append behind.only
  · rw [Machine.run, List.foldl_append]
    exact behind.present
  · exact goesOn.trans behind.goesOn
  · exact behind.finished
  · intro entity member servable
    rcases passed entity member servable with stored | pending
    · exact stored.goesOn behind.goesOn
    · exact behind.stored entity pending (servable.goesOn goesOn)

variable (libs rcgen) in
theorem Agent.begin_pending (env : ExchangeEnvironment) (link : Nat) (agent : Agent)
    {entity : EntityEntry} {rest : List EntityEntry} (idle : agent.phase = .idle)
    (next : agent.pending = entity :: rest) :
    (agent.begin libs rcgen env link).1.pending = rest := by
  rcases agent.begin_cases libs rcgen env link idle next with
    ⟨report, _, step⟩ | ⟨generated, _, ⟨report, _, step⟩ | ⟨_, step⟩⟩
  · rw [step]
    rfl
  · rw [step]
    rfl
  · rw [step]
    rfl

variable (libs) in
theorem Agent.receive_pending (chunks : List Bytes) (endMessage : String) (agent : Agent) :
    (agent.receive libs chunks endMessage).pending = agent.pending := by
  unfold Agent.receive
  split
  · dsimp only
    split <;> rfl
  · rfl

theorem Agent.store_pending (agent : Agent) : agent.store.pending = agent.pending := by
  unfold Agent.store
  split
  · dsimp only
    split <;> rfl
  · rfl

section Serving

variable (requestTrips : libs.requestJson.RoundTrips)
  (responseTrips : libs.responseJson.RoundTrips) (requestLaw : rcgen.RequestLaw libs)
  (noExtensions : libs.RequestsCarryNoExtensions)

include requestTrips responseTrips requestLaw noExtensions

/-- An agent that is not done gets by actions of its own to a smaller rest,
without passing over an entity that can be served. -/
theorem serves_next (state : NetworkState) (apart : PortsApart state.agents) {index : Nat}
    {agent : Agent} (before : state.agents[index]? = some agent) (alive : agent.phase ≠ .aborted)
    (unfinished : ¬agent.Finished) :
    ∃ first middle, OnlyOf index first ∧
      ((network libs rcgen config ca).run state first).agents[index]? = some middle ∧
      middle.work < agent.work ∧
      ∀ entity ∈ agent.pending, Servable libs rcgen config ca agent entity →
        middle.HasStored libs rcgen ca entity ∨ entity ∈ middle.pending := by
  have within := (List.getElem?_eq_some_iff.mp before).1
  cases phase : agent.phase with
  | idle =>
      cases pending : agent.pending with
      | nil => exact absurd ⟨pending, phase⟩ unfinished
      | cons entity rest =>
          by_cases servable : Servable libs rcgen config ca agent entity
          · obtain ⟨course, undisturbed⟩ := servable
            obtain ⟨disk, present, _⟩ := exchange_stores undisturbed requestTrips responseTrips
              state index before (apart.portFree before) phase pending
            refine ⟨_, _, course.onlyOf state index, present, ?_, ?_⟩
            · simp only [Agent.work, phase, pending, List.length_cons]
              omega
            · intro other member _
              rcases List.mem_cons.mp member with same | behind
              · subst same
                exact Or.inl ⟨_, _, _, _, List.mem_append_right _ (List.mem_singleton_self _),
                  undisturbed.ownCredentials requestLaw noExtensions⟩
              · exact Or.inr behind
          · have only : OnlyOf index [.begin index unconnected] :=
              .single fun _ different => different.symm
            refine ⟨_, (agent.begin libs rcgen unconnected state.links.length).1, only, ?_,
              (agent.begin_progress libs rcgen unconnected _ phase pending).work, ?_⟩
            · change (networkNext libs rcgen config ca state
                (.begin index unconnected)).agents[index]? = _
              simp only [networkNext, before,
                if_pos (mayBegin_unconnected config state index agent)]
              exact List.getElem?_set_self within
            · intro other member otherServable
              rcases List.mem_cons.mp member with same | behind
              · exact absurd (same ▸ otherServable) servable
              · rw [agent.begin_pending libs rcgen unconnected _ phase pending]
                exact Or.inr behind
  | receiving entity generated link stream =>
      have only : OnlyOf index [.receive index [] ""] := .single fun _ different => different.symm
      refine ⟨_, agent.receive libs [] "", only, ?_,
        (agent.receive_progress libs [] "" phase).work, ?_⟩
      · change (networkNext libs rcgen config ca state (.receive index [] "")).agents[index]? = _
        simp only [networkNext, before, List.flatten_nil, List.nil_prefix, if_true]
        exact List.getElem?_set_self within
      · intro other member _
        rw [agent.receive_pending libs]
        exact Or.inr member
  | storing entity generated certPem caCertPem =>
      have only : OnlyOf index [.store index] := .single fun _ different => different.symm
      refine ⟨_, agent.store, only, ?_, (agent.store_progress phase).work, ?_⟩
      · change (networkNext libs rcgen config ca state (.store index)).agents[index]? = _
        simp only [networkNext, before]
        exact List.getElem?_set_self within
      · intro other member _
        rw [agent.store_pending]
        exact Or.inr member
  | aborted => exact absurd phase alive

theorem agent_serves (state : NetworkState) (apart : PortsApart state.agents) {index : Nat}
    {agent : Agent} (before : state.agents[index]? = some agent)
    (alive : agent.phase ≠ .aborted) :
    ∃ actions later, Serves libs rcgen config ca state index agent actions later := by
  induction size : agent.work using Nat.strongRecOn generalizing state agent with
  | ind size ih =>
      by_cases finished : agent.Finished
      · refine ⟨[], agent, ?_, before, .refl agent, finished, ?_⟩
        · intro action member
          cases member
        · intro entity member
          rw [finished.pending] at member
          cases member
      · obtain ⟨first, middle, only, present, less, passed⟩ :=
          serves_next requestTrips responseTrips requestLaw noExtensions state apart before alive
            finished
        have allOn := network_goesOn libs rcgen config ca state first
        obtain ⟨other, otherPresent, goesOn⟩ := allOn.each index agent before
        cases otherPresent.symm.trans present
        obtain ⟨second, later, behind⟩ :=
          ih middle.work (size ▸ less) _ (apart.goesOn allOn) present (goesOn.alive alive) rfl
        exact ⟨first ++ second, later, .after only before present passed behind⟩

theorem agents_serve {state : NetworkState}
    (reached : (network libs rcgen config ca).Reachable state)
    (apart : PortsApart state.agents) (count : Nat) :
    ∃ actions, ∀ (index : Nat) (agent : Agent), state.agents[index]? = some agent →
      ∃ later, ((network libs rcgen config ca).run state actions).agents[index]? = some later ∧
        agent.GoesOn later ∧
        (index < count → later.Finished ∧ ∀ entity ∈ agent.pending,
          Servable libs rcgen config ca agent entity → later.HasStored libs rcgen ca entity) ∧
        (count ≤ index → later = agent) := by
  induction count with
  | zero =>
      refine ⟨[], fun index agent present => ⟨agent, present, .refl agent, ?_, fun _ => rfl⟩⟩
      intro impossible
      cases impossible
  | succ count ih =>
      obtain ⟨actions, served⟩ := ih
      cases next : state.agents[count]? with
      | none =>
          refine ⟨actions, fun index agent present => ?_⟩
          obtain ⟨later, laterPresent, goesOn, done, unmoved⟩ := served index agent present
          refine ⟨later, laterPresent, goesOn, fun below => ?_, fun above => unmoved (by omega)⟩
          have different : index ≠ count := by
            intro same
            rw [same, next] at present
            cases present
          exact done (by omega)
      | some current =>
          obtain ⟨same, samePresent, _, _, unmoved⟩ := served count current next
          rw [unmoved (Nat.le_refl _)] at samePresent
          obtain ⟨own, last, serves⟩ := agent_serves requestTrips responseTrips requestLaw
            noExtensions _ (apart.goesOn (network_goesOn libs rcgen config ca state actions))
            samePresent (network_alive reached next)
          refine ⟨actions ++ own, fun index agent present => ?_⟩
          rw [Machine.run, List.foldl_append]
          by_cases here : index = count
          · subst here
            cases next.symm.trans present
            exact ⟨last, serves.present, serves.goesOn, fun _ => ⟨serves.finished, serves.stored⟩,
              fun above => absurd above (by omega)⟩
          · obtain ⟨later, laterPresent, goesOn, done, unmoved⟩ := served index agent present
            refine ⟨later, ?_, goesOn, fun below => done (by omega), fun above =>
              unmoved (by omega)⟩
            exact (network_spares libs rcgen config ca _ serves.only here).trans laterPresent

end Serving

/-- From every state that is reached all agents can get through their entities,
and every entity that can be served gets its own credentials on disk. -/
theorem no_agent_shut_out (requestTrips : libs.requestJson.RoundTrips)
    (responseTrips : libs.responseJson.RoundTrips) (requestLaw : rcgen.RequestLaw libs)
    (noExtensions : libs.RequestsCarryNoExtensions) (state : NetworkState)
    (reached : (network libs rcgen config ca).Reachable state)
    (apart : PortsApart state.agents) :
    ∃ actions, ∀ (index : Nat) (agent : Agent), state.agents[index]? = some agent →
      ∃ later, ((network libs rcgen config ca).run state actions).agents[index]? = some later ∧
        later.config = agent.config ∧ later.Finished ∧ agent.records <+: later.records ∧
        ∀ entity ∈ agent.pending, Servable libs rcgen config ca agent entity →
          ∃ nonces generated certPem caCertPem,
            { entity, nonces, ending := .stored generated certPem caCertPem } ∈ later.records ∧
            OwnCredentials libs rcgen ca agent.config entity nonces generated certPem
              caCertPem ∧
            (agent.config.DistinctPaths →
              Holds later.disk.files entity certPem generated.keyPem caCertPem) := by
  obtain ⟨actions, served⟩ := agents_serve requestTrips responseTrips requestLaw noExtensions
    reached apart state.agents.length
  have inv := network_inv (reached.run actions)
  refine ⟨actions, fun index agent present => ?_⟩
  obtain ⟨later, laterPresent, goesOn, done, _⟩ := served index agent present
  obtain ⟨finished, stored⟩ := done (List.getElem?_eq_some_iff.mp present).1
  refine ⟨later, laterPresent, goesOn.config, finished, goesOn.records, ?_⟩
  intro entity pending servable
  obtain ⟨nonces, generated, certPem, caCertPem, recorded, own⟩ := stored entity pending servable
  rw [goesOn.config] at own
  refine ⟨nonces, generated, certPem, caCertPem, recorded, own, ?_⟩
  intro distinct
  exact (inv.files later (List.mem_of_getElem? laterPresent) (goesOn.config ▸ distinct)).stored
    _ recorded _ _ _ rfl

namespace Reference

/-- Two agents of two guests, with the same port and entity. -/
def pairState : NetworkState :=
  { loneState with agents := [{ loneAgent with cid := 4 }, loneAgent] }

theorem pairStart : (network (libraries everything) requestLibraries sampleConfig
    (authority sampleKey)).Reachable pairState := by
  apply Machine.Reachable.start
  refine ⟨rfl, ?_, rfl, rfl⟩
  intro agent member
  rcases List.mem_cons.mp member with first | second
  · rw [first]
    exact ⟨rfl, rfl, rfl, rfl⟩
  · rw [List.mem_singleton.mp second]
    exact ⟨rfl, rfl, rfl, rfl⟩

theorem pairState_apart : PortsApart pairState.agents := by
  intro index other agent rival present rivalPresent cid
  match index, other with
  | 0, 0 => exact fun _ => rfl
  | 1, 1 => exact fun _ => rfl
  | 0, 1 =>
      cases present
      cases rivalPresent
      exact absurd cid (by decide)
  | 1, 0 =>
      cases present
      cases rivalPresent
      exact absurd cid (by decide)

end Reference

open Reference in
theorem no_agent_shut_out_sample :
    ∃ (actions : List NetworkAction) (later : Agent) (nonces : Nonces)
        (generated : GeneratedCsr) (certPem caCertPem : String),
      ((network (libraries everything) requestLibraries sampleConfig (authority sampleKey)).run
        pairState ([.begin 0 loneCourse.env] ++ actions)).agents[1]? = some later ∧
      later.Finished ∧
      OwnCredentials (libraries everything) requestLibraries (authority sampleKey)
        loneAgent.config renewedEntity nonces generated certPem caCertPem ∧
      Holds later.disk.files renewedEntity certPem generated.keyPem caCertPem := by
  have apart := pairState_apart.goesOn (network_goesOn (libraries everything) requestLibraries
    sampleConfig (authority sampleKey) pairState [.begin 0 loneCourse.env])
  obtain ⟨actions, served⟩ := no_agent_shut_out JsonForms.requestCodec_roundTrips
    JsonForms.responseCodec_roundTrips (requestLaw everything)
    (requestsCarryNoExtensions everything) _ (pairStart.run [.begin 0 loneCourse.env]) apart
  have spares : NetworkAction.Spares 1 (.begin 0 loneCourse.env) := Nat.zero_ne_one
  have waits := networkNext_spares (libraries everything) requestLibraries sampleConfig
    (authority sampleKey) pairState spares
  obtain ⟨later, present, _, finished, _, stored⟩ := served 1 loneAgent waits
  obtain ⟨nonces, generated, certPem, caCertPem, _, own, holds⟩ := stored renewedEntity
    (List.mem_singleton_self _) ⟨loneCourse, loneCourse_undisturbed⟩
  refine ⟨actions, later, nonces, generated, certPem, caCertPem, ?_, finished, own,
    holds loneAgent_distinctPaths⟩
  rw [Machine.run, List.foldl_append]
  exact present

end AuthScope
