/-
Every entity ends up with its own credential.

However the connections of any number of agents interleave and whatever fails,
a certificate that an agent receives answers the request it sent on that
connection, so it is for the key the agent made for the entity, and it is stored
in the files of that entity.
-/

import AuthScope.Network.Machine

set_option autoImplicit false

namespace AuthScope

open ByteText EffectLog ByteStream FileSystem StateMachine

variable {κ : Type} {libs : Libraries κ} {rcgen : RequestLibraries κ} {config : HostConfig}
  {ca : CertificateAuthority}

theorem Issuance.Valid.certifies {issuance : Issuance κ} {env : SigningEnvironment}
    {req : SigningRequest} (noExtensions : libs.RequestsCarryNoExtensions)
    (valid : issuance.Valid libs env ca req) :
    Certifies libs ca (issuance.pem libs) issuance.csr.publicKey
      (buildClaim issuance.now req) :=
  ⟨issuance.payloadJson, issuance.jwtKey, env.jwtNonce, issuance.jwtSignature,
    (issuance.leaf req).params, issuance.caParams, issuance.caKey, issuance.tbs, env.leafNonce,
    issuance.signature, valid.serialised, valid.signerKey, valid.jwtSigned,
    valid.customExtensions noExtensions, valid.caKeyParsed, valid.caImported, valid.built,
    valid.signed, rfl⟩

theorem generateCsr_eq_ok_iff (keyNonce csrNonce : Nat) (entityName : String)
    (generated : GeneratedCsr) :
    generateCsr libs rcgen keyNonce csrNonce entityName = .ok generated ↔
      ∃ key csr, libs.generateKey keyNonce = .ok key ∧
        rcgen.serializeRequest (requestParams entityName) key csrNonce = .ok csr ∧
        rcgen.requestPem csr = .ok generated.csrPem ∧
        generated.keyPem = libs.serializePem key := by
  simp only [generateCsr, except_bind_eq_ok_iff]
  constructor
  · rintro ⟨key, made, csr, serialised, pem, written, same⟩
    cases same
    exact ⟨key, csr, made, serialised, written, rfl⟩
  · rintro ⟨key, csr, made, serialised, written, keyPem⟩
    refine ⟨key, made, csr, serialised, generated.csrPem, written, ?_⟩
    rw [← keyPem]
    rfl

theorem Issuance.Valid.ownCredentials {issuance : Issuance κ} {env : SigningEnvironment}
    {cid : UInt32} {agentConfig : AgentConfig} {entity : EntityEntry} {nonces : Nonces}
    {generated : GeneratedCsr} {vmEntry : VmEntry} {policy : EntityPolicy}
    (requestLaw : rcgen.RequestLaw libs) (noExtensions : libs.RequestsCarryNoExtensions)
    (made : generateCsr libs rcgen nonces.key nonces.csr entity.name = .ok generated)
    (valid : issuance.Valid libs env ca
      (signingRequest cid (certRequest agentConfig entity generated)
        (decisionOf config agentConfig.vmName vmEntry policy))) :
    OwnCredentials libs rcgen ca agentConfig entity nonces generated (issuance.pem libs)
      ca.certPem := by
  obtain ⟨key, csr, keyMade, written, pem, keyPem⟩ := (generateCsr_eq_ok_iff _ _ _ _).mp made
  have sameKey : issuance.csr.publicKey = libs.publicKey key :=
    requestLaw _ _ _ _ _ _ written pem valid.csrParsed
  have certifies := valid.certifies noExtensions
  rw [sameKey] at certifies
  exact ⟨rfl, made, key, _, keyMade, keyPem, certifies, rfl, rfl⟩

structure IssuedUnder (libs : Libraries κ) (config : HostConfig) (ca : CertificateAuthority)
    (agent : Agent) (entity : EntityEntry) (generated : GeneratedCsr) (certPem : String)
    (vmEntry : VmEntry) (policy : EntityPolicy) (env : SigningEnvironment)
    (issuance : Issuance κ) : Prop where
  authorised : Authorised config agent.cid (certRequest agent.config entity generated) vmEntry
    policy
  valid : issuance.Valid libs env ca (signingRequest agent.cid
    (certRequest agent.config entity generated)
    (decisionOf config agent.config.vmName vmEntry policy))
  issued : certPem = issuance.pem libs

theorem AnsweredTo.issued (requestFaithful : libs.requestJson.Faithful) {state : ServerState}
    (reached : (server libs config ca).Reachable state) {agent : Agent} {entity : EntityEntry}
    {nonces : Nonces} {generated : GeneratedCsr} {certPem caCertPem : String}
    (answered : AnsweredTo libs rcgen state.connections agent entity nonces generated certPem
      caCertPem) :
    caCertPem = ca.certPem ∧
      generateCsr libs rcgen nonces.key nonces.csr entity.name = .ok generated ∧
      ∃ vmEntry policy env issuance,
        IssuedUnder libs config ca agent entity generated certPem vmEntry policy env issuance := by
  obtain ⟨conn, member, sent, cid, arrived, requested, answer⟩ := answered
  obtain ⟨index, present⟩ := List.mem_iff_getElem?.mp member
  obtain ⟨caEq, req, vmEntry, policy, env, admitted, issuance, valid, issued⟩ :=
    ((server_inv reached).connections index conn present).answered _ answer certPem caCertPem rfl
  obtain ⟨payload, serialised, sentEq⟩ := requested.sent
  rw [sentEq] at arrived
  have own : req = certRequest agent.config entity generated :=
    recvJson_of_start libs.requestJson requestFaithful serialised conn.arrival arrived
      admitted.received
  subst own
  have authorised := admitted.authorised
  rw [cid] at valid authorised
  exact ⟨caEq, requested.made, vmEntry, policy, env, issuance, authorised, valid, issued⟩

theorem AnsweredTo.ownCredentials (requestFaithful : libs.requestJson.Faithful)
    (requestLaw : rcgen.RequestLaw libs) (noExtensions : libs.RequestsCarryNoExtensions)
    {state : ServerState} (reached : (server libs config ca).Reachable state) {agent : Agent}
    {entity : EntityEntry} {nonces : Nonces} {generated : GeneratedCsr}
    {certPem caCertPem : String}
    (answered : AnsweredTo libs rcgen state.connections agent entity nonces generated certPem
      caCertPem) :
    OwnCredentials libs rcgen ca agent.config entity nonces generated certPem caCertPem := by
  obtain ⟨caEq, made, _, _, _, issuance, issuedUnder⟩ := answered.issued requestFaithful reached
  rw [caEq, issuedUnder.issued]
  exact issuedUnder.valid.ownCredentials requestLaw noExtensions made

theorem AnsweredTo.mono {before after : List Connection} {agent : Agent} {entity : EntityEntry}
    {nonces : Nonces} {generated : GeneratedCsr} {certPem caCertPem : String}
    (kept : ConnectionsKept before after)
    (answered : AnsweredTo libs rcgen before agent entity nonces generated certPem caCertPem) :
    AnsweredTo libs rcgen after agent entity nonces generated certPem caCertPem := by
  obtain ⟨conn, member, sent, cid, arrived, requested, answer⟩ := answered
  obtain ⟨index, present⟩ := List.mem_iff_getElem?.mp member
  obtain ⟨later, laterPresent, same, grown⟩ := kept index conn present
  refine ⟨later, List.mem_of_getElem? laterPresent, sent, same.cid.trans cid, ?_, requested,
    grown.subset answer⟩
  rw [same.arrival]
  exact arrived

theorem recvJson_of_nothing {α : Type} (codec : JsonCodec α) (stream : Stream)
    (nothing : stream.incoming.flatten = []) (value : α) :
    ((recvJson codec : Prog Files Stream String α).run stream).outcome ≠ .ok value := by
  intro read
  obtain ⟨payload, rest, arrived, _, _⟩ := (recvJson_outcome_eq_ok_iff codec stream value).mp read
  rw [nothing] at arrived
  exact List.append_ne_nil_of_left_ne_nil (frame_ne_nil payload) rest arrived.symm

/-- What an agent reads from its link was answered to its request. -/
theorem answeredTo_of_received (responseFaithful : libs.responseJson.Faithful)
    (textual : libs.responseJson.Textual) {state : NetworkState}
    (inv : NetworkInv libs config ca state)
    (short : ReportsShort libs state.server.connections) {agent : Agent} {entity : EntityEntry}
    {generated : GeneratedCsr} {link : Nat} {found : Link}
    (present : state.links[link]? = some found) (guest : found.peerCid = agent.cid)
    (requested : Requested libs rcgen agent.config entity agent.nonces generated found.sent)
    {chunks : List Bytes} {endMessage : String} {stream : Stream} {certPem caCertPem : String}
    (arrived : chunks.flatten <+: state.answered link)
    (received : ((recvResponse libs).run (arriving chunks endMessage stream)).outcome =
      .ok (.ok certPem caCertPem)) :
    AnsweredTo libs rcgen state.server.connections agent entity agent.nonces generated certPem
      caCertPem := by
  rw [recvResponse, Prog.mapErr_run, Outcome.mapErr_eq_ok_iff] at received
  cases connection : found.connection with
  | none =>
      have nothing : state.answered link = [] := by
        simp only [NetworkState.answered, present, Option.bind_some, connection]
      rw [nothing, List.prefix_nil] at arrived
      exact absurd received (recvJson_of_nothing libs.responseJson _ arrived _)
  | some index =>
      obtain ⟨conn, connPresent, carried⟩ :=
        inv.links found (List.mem_of_getElem? present) index connection
      have member := List.mem_of_getElem? connPresent
      have answered : state.answered link = conn.stream.outgoing := by
        simp only [NetworkState.answered, present, Option.bind_some, connection, connPresent]
      rw [answered] at arrived
      have output := server_output responseFaithful.roundTrips inv.server conn member
        ⟨carried.outgoing, short conn member⟩
      exact ⟨conn, member, found.sent, carried.cid.trans guest, carried.arrived, requested,
        output.written.reads responseFaithful textual arrived received⟩

theorem Link.Carried.mono {link : Link} {conn later : Connection} (carried : link.Carried conn)
    (same : SamePeer conn later) : link.Carried later := by
  constructor
  · exact same.cid.trans carried.cid
  · rw [same.arrival]
    exact carried.arrived
  · rw [same.arrival]
    exact carried.outgoing

theorem ReportsShort.before {before after : List Connection} (kept : ConnectionsKept before after)
    (short : ReportsShort libs after) : ReportsShort libs before := by
  intro conn member
  obtain ⟨index, present⟩ := List.mem_iff_getElem?.mp member
  obtain ⟨later, laterPresent, same, _⟩ := kept index conn present
  rw [← same.arrival]
  exact short later (List.mem_of_getElem? laterPresent)

def LinksKept (before after : List Link) : Prop :=
  ∀ (index : Nat) (found : Link), before[index]? = some found →
    ∃ later : Link, after[index]? = some later ∧ later.sent = found.sent ∧
      later.peerCid = found.peerCid

theorem LinksKept.refl (links : List Link) : LinksKept links links :=
  fun _ found present => ⟨found, present, rfl, rfl⟩

theorem LinksKept.append (before added : List Link) : LinksKept before (before ++ added) := by
  intro index found present
  refine ⟨found, ?_, rfl, rfl⟩
  rw [List.getElem?_append_left (List.getElem?_eq_some_iff.mp present).1]
  exact present

theorem LinksKept.connect {links : List Link} {link : Nat} {old : Link}
    (present : links[link]? = some old) (connection : Option Nat) :
    LinksKept links (links.set link { old with connection }) := by
  intro index found foundPresent
  by_cases here : link = index
  · subst here
    rw [present] at foundPresent
    cases foundPresent
    exact ⟨_, List.getElem?_set_self (List.getElem?_eq_some_iff.mp present).1, rfl, rfl⟩
  · exact ⟨found, by rw [List.getElem?_set_ne here]; exact foundPresent, rfl, rfl⟩

theorem NetworkStep.kept {before after : NetworkState}
    (step : NetworkStep libs rcgen config ca before after) :
    ConnectionsKept before.server.connections after.server.connections ∧
      LinksKept before.links after.links := by
  cases step with
  | stutter => exact ⟨.refl _, .refl _⟩
  | server action => exact ⟨serverNext_connections libs config ca _ action, .refl _⟩
  | accept link found stream present accepts =>
      exact ⟨serverNext_connections libs config ca _ _, .connect present _⟩
  | begin index agent env present may => exact ⟨.refl _, .append _ _⟩
  | receive index agent chunks endMessage present arrived => exact ⟨.refl _, .refl _⟩
  | store index agent present => exact ⟨.refl _, .refl _⟩
  | listen index agent present finished free => exact ⟨.refl _, .refl _⟩

/-! ### The invariant of the network -/

theorem NetworkStep.inv {before after : NetworkState}
    (step : NetworkStep libs rcgen config ca before after)
    (inv : NetworkInv libs config ca before) : NetworkInv libs config ca after := by
  -- A link of before is still carried by its connection.
  have carried {link : Link} (member : link ∈ before.links) {index : Nat}
      (connection : link.connection = some index) :
      ∃ conn, after.server.connections[index]? = some conn ∧ link.Carried conn := by
    obtain ⟨conn, present, carried⟩ := inv.links link member index connection
    obtain ⟨later, laterPresent, same, _⟩ := step.kept.1 index conn present
    exact ⟨later, laterPresent, carried.mono same⟩
  have filesAfter {index : Nat} {agent : Agent}
      (filesInv : agent.config.DistinctPaths → FilesInv agent) (other : Agent)
      (member : other ∈ before.agents.set index agent) :
      other.config.DistinctPaths → FilesInv other := by
    rcases List.mem_or_eq_of_mem_set member with earlier | same
    · exact inv.files other earlier
    · exact same ▸ filesInv
  cases step with
  | stutter => exact inv
  | server action =>
      exact ⟨inv.server.step action, fun _ member _ connection => carried member connection,
        inv.files⟩
  | accept link found stream present accepts =>
      obtain ⟨_, arrived, outgoing⟩ := accepts
      refine ⟨inv.server.step _, ?_, inv.files⟩
      intro other member index connection
      rcases List.mem_or_eq_of_mem_set member with earlier | same
      · exact carried earlier connection
      · subst same
        cases connection
        exact ⟨_, List.getElem?_concat_length, rfl, arrived, outgoing⟩
  | begin index agent env present may =>
      refine ⟨inv.server, ?_, filesAfter ?_⟩
      · intro link member
        rcases List.mem_append.mp member with earlier | added
        · exact inv.links link earlier
        · obtain ⟨sent, _, same⟩ := List.mem_map.mp added
          rw [← same]
          intro other impossible
          cases impossible
      · intro distinct
        rw [Agent.begin_config] at distinct
        exact (inv.files agent (List.mem_of_getElem? present) distinct).begin libs rcgen env _
  | receive index agent chunks endMessage present arrived =>
      refine ⟨inv.server, inv.links, filesAfter ?_⟩
      intro distinct
      rw [Agent.receive_config] at distinct
      exact (inv.files agent (List.mem_of_getElem? present) distinct).receive libs chunks
        endMessage
  | store index agent present =>
      refine ⟨inv.server, inv.links, filesAfter ?_⟩
      intro distinct
      rw [Agent.store_config] at distinct
      exact (inv.files agent (List.mem_of_getElem? present) distinct).store distinct
  | listen index agent present finished free => exact ⟨inv.server, inv.links, inv.files⟩

theorem network_inv {state : NetworkState}
    (reached : (network libs rcgen config ca).Reachable state) :
    NetworkInv libs config ca state := by
  apply reached.invariant
  · intro initial isInitial
    obtain ⟨serverInitial, starts, noLinks, _⟩ := isInitial
    refine ⟨.start serverInitial, ?_, ?_⟩
    · intro link member
      rw [noLinks] at member
      cases member
    · intro agent member _
      exact (starts agent member).filesInv
  · intro earlier action inv
    exact (networkNext_step libs rcgen config ca earlier action).inv inv

theorem AgentInv.mono {before after : List Connection} {links later : List Link} {agent : Agent}
    (inv : AgentInv libs rcgen before links agent) (kept : ConnectionsKept before after)
    (linksKept : LinksKept links later) : AgentInv libs rcgen after later agent := by
  constructor
  · intro entity generated link stream receiving
    obtain ⟨found, present, cid, requested⟩ :=
      inv.receiving entity generated link stream receiving
    obtain ⟨other, otherPresent, sameSent, sameCid⟩ := linksKept link found present
    exact ⟨other, otherPresent, sameCid.trans cid, sameSent ▸ requested⟩
  · intro entity generated certPem caCertPem storing
    exact (inv.storing entity generated certPem caCertPem storing).mono kept
  · intro record member generated certPem caCertPem given
    exact (inv.recorded record member generated certPem caCertPem given).mono kept

theorem AgentInv.ended {connections : List Connection} {links : List Link} {agent : Agent}
    (inv : AgentInv libs rcgen connections links agent) (rest : List EntityEntry)
    (nonces : Nonces) (disk : Disk) (entity : EntityEntry) {ending : Ending}
    (answered : ∀ generated certPem caCertPem,
      ending.credentials = some (generated, certPem, caCertPem) →
      AnsweredTo libs rcgen connections agent entity nonces generated certPem caCertPem) :
    AgentInv libs rcgen connections links
      ({ agent with pending := rest, nonces := nonces, disk := disk }.ended entity ending) := by
  constructor
  · intro other generated link stream receiving
    cases receiving
  · intro other generated certPem caCertPem storing
    cases storing
  · intro record member generated certPem caCertPem given
    rcases List.mem_append.mp member with earlier | now
    · exact inv.recorded record earlier generated certPem caCertPem given
    · rw [List.mem_singleton.mp now] at given ⊢
      exact answered generated certPem caCertPem given

theorem AgentInv.failed {connections : List Connection} {links : List Link} {agent : Agent}
    (inv : AgentInv libs rcgen connections links agent) (rest : List EntityEntry)
    (nonces : Nonces) (entity : EntityEntry) (report : Report) :
    AgentInv libs rcgen connections links
      ({ agent with pending := rest, nonces := nonces }.ended entity (.failed report)) := by
  apply inv.ended rest nonces agent.disk
  intro generated certPem caCertPem impossible
  cases impossible

theorem prepare_eq_ok {env : ExchangeEnvironment} {agentConfig : AgentConfig}
    {entity : EntityEntry} {generated : GeneratedCsr}
    (prepared : prepare libs rcgen env agentConfig entity = .ok generated) :
    generateCsr libs rcgen env.keyNonce env.csrNonce entity.name = .ok generated := by
  simp only [prepare, except_bind_eq_ok_iff, mapError_eq_ok_iff] at prepared
  obtain ⟨made, generatedEq, _, _, same⟩ := prepared
  cases same
  exact generatedEq

theorem AgentInv.begin {connections : List Connection} {links : List Link} {agent : Agent}
    (inv : AgentInv libs rcgen connections links agent) (env : ExchangeEnvironment) :
    AgentInv libs rcgen connections
      (links ++ (agent.begin libs rcgen env links.length).2.toList.map agent.link)
      (agent.begin libs rcgen env links.length).1 := by
  have kept (added : List Link) :=
    inv.mono (ConnectionsKept.refl connections) (LinksKept.append links added)
  cases phase : agent.phase with
  | idle =>
      cases pending : agent.pending with
      | nil =>
          simp only [Agent.begin, phase, pending]
          exact kept _
      | cons entity rest =>
          rcases agent.begin_cases libs rcgen env links.length phase pending with
            ⟨report, _, step⟩ | ⟨generated, prepared, ⟨report, _, step⟩ | ⟨sent, step⟩⟩
          · rw [step]
            exact (kept _).failed rest env.nonces entity report
          · rw [step]
            exact (kept _).failed rest env.nonces entity report
          · rw [step]
            constructor
            · intro other made link stream receiving
              cases receiving
              refine ⟨_, List.getElem?_concat_length, rfl, prepare_eq_ok prepared, ?_⟩
              rw [sendRequest, Prog.mapErr_run, Outcome.mapErr_eq_ok_iff] at sent
              obtain ⟨payload, later, serialised, after⟩ :=
                sendJson_of_ok libs.requestJson _ _ sent
              refine ⟨payload, serialised, ?_⟩
              rw [sendRequest, Prog.mapErr_run]
              simp only [Agent.link, after]
              exact List.nil_append _
            · intro other made certPem caCertPem storing
              cases storing
            · exact inv.recorded
  | receiving entity generated link stream =>
      simp only [Agent.begin, phase]
      exact kept _
  | storing entity generated certPem caCertPem =>
      simp only [Agent.begin, phase]
      exact kept _
  | aborted =>
      simp only [Agent.begin, phase]
      exact kept _

theorem AgentInv.store {connections : List Connection} {links : List Link} {agent : Agent}
    (inv : AgentInv libs rcgen connections links agent) :
    AgentInv libs rcgen connections links agent.store := by
  cases phase : agent.phase with
  | storing entity generated certPem caCertPem =>
      have answered := inv.storing entity generated certPem caCertPem phase
      rcases agent.store_cases phase with ⟨_, step⟩ | ⟨report, _, step⟩
      all_goals
        rw [step]
        apply inv.ended agent.pending agent.nonces _ entity
        intro made cert ca same
        cases same
        exact answered
  | idle =>
      simp only [Agent.store, phase]
      exact inv
  | receiving entity generated link stream =>
      simp only [Agent.store, phase]
      exact inv
  | aborted =>
      simp only [Agent.store, phase]
      exact inv

section Runs

variable (responseFaithful : libs.responseJson.Faithful) (textual : libs.responseJson.Textual)

include responseFaithful textual

theorem AgentInv.receive {state : NetworkState} (inv : NetworkInv libs config ca state)
    (short : ReportsShort libs state.server.connections) {agent : Agent}
    (agentInv : AgentInv libs rcgen state.server.connections state.links agent)
    {chunks : List Bytes} (endMessage : String)
    (arrived : chunks.flatten <+: state.response agent) :
    AgentInv libs rcgen state.server.connections state.links
      (agent.receive libs chunks endMessage) := by
  cases phase : agent.phase with
  | receiving entity generated link stream =>
      obtain ⟨found, present, guest, requested⟩ :=
        agentInv.receiving entity generated link stream phase
      have onLink : chunks.flatten <+: state.answered link := by
        simp only [NetworkState.response, phase] at arrived
        exact arrived
      rcases agent.receive_cases libs chunks endMessage phase with
        ⟨certPem, caCertPem, received, step⟩ | ⟨message, _, step⟩ | ⟨report, _, step⟩
      · have answered := answeredTo_of_received responseFaithful textual inv short present guest
          requested onLink received
        rw [step]
        constructor
        · intro other made later stream receiving
          cases receiving
        · intro other made cert ca storing
          cases storing
          exact answered
        · exact agentInv.recorded
      · rw [step]
        exact agentInv.failed agent.pending agent.nonces entity _
      · rw [step]
        exact agentInv.failed agent.pending agent.nonces entity _
  | idle =>
      simp only [Agent.receive, phase]
      exact agentInv
  | storing entity generated certPem caCertPem =>
      simp only [Agent.receive, phase]
      exact agentInv
  | aborted =>
      simp only [Agent.receive, phase]
      exact agentInv

/-- One step, from a state in which all agents hold what their own connections were
answered. -/
theorem NetworkStep.agents {before after : NetworkState}
    (step : NetworkStep libs rcgen config ca before after)
    (inv : NetworkInv libs config ca before)
    (short : ReportsShort libs before.server.connections)
    (agents : ∀ agent ∈ before.agents,
      AgentInv libs rcgen before.server.connections before.links agent) :
    ∀ agent ∈ after.agents, AgentInv libs rcgen after.server.connections after.links agent := by
  have kept (agent : Agent) (member : agent ∈ before.agents) :=
    (agents agent member).mono step.kept.1 step.kept.2
  cases step with
  | stutter => exact agents
  | server action => exact kept
  | accept link found stream present accepts => exact kept
  | begin index agent env present may =>
      intro other member
      rcases List.mem_or_eq_of_mem_set member with earlier | same
      · exact kept other earlier
      · rw [same]
        exact (agents agent (List.mem_of_getElem? present)).begin env
  | receive index agent chunks endMessage present arrived =>
      intro other member
      rcases List.mem_or_eq_of_mem_set member with earlier | same
      · exact agents other earlier
      · rw [same]
        exact AgentInv.receive responseFaithful textual inv short
          (agents agent (List.mem_of_getElem? present)) endMessage arrived
  | store index agent present =>
      intro other member
      rcases List.mem_or_eq_of_mem_set member with earlier | same
      · exact agents other earlier
      · rw [same]
        exact (agents agent (List.mem_of_getElem? present)).store
  | listen index agent present finished free => exact agents

/-- In every state that the network reaches, agents hold what their own connections
were answered. -/
theorem network_agents {state : NetworkState}
    (reached : (network libs rcgen config ca).Reachable state)
    (short : ReportsShort libs state.server.connections) :
    ∀ agent ∈ state.agents,
      AgentInv libs rcgen state.server.connections state.links agent := by
  induction reached with
  | start initial =>
      obtain ⟨_, starts, _⟩ := initial
      intro agent member
      obtain ⟨_, phase, records, _⟩ := starts agent member
      constructor
      · intro entity generated link stream receiving
        rw [phase] at receiving
        cases receiving
      · intro entity generated certPem caCertPem storing
        rw [phase] at storing
        cases storing
      · intro record recorded
        rw [records] at recorded
        cases recorded
  | @step before earlier action ih =>
      have step := networkNext_step libs rcgen config ca before action
      have shortBefore := short.before step.kept.1
      exact step.agents responseFaithful textual (network_inv earlier) shortBefore
        (ih shortBefore)

end Runs

/-! ### The loop goes on -/

def Agent.work (agent : Agent) : Nat :=
  3 * agent.pending.length +
    match agent.phase with
    | .receiving _ _ _ _ => 2
    | .storing _ _ _ _ => 1
    | _ => 0

/-- The agent after its next part, whatever came of it. -/
structure Progress (agent later : Agent) : Prop where
  config : later.config = agent.config
  alive : later.phase ≠ .aborted
  work : later.work < agent.work

theorem Progress.ended (agent : Agent) (rest : List EntityEntry) {nonces : Nonces} (disk : Disk)
    (entity : EntityEntry) (ending : Ending) (less : 3 * rest.length < agent.work) :
    Progress agent
      ({ agent with pending := rest, nonces := nonces, disk := disk }.ended entity ending) where
  config := rfl
  alive := by simp [Agent.ended]
  work := less

variable (libs rcgen) in
/-- The next entity is tried whatever became of those before it. -/
theorem Agent.begin_progress (env : ExchangeEnvironment) (link : Nat) (agent : Agent)
    {entity : EntityEntry} {rest : List EntityEntry} (idle : agent.phase = .idle)
    (next : agent.pending = entity :: rest) :
    Progress agent (agent.begin libs rcgen env link).1 := by
  have before : agent.work = 3 * (rest.length + 1) := by
    simp only [Agent.work, next, idle, List.length_cons, Nat.add_zero]
  have less : 3 * rest.length < agent.work := by omega
  rcases agent.begin_cases libs rcgen env link idle next with
    ⟨report, _, step⟩ | ⟨generated, _, ⟨report, _, step⟩ | ⟨_, step⟩⟩
  · rw [step]
    exact Progress.ended agent rest agent.disk entity _ less
  · rw [step]
    exact Progress.ended agent rest agent.disk entity _ less
  · rw [step]
    refine ⟨rfl, by simp, ?_⟩
    rw [before]
    simp only [Agent.work, Agent.started]
    omega

variable (libs) in
theorem Agent.receive_progress (chunks : List Bytes) (endMessage : String) (agent : Agent)
    {entity : EntityEntry} {generated : GeneratedCsr} {link : Nat} {stream : Stream}
    (receiving : agent.phase = .receiving entity generated link stream) :
    Progress agent (agent.receive libs chunks endMessage) := by
  have before : agent.work = 3 * agent.pending.length + 2 := by
    simp only [Agent.work, receiving]
  have less : 3 * agent.pending.length < agent.work := by omega
  rcases agent.receive_cases libs chunks endMessage receiving with
    ⟨certPem, caCertPem, _, step⟩ | ⟨message, _, step⟩ | ⟨report, _, step⟩
  · rw [step]
    refine ⟨rfl, by simp, ?_⟩
    rw [before]
    simp only [Agent.work]
    omega
  · rw [step]
    exact Progress.ended agent agent.pending agent.disk entity _ less
  · rw [step]
    exact Progress.ended agent agent.pending agent.disk entity _ less

theorem Agent.store_progress (agent : Agent) {entity : EntityEntry} {generated : GeneratedCsr}
    {certPem caCertPem : String}
    (storing : agent.phase = .storing entity generated certPem caCertPem) :
    Progress agent agent.store := by
  have less : 3 * agent.pending.length < agent.work := by
    simp only [Agent.work, storing]
    omega
  rcases agent.store_cases storing with ⟨_, step⟩ | ⟨report, _, step⟩
  · rw [step]
    exact Progress.ended agent agent.pending _ entity _ less
  · rw [step]
    exact Progress.ended agent agent.pending _ entity _ less

def unconnected : ExchangeEnvironment :=
  { keyNonce := 0
    csrNonce := 0
    hostCidVariable := none
    sockets := fun _ _ _ _ => .noSocket "Too many open files (os error 24)"
    writeResults := [] }

theorem mayBegin_unconnected (config : HostConfig) (state : NetworkState) (index : Nat)
    (agent : Agent) : state.MayBegin config index agent unconnected := by
  intro connected
  cases connected

variable (libs rcgen config ca) in
theorem network_progress (state : NetworkState) {index : Nat} {agent : Agent}
    (present : state.agents[index]? = some agent) (alive : agent.phase ≠ .aborted)
    (unfinished : ¬agent.Finished) :
    ∃ action later,
      (networkNext libs rcgen config ca state action).agents[index]? = some later ∧
        Progress agent later := by
  have within := (List.getElem?_eq_some_iff.mp present).1
  cases phase : agent.phase with
  | idle =>
      cases pending : agent.pending with
      | nil => exact absurd ⟨pending, phase⟩ unfinished
      | cons entity rest =>
          refine ⟨.begin index unconnected, _, ?_,
            agent.begin_progress libs rcgen unconnected state.links.length phase pending⟩
          simp only [networkNext, present, if_pos (mayBegin_unconnected config state index agent)]
          exact List.getElem?_set_self within
  | receiving entity generated link stream =>
      refine ⟨.receive index [] "", _, ?_, agent.receive_progress libs [] "" phase⟩
      simp only [networkNext, present, List.flatten_nil, List.nil_prefix, if_true]
      exact List.getElem?_set_self within
  | storing entity generated certPem caCertPem =>
      refine ⟨.store index, _, ?_, agent.store_progress phase⟩
      simp only [networkNext, present]
      exact List.getElem?_set_self within
  | aborted => exact absurd phase alive

/-- From any state an agent can go through its remaining entities on its own. -/
theorem network_completes (state : NetworkState) {index : Nat} {agent : Agent}
    (present : state.agents[index]? = some agent) (alive : agent.phase ≠ .aborted) :
    ∃ actions later,
      ((network libs rcgen config ca).run state actions).agents[index]? = some later ∧
        later.Finished ∧ later.config = agent.config := by
  induction size : agent.work using Nat.strongRecOn generalizing state agent with
  | ind size ih =>
      by_cases finished : agent.Finished
      · exact ⟨[], agent, present, finished, rfl⟩
      · obtain ⟨action, later, laterPresent, progress⟩ :=
          network_progress libs rcgen config ca state present alive finished
        obtain ⟨actions, last, lastPresent, lastFinished, lastConfig⟩ :=
          ih later.work (size ▸ progress.work) _ laterPresent progress.alive rfl
        exact ⟨action :: actions, last, lastPresent, lastFinished,
          lastConfig.trans progress.config⟩

end AuthScope
