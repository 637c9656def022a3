/-
An exchange that nothing disturbs.

An agent whose next entity is registered asks for a certificate over connections
and a disk that do not fail.  From any state of the network the actions of this
one exchange lead to a state in which the agent has stored the credentials.
-/

import AuthScope.Agent.Store
import AuthScope.Network.Credentials
import AuthScope.Server.Replies

set_option autoImplicit false

namespace AuthScope

open ByteText EffectLog ByteStream FileSystem StateMachine

section Exchange

variable {κ : Type} (libs : Libraries κ) (rcgen : RequestLibraries κ) (config : HostConfig)
  (ca : CertificateAuthority)

/-- What an undisturbed exchange comes to: the key and the request of the entity,
the issuance, and what is sent in either direction. -/
structure Course (κ : Type) where
  env : ExchangeEnvironment
  signing : SigningEnvironment
  generated : GeneratedCsr
  issuance : Issuance κ
  request : Bytes
  response : Bytes

/-- The connection and the disk of the agent do not fail, the entity is
registered, and the certificate can be issued. -/
structure Undisturbed (agent : Agent) (entity : EntityEntry) (course : Course κ) : Prop where
  prepared : prepare libs rcgen course.env agent.config entity = .ok course.generated
  host : course.env.hostCid = vmaddrCidHost
  serverPort : agent.config.serverPort = config.serverPort
  writes : course.env.writeResults = []
  request : libs.requestJson.toVec (certRequest agent.config entity course.generated) =
    .ok course.request
  requestFits : course.request.length ≤ maxMsgBytes
  port : agent.config.clientPort = config.peerPort
  issued : ∃ vmEntry policy, Authorised config agent.cid
      (certRequest agent.config entity course.generated) vmEntry policy ∧
    course.issuance.Valid libs course.signing ca (signingRequest agent.cid
      (certRequest agent.config entity course.generated) (decisionOf config
        (certRequest agent.config entity course.generated).vmName vmEntry policy))
  response : libs.responseJson.toVec (.ok (course.issuance.pem libs) ca.certPem) =
    .ok course.response
  responseFits : course.response.length ≤ maxMsgBytes
  disk : agent.disk.Reliable
  areFiles : entity.AreFiles
  certMode : ∃ mode, parseOctalMode entity.certMode = .ok mode
  keyMode : ∃ mode, parseOctalMode entity.keyMode = .ok mode

theorem run_server (state : NetworkState) (actions : List ServerAction) :
    (network libs rcgen config ca).run state (actions.map .server) =
      { state with server := (server libs config ca).run state.server actions } := by
  induction actions generalizing state with
  | nil => rfl
  | cons action rest ih =>
      rw [List.map_cons, Machine.run, List.foldl_cons]
      exact ih (networkNext libs rcgen config ca state (.server action))

variable {libs rcgen config ca} {agent : Agent} {entity : EntityEntry} {course : Course κ}
  (undisturbed : Undisturbed libs rcgen config ca agent entity course)

def Course.requested (course : Course κ) : Stream :=
  { course.env.stream [] "" with outgoing := frame course.request }

include undisturbed

theorem Undisturbed.begins {rest : List EntityEntry} (link : Nat) (idle : agent.phase = .idle)
    (next : agent.pending = entity :: rest) :
    agent.begin libs rcgen course.env link =
      ({ agent.started course.env rest with
          phase := .receiving entity course.generated link course.requested },
        some (frame course.request)) := by
  have reliable : (course.env.stream [] "").Reliable := undisturbed.writes
  have sent : (sendRequest libs agent.config entity course.generated).run
      (course.env.stream [] "") =
        { outcome := .ok (), state := course.requested, log := [] } := by
    rw [sendRequest, Prog.mapErr_run, sendJson_run_reliable libs.requestJson _ course.request
      undisturbed.request _ reliable]
    rfl
  simp only [Agent.begin, idle, next, undisturbed.prepared, sent]
  rfl

def Course.arrived (course : Course κ) : Stream :=
  { incoming := [frame course.request]
    endMessage := ""
    writeResults := []
    outgoing := [] }

theorem Undisturbed.answers (roundTrips : libs.requestJson.RoundTrips) :
    ((handleConnection libs course.signing config ca agent.cid).run
      course.arrived).state.outgoing = frame course.response := by
  obtain ⟨vmEntry, policy, authorised, valid⟩ := undisturbed.issued
  have received : Received course.arrived libs
      (certRequest agent.config entity course.generated) := by
    refine (recvJson_outcome_eq_ok_iff _ _ _).mpr ⟨course.request, [], ?_,
      undisturbed.requestFits, roundTrips.fromSlice undisturbed.request⟩
    rw [Course.arrived, List.flatten_singleton, List.append_nil]
  obtain ⟨left, afterRead⟩ := afterRequest_eq course.arrived libs
  have answer : ((respond libs course.signing config ca agent.cid
      (certRequest agent.config entity course.generated) :
        Prog SignEvent Stream String CertResponse).run (afterRequest course.arrived libs)).outcome =
          .ok (.ok (course.issuance.pem libs) ca.certPem) :=
    (respond_eq_ok_iff _ _ _ _).mpr
      ⟨vmEntry, policy, authorised, rfl, course.issuance, valid, rfl⟩
  obtain ⟨outcome, state⟩ := handleInner_of_answer received answer
  have sent := sendJson_run_reliable (ω := SignEvent) libs.responseJson
    (.ok (course.issuance.pem libs) ca.certPem) course.response undisturbed.response
    (afterRequest course.arrived libs) (by rw [afterRead]; rfl)
  rw [sent] at outcome state
  rw [(handleConnection_run_of_ok _ outcome).2, state, afterRead]
  rfl

theorem Undisturbed.receives (roundTrips : libs.responseJson.RoundTrips) {waiting : Agent}
    {link : Nat} {stream : Stream}
    (receiving : waiting.phase = .receiving entity course.generated link stream) :
    waiting.receive libs [frame course.response] "" =
      { waiting with
        phase := .storing entity course.generated (course.issuance.pem libs) ca.certPem } := by
  have received : ((recvResponse libs).run (arriving [frame course.response] ""
      stream)).outcome = .ok (.ok (course.issuance.pem libs) ca.certPem) := by
    rw [recvResponse, Prog.mapErr_run, Outcome.mapErr_eq_ok_iff]
    refine (recvJson_outcome_eq_ok_iff _ _ _).mpr ⟨course.response, [], ?_,
      undisturbed.responseFits, roundTrips.fromSlice undisturbed.response⟩
    rw [arriving, List.flatten_singleton, List.append_nil]
  simp only [Agent.receive, receiving, received]

theorem Undisturbed.stores {certPem caCertPem : String} (storing : Agent)
    (phase : storing.phase = .storing entity course.generated certPem caCertPem)
    (disk : storing.disk = agent.disk) :
    ∃ after, storing.store = { storing with disk := after }.ended entity
      (.stored course.generated certPem caCertPem) := by
  obtain ⟨certMode, certParsed⟩ := undisturbed.certMode
  obtain ⟨keyMode, keyParsed⟩ := undisturbed.keyMode
  have stored := storeEntityCredentials_of_reliable agent.disk entity certPem
    course.generated.keyPem caCertPem undisturbed.areFiles undisturbed.disk certParsed keyParsed
  rw [← disk] at stored
  simp only [Agent.store, phase, stored]
  exact ⟨_, rfl⟩

/-! ### The exchange -/

def Course.actions (course : Course κ) (state : NetworkState) (index : Nat) :
    List NetworkAction :=
  [.begin index course.env, .accept state.links.length course.arrived] ++
    (List.replicate 4 (ServerAction.advance state.server.connections.length
      course.signing)).map .server ++
    [.receive index [frame course.response] "", .store index]

def Course.waiting (course : Course κ) (agent : Agent) (entity : EntityEntry)
    (rest : List EntityEntry) (link : Nat) : Agent :=
  { agent.started course.env rest with
    phase := .receiving entity course.generated link course.requested }

def Course.storing (course : Course κ) (libs : Libraries κ) (ca : CertificateAuthority)
    (agent : Agent) (entity : EntityEntry) (rest : List EntityEntry) : Agent :=
  { agent.started course.env rest with
    phase := .storing entity course.generated (course.issuance.pem libs) ca.certPem }

def Course.handled (course : Course κ) (libs : Libraries κ) (config : HostConfig)
    (ca : CertificateAuthority) (agent : Agent) : Connection :=
  ((acceptConnection config agent.config.clientPort agent.cid course.arrived).advanceMany libs
    config ca course.signing 4).1

omit undisturbed in
theorem Course.handled_short (course : Course κ) {earlier : List Connection}
    (short : ReportsShort libs earlier) (config : HostConfig) (ca : CertificateAuthority)
    (agent : Agent) : ReportsShort libs (earlier ++ [course.handled libs config ca agent]) := by
  intro conn member message fails
  rcases List.mem_append.mp member with before | now
  · exact short conn before message fails
  · have arrival : conn.arrival = course.arrived := by
      rw [List.mem_singleton.mp now]
      exact (advanceMany_samePeer _ _ _).arrival
    obtain ⟨count, impossible⟩ := fails
    rw [arrival] at impossible
    cases impossible

theorem Undisturbed.handled_outgoing (roundTrips : libs.requestJson.RoundTrips) :
    (course.handled libs config ca agent).stream.outgoing = frame course.response := by
  have finishes := @finishes_handleConnection κ libs config ca course.signing
    (acceptConnection config agent.config.clientPort agent.cid course.arrived)
    (acceptConnection_phase _ _ _ undisturbed.port)
  rw [Course.handled, finishes.stream, acceptConnection_peerCid, acceptConnection_stream]
  exact undisturbed.answers roundTrips

section Steps

variable (state : NetworkState) (index : Nat)

def Course.served (course : Course κ) (libs : Libraries κ) (config : HostConfig)
    (ca : CertificateAuthority) (agent : Agent) (entity : EntityEntry) (rest : List EntityEntry)
    (signatures : List (Nat × SignEvent)) : NetworkState :=
  { state with
    server :=
      { connections := state.server.connections ++ [course.handled libs config ca agent]
        signatures }
    agents := state.agents.set index (course.waiting agent entity rest state.links.length)
    links := state.links ++
      [{ agent.link (frame course.request) with
        connection := some state.server.connections.length }] }

theorem Undisturbed.serves {rest : List EntityEntry} (present : state.agents[index]? = some agent)
    (free : state.portFree index agent = true) (idle : agent.phase = .idle)
    (next : agent.pending = entity :: rest) :
    ∃ signatures, (network libs rcgen config ca).run state
        ([.begin index course.env, .accept state.links.length course.arrived] ++
          (List.replicate 4 (ServerAction.advance state.server.connections.length
            course.signing)).map .server) =
      course.served state index libs config ca agent entity rest signatures := by
  have may : state.MayBegin config index agent course.env :=
    fun _ => ⟨undisturbed.host, undisturbed.serverPort, free⟩
  have begun : (network libs rcgen config ca).next state (.begin index course.env) =
      { state with
        agents := state.agents.set index (course.waiting agent entity rest state.links.length)
        links := state.links ++ [agent.link (frame course.request)] } := by
    simp only [network, networkNext, present, if_pos may,
      undisturbed.begins state.links.length idle next]
    rfl
  have linked : (state.links ++ [agent.link (frame course.request)])[state.links.length]? =
      some (agent.link (frame course.request)) := List.getElem?_concat_length
  have accepts : (agent.link (frame course.request)).Accepts course.arrived :=
    ⟨rfl, ⟨[], (List.append_nil _).trans List.flatten_singleton⟩, rfl⟩
  have accepted : (network libs rcgen config ca).next
      { state with
        agents := state.agents.set index (course.waiting agent entity rest state.links.length)
        links := state.links ++ [agent.link (frame course.request)] }
      (.accept state.links.length course.arrived) =
        { state with
          server :=
            { connections := state.server.connections ++
                [acceptConnection config agent.config.clientPort agent.cid course.arrived]
              signatures := state.server.signatures }
          agents := state.agents.set index
            (course.waiting agent entity rest state.links.length)
          links := state.links ++
            [{ agent.link (frame course.request) with
              connection := some state.server.connections.length }] } := by
    simp only [network, networkNext, linked, if_pos accepts, serverNext]
    rw [List.set_append_right _ _ (Nat.le_refl _), Nat.sub_self, List.set_cons_zero]
    rfl
  obtain ⟨signatures, served⟩ := @run_last κ libs config ca course.signing 4
    state.server.connections
    (acceptConnection config agent.config.clientPort agent.cid course.arrived)
    state.server.signatures
  refine ⟨signatures, ?_⟩
  have handled := run_server libs rcgen config ca
    { state with
      server :=
        { connections := state.server.connections ++
            [acceptConnection config agent.config.clientPort agent.cid course.arrived]
          signatures := state.server.signatures }
      agents := state.agents.set index (course.waiting agent entity rest state.links.length)
      links := state.links ++
        [{ agent.link (frame course.request) with
          connection := some state.server.connections.length }] }
    (List.replicate 4 (.advance state.server.connections.length course.signing))
  rw [served] at handled
  rw [Machine.run, List.foldl_append, List.foldl_cons, List.foldl_cons, List.foldl_nil, begun,
    accepted]
  exact handled

theorem Undisturbed.response_served (roundTrips : libs.requestJson.RoundTrips)
    {rest : List EntityEntry} (signatures : List (Nat × SignEvent)) :
    (course.served state index libs config ca agent entity rest signatures).response
      (course.waiting agent entity rest state.links.length) = frame course.response := by
  have handled := undisturbed.handled_outgoing roundTrips
  simp only [NetworkState.response, Course.waiting, NetworkState.answered, Course.served,
    List.getElem?_concat_length, Option.bind_some, handled]

end Steps

def Course.record (course : Course κ) (libs : Libraries κ) (ca : CertificateAuthority)
    (entity : EntityEntry) : EntityRecord :=
  { entity
    nonces := course.env.nonces
    ending := .stored course.generated (course.issuance.pem libs) ca.certPem }

theorem Undisturbed.ownCredentials (requestLaw : rcgen.RequestLaw libs)
    (noExtensions : libs.RequestsCarryNoExtensions) :
    OwnCredentials libs rcgen ca agent.config entity course.env.nonces course.generated
      (course.issuance.pem libs) ca.certPem := by
  obtain ⟨_, _, _, valid⟩ := undisturbed.issued
  exact valid.ownCredentials requestLaw noExtensions (prepare_eq_ok undisturbed.prepared)

/-- An undisturbed exchange ends with stored credentials. -/
theorem exchange_stores (requestTrips : libs.requestJson.RoundTrips)
    (responseTrips : libs.responseJson.RoundTrips) (state : NetworkState) (index : Nat)
    {rest : List EntityEntry} (present : state.agents[index]? = some agent)
    (free : state.portFree index agent = true) (idle : agent.phase = .idle)
    (next : agent.pending = entity :: rest) :
    ∃ after, ((network libs rcgen config ca).run state
        (course.actions state index)).agents[index]? =
      some { agent with
        pending := rest
        nonces := course.env.nonces
        disk := after
        records := agent.records ++ [course.record libs ca entity] } ∧
      ((network libs rcgen config ca).run state
        (course.actions state index)).server.connections =
          state.server.connections ++ [course.handled libs config ca agent] := by
  have within := (List.getElem?_eq_some_iff.mp present).1
  obtain ⟨signatures, served⟩ := undisturbed.serves state index present free idle next
  have response : (course.served state index libs config ca agent entity rest
      signatures).response (course.waiting agent entity rest state.links.length) =
        frame course.response := undisturbed.response_served state index requestTrips signatures
  have current : (course.served state index libs config ca agent entity rest
      signatures).agents[index]? = some (course.waiting agent entity rest state.links.length) :=
    List.getElem?_set_self within
  have received : (course.waiting agent entity rest state.links.length).receive libs
      [frame course.response] "" = course.storing libs ca agent entity rest :=
    undisturbed.receives responseTrips rfl
  have delivered : [frame course.response].flatten <+:
      (course.served state index libs config ca agent entity rest signatures).response
        (course.waiting agent entity rest state.links.length) := by
    refine ⟨[], ?_⟩
    rw [response, List.flatten_singleton, List.append_nil]
  have reading : (network libs rcgen config ca).next
      (course.served state index libs config ca agent entity rest signatures)
      (.receive index [frame course.response] "") =
        { course.served state index libs config ca agent entity rest signatures with
          agents := (course.served state index libs config ca agent entity rest
            signatures).agents.set index (course.storing libs ca agent entity rest) } := by
    simp only [network, networkNext, current, if_pos delivered, received]
  have changed : ((course.served state index libs config ca agent entity rest
      signatures).agents.set index (course.storing libs ca agent entity rest))[index]? =
        some (course.storing libs ca agent entity rest) :=
    List.getElem?_set_self (List.getElem?_eq_some_iff.mp current).1
  obtain ⟨after, stored⟩ : ∃ after, (course.storing libs ca agent entity rest).store =
      { course.storing libs ca agent entity rest with disk := after }.ended entity
        (.stored course.generated (course.issuance.pem libs) ca.certPem) :=
    undisturbed.stores (course.storing libs ca agent entity rest) rfl rfl
  refine ⟨after, ?_⟩
  rw [Machine.run] at served
  rw [Course.actions, Machine.run, List.foldl_append, served, List.foldl_cons, List.foldl_cons,
    List.foldl_nil, reading]
  simp only [network, networkNext, changed, stored]
  rw [List.getElem?_set_self (List.getElem?_eq_some_iff.mp changed).1]
  constructor
  · simp only [Agent.ended, Agent.started, Course.storing, Course.record, idle]
  · rfl

end Exchange

end AuthScope
