/-
Agents and one server, connected.

Every agent runs its entity loop on the disk of its own guest.  It gets a
connection only at the port of the server on the host, and only while no other
agent of its guest has its client port; in the end it holds that port for good.
A connection is accepted at some later time, with what was sent so far or a
beginning of it, or never, and its writes may fail and go on.  The agent receives
some beginning of what the handler of its connection has written.  In between,
handlers, other agents and strangers that connect to the server take any number
of steps.
-/

import AuthScope.Agent.OwnFiles
import AuthScope.Server.Received

set_option autoImplicit false

namespace AuthScope

open ByteText EffectLog ByteStream FileSystem StateMachine

/-- A connection that an agent opened, and its index at the server once it is
accepted. -/
structure Link where
  peerPort : UInt32
  peerCid : UInt32
  sent : Bytes
  connection : Option Nat
  deriving DecidableEq, Repr

structure NetworkState where
  server : ServerState
  agents : List Agent
  links : List Link
  /-- The agents that hold their client ports for good. -/
  listening : List Nat

inductive NetworkAction where
  /-- A step of the server alone: of a handler, or for somebody else. -/
  | server (action : ServerAction)
  | accept (link : Nat) (stream : Stream)
  | begin (agent : Nat) (env : ExchangeEnvironment)
  | receive (agent : Nat) (chunks : List Bytes) (endMessage : String)
  | store (agent : Nat)
  | listen (agent : Nat)

def Link.Accepts (link : Link) (stream : Stream) : Prop :=
  link.connection = none ∧ stream.incoming.flatten <+: link.sent ∧ stream.outgoing = []

instance (link : Link) (stream : Stream) : Decidable (link.Accepts stream) :=
  inferInstanceAs (Decidable (_ ∧ _ ∧ _))

/-- The agent has its client port in use, for a connection or for good. -/
def NetworkState.inUse (state : NetworkState) (index : Nat) (agent : Agent) : Bool :=
  match agent.phase with
  | .receiving _ _ _ _ => true
  | .storing _ _ _ _ => true
  | _ => state.listening.contains index

/-- No other agent of the guest has the client port of this one in use. -/
def NetworkState.portFree (state : NetworkState) (index : Nat) (agent : Agent) : Bool :=
  state.agents.zipIdx.all fun (rival, other) =>
    other == index || rival.cid != agent.cid ||
      rival.config.clientPort != agent.config.clientPort || !state.inUse other rival

/-- If the exchange gets a connection, it is one to the server, from a port that
nobody else has in use. -/
def NetworkState.MayBegin (config : HostConfig) (state : NetworkState) (index : Nat)
    (agent : Agent) (env : ExchangeEnvironment) : Prop :=
  (connectWithLocalPort env agent.config.serverPort agent.config.clientPort).toBool = true →
    env.hostCid = vmaddrCidHost ∧ agent.config.serverPort = config.serverPort ∧
      state.portFree index agent = true

instance (config : HostConfig) (state : NetworkState) (index : Nat) (agent : Agent)
    (env : ExchangeEnvironment) : Decidable (state.MayBegin config index agent env) :=
  inferInstanceAs (Decidable (_ → _ ∧ _ ∧ _))

def NetworkState.answered (state : NetworkState) (link : Nat) : Bytes :=
  match (state.links[link]?).bind Link.connection with
  | some index =>
      match state.server.connections[index]? with
      | some conn => conn.stream.outgoing
      | none => []
  | none => []

/-- What has been written for an agent that waits for a response. -/
def NetworkState.response (state : NetworkState) (agent : Agent) : Bytes :=
  match agent.phase with
  | .receiving _ _ link _ => state.answered link
  | _ => []

def Agent.link (agent : Agent) (sent : Bytes) : Link :=
  { peerPort := agent.config.clientPort
    peerCid := agent.cid
    sent
    connection := none }

variable {κ : Type} (libs : Libraries κ) (rcgen : RequestLibraries κ) (config : HostConfig)
  (ca : CertificateAuthority)

def networkNext (state : NetworkState) : NetworkAction → NetworkState
  | .server action => { state with server := serverNext libs config ca state.server action }
  | .accept link stream =>
      match state.links[link]? with
      | none => state
      | some found =>
          if found.Accepts stream then
            { state with
              server := serverNext libs config ca state.server
                (.accept found.peerPort found.peerCid stream)
              links := state.links.set link
                { found with connection := some state.server.connections.length } }
          else state
  | .begin index env =>
      match state.agents[index]? with
      | none => state
      | some agent =>
          if state.MayBegin config index agent env then
            { state with
              agents := state.agents.set index
                (agent.begin libs rcgen env state.links.length).1
              links := state.links ++
                (agent.begin libs rcgen env state.links.length).2.toList.map agent.link }
          else state
  | .receive index chunks endMessage =>
      match state.agents[index]? with
      | none => state
      | some agent =>
          if chunks.flatten <+: state.response agent then
            { state with
              agents := state.agents.set index (agent.receive libs chunks endMessage) }
          else state
  | .store index =>
      match state.agents[index]? with
      | none => state
      | some agent => { state with agents := state.agents.set index agent.store }
  | .listen index =>
      match state.agents[index]? with
      | none => state
      | some agent =>
          if agent.Finished ∧ state.portFree index agent = true then
            { state with listening := index :: state.listening }
          else state

/-- What an action can do, with what it rests on. -/
inductive NetworkStep (state : NetworkState) : NetworkState → Prop
  | stutter : NetworkStep state state
  | server (action : ServerAction) :
      NetworkStep state { state with server := serverNext libs config ca state.server action }
  | accept (link : Nat) (found : Link) (stream : Stream) (present : state.links[link]? = some found)
      (accepts : found.Accepts stream) :
      NetworkStep state
        { state with
          server := serverNext libs config ca state.server
            (.accept found.peerPort found.peerCid stream)
          links := state.links.set link
            { found with connection := some state.server.connections.length } }
  | begin (index : Nat) (agent : Agent) (env : ExchangeEnvironment)
      (present : state.agents[index]? = some agent)
      (may : state.MayBegin config index agent env) :
      NetworkStep state
        { state with
          agents := state.agents.set index (agent.begin libs rcgen env state.links.length).1
          links := state.links ++
            (agent.begin libs rcgen env state.links.length).2.toList.map agent.link }
  | receive (index : Nat) (agent : Agent) (chunks : List Bytes) (endMessage : String)
      (present : state.agents[index]? = some agent)
      (arrived : chunks.flatten <+: state.response agent) :
      NetworkStep state
        { state with agents := state.agents.set index (agent.receive libs chunks endMessage) }
  | store (index : Nat) (agent : Agent) (present : state.agents[index]? = some agent) :
      NetworkStep state { state with agents := state.agents.set index agent.store }
  | listen (index : Nat) (agent : Agent) (present : state.agents[index]? = some agent)
      (finished : agent.Finished) (free : state.portFree index agent = true) :
      NetworkStep state { state with listening := index :: state.listening }

theorem networkNext_step (state : NetworkState) (action : NetworkAction) :
    NetworkStep libs rcgen config ca state (networkNext libs rcgen config ca state action) := by
  cases action with
  | server action => exact .server action
  | accept link stream =>
      cases present : state.links[link]? with
      | none =>
          simp only [networkNext, present]
          exact .stutter
      | some found =>
          by_cases accepts : found.Accepts stream
          · simp only [networkNext, present, if_pos accepts]
            exact .accept link found stream present accepts
          · simp only [networkNext, present, if_neg accepts]
            exact .stutter
  | begin index env =>
      cases present : state.agents[index]? with
      | none =>
          simp only [networkNext, present]
          exact .stutter
      | some agent =>
          by_cases may : state.MayBegin config index agent env
          · simp only [networkNext, present, if_pos may]
            exact .begin index agent env present may
          · simp only [networkNext, present, if_neg may]
            exact .stutter
  | receive index chunks endMessage =>
      cases present : state.agents[index]? with
      | none =>
          simp only [networkNext, present]
          exact .stutter
      | some agent =>
          by_cases arrived : chunks.flatten <+: state.response agent
          · simp only [networkNext, present, if_pos arrived]
            exact .receive index agent chunks endMessage present arrived
          · simp only [networkNext, present, if_neg arrived]
            exact .stutter
  | store index =>
      cases present : state.agents[index]? with
      | none =>
          simp only [networkNext, present]
          exact .stutter
      | some agent =>
          simp only [networkNext, present]
          exact .store index agent present
  | listen index =>
      cases present : state.agents[index]? with
      | none =>
          simp only [networkNext, present]
          exact .stutter
      | some agent =>
          by_cases done : agent.Finished ∧ state.portFree index agent = true
          · simp only [networkNext, present, if_pos done]
            exact .listen index agent present done.1 done.2
          · simp only [networkNext, present, if_neg done]
            exact .stutter

/-- Any number of agents before their loops, and the server before its first
connection. -/
def network : Machine NetworkState NetworkAction :=
  { initial := fun state => (server libs config ca).initial state.server ∧
      (∀ agent ∈ state.agents, agent.Starts) ∧ state.links = [] ∧ state.listening = []
    next := networkNext libs rcgen config ca }

/-! ### What an agent has asked for and been given -/

/-- The certificate with this text was made and signed by the authority for a public
key, and carries a claim. -/
def Certifies (certPem : String) (subjectKey : Bytes) (claim : CapClaim String) : Prop :=
  ∃ payloadJson jwtKey jwtNonce jwtSignature params issuer caKey tbs nonce signature,
    libs.claimJson.toVec claim = .ok payloadJson ∧
      libs.ecdsaFromPkcs8 ca.keyDer = .ok jwtKey ∧
      libs.ecdsaSign jwtKey jwtNonce (utf8 (signingInput payloadJson)) = .ok jwtSignature ∧
      params.customExtensions = [capExtension (tokenText payloadJson jwtSignature)] ∧
      libs.keyPairFromPem ca.keyPem = .ok caKey ∧
      libs.caParamsFromPem ca.certPem = .ok issuer ∧
      libs.tbsCertificate params subjectKey issuer (libs.publicKey caKey) = .ok tbs ∧
      libs.signTbs caKey nonce tbs = .ok signature ∧
      certPem = libs.certificatePem (libs.certificateDer tbs signature)

structure Requested (agentConfig : AgentConfig) (entity : EntityEntry) (nonces : Nonces)
    (generated : GeneratedCsr) (sent : Bytes) : Prop where
  made : generateCsr libs rcgen nonces.key nonces.csr entity.name = .ok generated
  sent : ∃ payload, libs.requestJson.toVec (certRequest agentConfig entity generated) =
    .ok payload ∧ sent = frame payload

/-- A connection from the guest of the agent was answered with the certificate,
and nothing but the request for the entity arrived on it. -/
def AnsweredTo (connections : List Connection) (agent : Agent) (entity : EntityEntry)
    (nonces : Nonces) (generated : GeneratedCsr) (certPem caCertPem : String) : Prop :=
  ∃ conn ∈ connections, ∃ sent, conn.peerCid = agent.cid ∧
    conn.arrival.incoming.flatten <+: sent ∧
    Requested libs rcgen agent.config entity nonces generated sent ∧
    .ok certPem caCertPem ∈ conn.answers

/-- The credentials are those of an exchange for the entity: the key it drew, a
certificate for that key with the entity's and the agent's names, and the
certificate of the authority. -/
def OwnCredentials (agentConfig : AgentConfig) (entity : EntityEntry) (nonces : Nonces)
    (generated : GeneratedCsr) (certPem caCertPem : String) : Prop :=
  caCertPem = ca.certPem ∧
    generateCsr libs rcgen nonces.key nonces.csr entity.name = .ok generated ∧
    ∃ key claim, libs.generateKey nonces.key = .ok key ∧
      generated.keyPem = libs.serializePem key ∧
      Certifies libs ca certPem (libs.publicKey key) claim ∧
      claim.sub = entity.name ∧ claim.vm = agentConfig.vmName

/-- What an agent waits for on its link, and what it has been given. -/
structure AgentInv (connections : List Connection) (links : List Link) (agent : Agent) :
    Prop where
  receiving : ∀ entity generated link stream,
    agent.phase = .receiving entity generated link stream →
    ∃ found, links[link]? = some found ∧ found.peerCid = agent.cid ∧
      Requested libs rcgen agent.config entity agent.nonces generated found.sent
  storing : ∀ entity generated certPem caCertPem,
    agent.phase = .storing entity generated certPem caCertPem →
    AnsweredTo libs rcgen connections agent entity agent.nonces generated certPem caCertPem
  recorded : ∀ record ∈ agent.records, ∀ generated certPem caCertPem,
    record.ending.credentials = some (generated, certPem, caCertPem) →
    AnsweredTo libs rcgen connections agent record.entity record.nonces generated certPem
      caCertPem

structure Link.Carried (link : Link) (conn : Connection) : Prop where
  cid : conn.peerCid = link.peerCid
  arrived : conn.arrival.incoming.flatten <+: link.sent
  outgoing : conn.arrival.outgoing = []

structure NetworkInv (state : NetworkState) : Prop where
  server : (server libs config ca).Reachable state.server
  links : ∀ link ∈ state.links, ∀ index, link.connection = some index →
    ∃ conn, state.server.connections[index]? = some conn ∧ link.Carried conn
  files : ∀ agent ∈ state.agents, agent.config.DistinctPaths → FilesInv agent

/-- What the writes on any connection can fail with has a short report. -/
def ReportsShort (connections : List Connection) : Prop :=
  ∀ conn ∈ connections, ∀ message, FailsWith conn.arrival message → ShortReport libs message

end AuthScope
