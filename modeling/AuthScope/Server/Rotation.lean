/-
A new authority ends the old credentials.

Under the key of a regenerated authority the daemons on its files have signed
since then.  If none of the signatures that somebody holds verifies under it but
for what they signed, a claim that is accepted with one of these was granted since
the regeneration, by the policy of the daemon that signed it, to the guest that
the kernel reported; what was granted before is worth nothing.
-/

import AuthScope.Evaluator.Authenticity
import AuthScope.Server.Isolation
import AuthScope.Server.Lives

set_option autoImplicit false

namespace AuthScope

open ByteText EffectLog ByteStream FileSystem StateMachine CertificateAuthority

variable {κ : Type} {libs : Libraries κ} {config : HostConfig} {ca : CertificateAuthority}

def SignEvent.MadeFor (req : SigningRequest) (event : SignEvent) : Prop :=
  ∀ claim message, event = .capJwt claim message → ∃ now, claim = buildClaim now req

theorem signCsr_madeFor {σ : Type} (state : σ) (env : SigningEnvironment) (req : SigningRequest)
    {event : SignEvent}
    (member : event ∈
      ((signCsr libs env ca req : Prog SignEvent σ CaError String).run state).log) :
    event.MadeFor req := by
  intro claim message same
  rcases mem_signCsr_log state env ca req event member with
    ⟨now, _, _, _, isToken⟩ | ⟨_, _, _, _, _, isBody⟩ | ⟨_, _, _, _, _, _, _, _, _, _, isBody⟩
  · rw [isToken] at same
    cases same
    exact ⟨now, rfl⟩
  · rw [isBody] at same
    cases same
  · rw [isBody] at same
    cases same

theorem signCsr_separated {σ : Type} (tbsLaw : libs.TbsLaw) (importsRoot : ca.ImportsRoot libs)
    (state : σ) (env : SigningEnvironment) (req : SigningRequest) {event : SignEvent}
    (member : event ∈
      ((signCsr libs env ca req : Prog SignEvent σ CaError String).run state).log) :
    event.Separated libs := by
  rcases mem_signCsr_log state env ca req event member with
    ⟨_, payloadJson, _, serialised, same⟩ | ⟨_, params, _, imported, built, same⟩ |
    ⟨_, payloadJson, signature, _, _, _, _, _, _, built, same⟩
  · rw [same]
    exact ⟨payloadJson, serialised, rfl⟩
  · rw [same]
    obtain ⟨authority, plain⟩ := importsRoot params imported
    exact authority_separated tbsLaw _ _ _ _ _ built authority plain
  · rw [same]
    exact leaf_separated tbsLaw _ _ _ _ _ payloadJson signature built
      (List.mem_append_right _ (List.mem_singleton_self _))

theorem respond_signs {σ : Type} (state : σ) (env : SigningEnvironment) (peerCid : UInt32)
    (req : CertRequest) {event : SignEvent}
    (member : event ∈ ((respond libs env config ca peerCid req :
      Prog SignEvent σ String CertResponse).run state).log) :
    ∃ vmEntry policy, Authorised config peerCid req vmEntry policy ∧
      event ∈ ((signCsr libs env ca (signingRequest peerCid req
        (decisionOf config req.vmName vmEntry policy)) :
          Prog SignEvent σ CaError String).run state).log := by
  obtain ⟨vmEntry, policy, authorised⟩ := respond_log state req event member
  refine ⟨vmEntry, policy, authorised, ?_⟩
  rw [respond_of_authorised req authorised] at member
  rcases (Prog.mem_bind_log state _ _ event).mp member with signed | ⟨_, _, later⟩
  · exact signed
  · cases later

variable (libs config ca) in
/-- The signature was made for a request that its connection was admitted with. -/
def SignedFor (conn : Connection) (event : SignEvent) : Prop :=
  (libs.TbsLaw → ca.ImportsRoot libs → event.Separated libs) ∧
    ∃ req vmEntry policy, Admitted libs config conn req vmEntry policy ∧
      event.MadeFor (signingRequest conn.peerCid req (decisionOf config req.vmName vmEntry policy))

theorem SignedFor.transfer {conn later : Connection} {event : SignEvent}
    (same : SamePeer conn later) (signed : SignedFor libs config ca conn event) :
    SignedFor libs config ca later event := by
  obtain ⟨separated, req, vmEntry, policy, admitted, madeFor⟩ := signed
  refine ⟨separated, req, vmEntry, policy, admitted.transfer same, ?_⟩
  rw [same.cid]
  exact madeFor

theorem advance_signs (env : SigningEnvironment) {index : Nat} {conn : Connection}
    {signatures : List (Nat × SignEvent)}
    (inv : ConnectionInv libs config ca index conn signatures) {event : SignEvent}
    (member : event ∈ (conn.advance libs config ca env).2) :
    SignedFor libs config ca conn event := by
  unfold Connection.advance at member
  cases phase : conn.phase with
  | deciding req =>
      rw [phase] at member
      obtain ⟨port, received⟩ := inv.deciding req phase
      obtain ⟨vmEntry, policy, authorised, signed⟩ :=
        respond_signs conn.stream env conn.peerCid req member
      exact ⟨fun tbsLaw importsRoot => signCsr_separated tbsLaw importsRoot _ _ _ signed, req,
        vmEntry, policy, ⟨port, received, authorised⟩, signCsr_madeFor _ _ _ signed⟩
  | reading =>
      rw [phase] at member
      dsimp only at member
      rw [recvJson_log] at member
      cases member
  | answering response =>
      rw [phase] at member
      dsimp only at member
      rw [sendJson_log] at member
      cases member
  | reporting message =>
      rw [phase] at member
      dsimp only at member
      rw [sendJson_log] at member
      cases member
  | closed =>
      rw [phase] at member
      cases member

/-- Every signature of a server was made for one of its connections. -/
theorem server_signs {state : ServerState} (reached : (server libs config ca).Reachable state) :
    ∀ index event, (index, event) ∈ state.signatures →
      ∃ conn, state.connections[index]? = some conn ∧ SignedFor libs config ca conn event := by
  apply reached.invariant_from
  · intro initial isInitial index event member
    rw [isInitial] at member
    cases member
  · intro earlier action earlierReached signs index event member
    have kept := serverNext_connections libs config ca earlier action
    have old : (index, event) ∈ earlier.signatures →
        ∃ conn, (serverNext libs config ca earlier action).connections[index]? = some conn ∧
          SignedFor libs config ca conn event := by
      intro before
      obtain ⟨conn, present, signed⟩ := signs index event before
      obtain ⟨later, laterPresent, same, _⟩ := kept index conn present
      exact ⟨later, laterPresent, signed.transfer same⟩
    cases action with
    | accept peerPort peerCid stream => exact old member
    | acceptFailed => exact old member
    | advance stepped env =>
        cases present : earlier.connections[stepped]? with
        | none =>
            simp only [server, serverNext, present] at member
            exact old member
        | some conn =>
            simp only [server, serverNext, present] at member
            rcases List.mem_append.mp member with before | now
            · exact old before
            · obtain ⟨made, isMade, tagged⟩ := List.mem_map.mp now
              cases tagged
              have inv := (server_inv earlierReached).connections index conn present
              obtain ⟨later, laterPresent, same, _⟩ := kept index conn present
              exact ⟨later, laterPresent, (advance_signs env inv isMade).transfer same⟩

section Regeneration

variable (pathOf : String → Path) (first : Nat) (certFile keyFile : Place) (state : HostState)

/-- What the daemons on these files signed, from one life on. -/
def HostState.signedSince : List SignEvent :=
  ((state.lives.drop first).filter fun life => life.Uses certFile keyFile pathOf).flatMap
    fun life => life.server.signatures.map Prod.snd

theorem HostState.mem_signedSince {event : SignEvent}
    (member : event ∈ state.signedSince pathOf first certFile keyFile) :
    ∃ (index : Nat) (life : Life), first ≤ index ∧ state.lives[index]? = some life ∧
      life.Uses certFile keyFile pathOf ∧ ∃ connection, (connection, event) ∈
        life.server.signatures := by
  obtain ⟨life, kept, signed⟩ := List.mem_flatMap.mp member
  obtain ⟨dropped, uses⟩ := List.mem_filter.mp kept
  obtain ⟨index, present⟩ := List.mem_iff_getElem?.mp dropped
  rw [List.getElem?_drop] at present
  obtain ⟨⟨connection, _⟩, made, rfl⟩ := List.mem_map.mp signed
  exact ⟨first + index, life, Nat.le_add_right first index, present, of_decide_eq_true uses,
    connection, made⟩

variable (libs) in
/-- From one life on a daemon on these files granted the claim, by its own policy,
to the guest behind the connection. -/
def GrantedSince (claim : CapClaim String) : Prop :=
  ∃ (index : Nat) (life : Life), first ≤ index ∧ state.lives[index]? = some life ∧
    life.Uses certFile keyFile pathOf ∧
    ∃ conn ∈ life.server.connections, ∃ req vmEntry policy now,
      Admitted libs life.config conn req vmEntry policy ∧
      claim = buildClaim now (signingRequest conn.peerCid req
        (decisionOf life.config req.vmName vmEntry policy))

variable {pathOf first certFile keyFile state} {certs : Bytes → List (Except String Bytes)}
  {fromStr : String → Except String HostConfig}

/-- The signatures under a new authority are those of a history of it. -/
theorem caInv_since (tbsLaw : libs.TbsLaw) (importLaw : libs.ImportLaw) {keyNonce certNonce : Nat}
    (made : (generated libs keyNonce certNonce).outcome = .ok ca)
    (reached : (host libs certs pathOf fromStr).Reachable state)
    (since : AuthoritySince libs certs pathOf certFile keyFile first ca state) :
    CaInv libs
      { ca
        log := (generated libs keyNonce certNonce).log ++
          state.signedSince pathOf first certFile keyFile } := by
  have start := generate_inv tbsLaw importLaw keyNonce certNonce ca made
  refine ⟨start.importsRoot, ?_⟩
  intro event member
  rcases List.mem_append.mp member with root | later
  · exact start.separated event root
  · obtain ⟨index, life, notBefore, present, uses, connection, signed⟩ :=
      state.mem_signedSince pathOf first certFile keyFile later
    have sameCa := since.lives index life notBefore present uses
    obtain ⟨_, _, separated, _⟩ := server_signs (host_serves reached index life present)
      connection event signed
    rw [sameCa] at separated
    exact separated tbsLaw start.importsRoot

theorem grantedSince_of_signed (reached : (host libs certs pathOf fromStr).Reachable state)
    {keyNonce certNonce : Nat} {claim : CapClaim String} {message : Bytes}
    (signed : .capJwt claim message ∈ (generated libs keyNonce certNonce).log ++
      state.signedSince pathOf first certFile keyFile) :
    GrantedSince libs pathOf first certFile keyFile state claim := by
  rcases List.mem_append.mp signed with root | later
  · obtain ⟨_, _, _, isBody⟩ := mem_generate_log keyNonce certNonce _ root
    cases isBody
  · obtain ⟨index, life, notBefore, present, uses, connection, made⟩ :=
      state.mem_signedSince pathOf first certFile keyFile later
    obtain ⟨conn, found, _, req, vmEntry, policy, admitted, madeFor⟩ :=
      server_signs (host_serves reached index life present) connection _ made
    obtain ⟨now, same⟩ := madeFor claim message rfl
    exact ⟨index, life, notBefore, present, uses, conn, List.mem_of_getElem? found, req, vmEntry,
      policy, now, admitted, same⟩

end Regeneration

section Theorem

variable {certs : Bytes → List (Except String Bytes)} {pathOf : String → Path}
  {fromStr : String → Except String HostConfig}

/-- After a start that generates, whatever follows that leaves its files as they are:
if none of the signatures that somebody holds verifies under the new key but for
what the daemons on its files signed since, then either evaluator accepts with
these, beside the new certificate, only what the daemons granted. -/
theorem regeneration_ends_credentials (laws : FormsLaw libs certs) (json : libs.ClaimJsonLaw)
    (tbsLaw : libs.TbsLaw) (importLaw : libs.ImportLaw) (state : HostState)
    (reached : (host libs certs pathOf fromStr).Reachable state) (cli : ServerCli)
    (genkey : cli.genkey = true) (env : StartEnvironment) (process : Process)
    (faults : List Fault) (life : Life)
    (started : (hostNext libs certs pathOf fromStr state
      (.start cli env process faults)).lives = state.lives ++ [life])
    (distinct : (pathOf life.config.caCertPath).place ≠ (pathOf life.config.caKeyPath).place)
    (key : κ) (matchesKey : life.ca.MatchesKey libs key) (actions : List HostAction)
    (spares : SparesAll libs certs pathOf fromStr (pathOf life.config.caCertPath)
      (pathOf life.config.caKeyPath)
      (hostNext libs certs pathOf fromStr state (.start cli env process faults)) actions)
    (after : HostState)
    (ran : (host libs certs pathOf fromStr).run (hostNext libs certs pathOf fromStr state
      (.start cli env process faults)) actions = after)
    (held : Bytes → Prop) (unforgeable : libs.Unforgeable held (libs.publicKey key)
      (((generated libs env.keyNonce env.certNonce).log ++
        after.signedSince pathOf state.lives.length (pathOf life.config.caCertPath)
          (pathOf life.config.caKeyPath)).map SignEvent.message)) :
    (∀ peerCertPem evaluator,
      (∀ signature, Evaluator.Presents libs peerCertPem signature → held signature) →
      Evaluator.fromCertPem libs peerCertPem life.ca.certPem = .ok evaluator →
      GrantedSince libs pathOf state.lives.length (pathOf life.config.caCertPath)
        (pathOf life.config.caKeyPath) after evaluator.claim) ∧
    ∀ peerCertPem evaluator,
      (∀ signature, GoEvaluator.Presents libs peerCertPem signature → held signature) →
      GoEvaluator.newEvaluator libs peerCertPem (utf8 life.ca.certPem) = .ok evaluator →
      ∃ claim, evaluator.claim = claim.map utf8 ∧
        GrantedSince libs pathOf state.lives.length (pathOf life.config.caCertPath)
          (pathOf life.config.caKeyPath) after claim := by
  have since : AuthoritySince libs certs pathOf (pathOf life.config.caCertPath)
      (pathOf life.config.caKeyPath) state.lives.length life.ca after := by
    rw [← ran]
    exact (authoritySince_start laws state started distinct).run laws distinct actions spares
  have reachedAfter : (host libs certs pathOf fromStr).Reachable after := by
    rw [← ran]
    exact (reached.step (.start cli env process faults)).run actions
  have made := generated_of_started laws state genkey started
  have inv := caInv_since tbsLaw importLaw made reachedAfter since
  constructor
  · intro peerCertPem evaluator holds accepted
    obtain ⟨message, signed⟩ :=
      fromCertPem_authentic json inv matchesKey unforgeable holds accepted
    exact grantedSince_of_signed reachedAfter signed
  · intro peerCertPem evaluator holds accepted
    obtain ⟨claim, message, same, signed⟩ :=
      newEvaluator_authentic json inv matchesKey unforgeable holds accepted
    exact ⟨claim, same, grantedSince_of_signed reachedAfter signed⟩

end Theorem

/-! ### A regeneration and one request -/

theorem events_of_authorised (env : SigningEnvironment) (conn : Connection)
    (fresh : conn.phase = .reading) {req : CertRequest} {vmEntry : VmEntry}
    {policy : EntityPolicy} {issuance : Issuance κ}
    (received : ((recvJson libs.requestJson : Prog SignEvent Stream String CertRequest).run
      conn.stream).outcome = .ok req)
    (authorised : Authorised config conn.peerCid req vmEntry policy)
    (valid : issuance.Valid libs env ca (signingRequest conn.peerCid req
      (decisionOf config req.vmName vmEntry policy))) :
    ∀ event ∈ issuance.events (signingRequest conn.peerCid req
        (decisionOf config req.vmName vmEntry policy)),
      event ∈ (conn.advanceMany libs config ca env 3).2 := by
  intro event member
  have first : (conn.advance libs config ca env).1 = { conn with
      stream := (conn.advance libs config ca env).1.stream
      phase := .deciding req } := by
    simp only [Connection.advance, fresh, received, Phase.after]
  have second : event ∈ ((conn.advance libs config ca env).1.advance libs config ca env).2 := by
    rw [first]
    change event ∈ ((respond libs env config ca conn.peerCid req :
      Prog SignEvent Stream String CertResponse).run _).log
    rw [respond_of_authorised req authorised]
    apply (Prog.mem_bind_log _ _ _ event).mpr
    apply Or.inl
    change event ∈ ((signCsr libs env ca _ : Prog SignEvent Stream CaError String).run _).log
    rw [valid.log]
    exact member
  simp only [Connection.advanceMany]
  exact List.mem_append_right _ (List.mem_append_left _ second)

namespace Reference

theorem formsLaw_of (signable : Bytes → Bool) : FormsLaw (libraries signable) armouredBlocks := by
  constructor
  · intro key
    refine ⟨key, ?_, rfl⟩
    rw [libraries_keyPairFromPem, libraries_serializePem, Base64Url.utf8_encodeText,
      Base64Url.decodeStrict_encode]
    rfl
  · intro der
    refine ⟨[], ?_⟩
    unfold armouredBlocks
    rw [libraries_certificatePem, readArmour_armour]

def regeneratedHost : Machine HostState HostAction :=
  host (libraries recorded) armouredBlocks parsePath (parseDocument HostConfig.deserialize)

def seventhEnv : StartEnvironment := { keyNonce := 7, certNonce := 0, bind := fun _ => .ok () }

def unstarted : HostState := { disk := configuredDisk, lives := [] }

def regeneratedLife : Life :=
  { config := sampleConfig
    ca := authority historyKey
    server := { connections := [], signatures := [] } }

def recordedServer : Machine ServerState ServerAction :=
  server (libraries recorded) sampleConfig (authority historyKey)

def requestedLife : Life :=
  { config := sampleConfig
    ca := authority historyKey
    server := recordedServer.run { connections := [], signatures := [] } sampleActions }

theorem regenerated_start :
    ∃ disk : Disk, regeneratedHost.next unstarted
        (.start firstStart seventhEnv rootProcess []) =
      { disk, lives := [regeneratedLife] } := by
  have runs := (startServer_runs_iff (libraries recorded) armouredBlocks parsePath
    (parseDocument HostConfig.deserialize) firstStart seventhEnv
    { unstarted.disk with process := rootProcess, faults := [] } (formsLaw_of recorded) rfl
    sampleConfig (authority historyKey)).mpr
      ⟨rfl, sampleConfig_configures, (generated_authority 7 0 rootSigned).1,
        fun _ => ⟨rfl, rfl⟩, rfl⟩
  refine ⟨(unstarted.start (libraries recorded) armouredBlocks parsePath
    (parseDocument HostConfig.deserialize) firstStart seventhEnv rootProcess []).state, ?_⟩
  unfold regeneratedHost host hostNext
  dsimp only
  rw [HostState.start, runs]
  rfl

theorem handler_signs (conn : Connection) (fresh : conn.phase = .reading)
    (cid : conn.peerCid = 3) (stream : conn.stream = streamOf sampleCertRequest) :
    ∀ event ∈ historyIssuance.events sampleRequest,
      event ∈ (conn.advanceMany (libraries recorded) sampleConfig (authority historyKey)
        sampleEnv 3).2 := by
  have received := received_streamOf recorded sampleCertRequest (by decide +kernel)
  have authorised := sampleCertRequest_authorised
  have valid := historyIssuance_valid
  have signing := sampleSigningRequest
  rw [← cid] at authorised signing
  rw [← stream] at received
  rw [← signing] at valid ⊢
  exact events_of_authorised sampleEnv conn fresh received authorised valid

theorem requested_signs : ∀ event ∈ historyIssuance.events sampleRequest,
    event ∈ requestedLife.server.signatures.map Prod.snd := by
  intro event member
  have reading : (newConnection sampleConfig (901, 3, streamOf sampleCertRequest)).phase =
      .reading := acceptConnection_phase 901 3 _ rfl
  have signs := handler_signs _ reading rfl rfl event member
  have parts := advanceParts_reading (libraries recorded) sampleConfig (authority historyKey)
    sampleEnv sampleEnv [sampleEnv] _ reading
  rw [List.length_singleton] at parts
  rw [← parts] at signs
  obtain ⟨_, events⟩ := @run_connection _ (libraries recorded) sampleConfig
    (authority historyKey) sampleActions 0
  have peers : accepted sampleActions = [(901, 3, streamOf sampleCertRequest)] := rfl
  have own : partsOf 0 0 sampleActions = [sampleEnv, sampleEnv, sampleEnv] := rfl
  rw [peers, own, List.getElem?_cons_zero, Option.map_some, Option.getD_some] at events
  have logged : event ∈ Interleaving.eventsOf 0 requestedLife.server.signatures := by
    unfold requestedLife recordedServer
    rw [events]
    exact signs
  obtain ⟨tagged, kept, same⟩ := List.mem_map.mp logged
  exact List.mem_map.mpr ⟨tagged, (List.mem_filter.mp kept).1, same⟩

end Reference

open Reference in
theorem regeneration_ends_credentials_sample :
    ∃ disk : Disk, GrantedSince (libraries recorded) parsePath 0
      (parsePath sampleConfig.caCertPath) (parsePath sampleConfig.caKeyPath)
      { disk, lives := [requestedLife] } (buildClaim sampleNow sampleRequest) := by
  obtain ⟨disk, started⟩ := regenerated_start
  have ran : regeneratedHost.run { disk, lives := [regeneratedLife] }
      (sampleActions.map (.serve 0)) = { disk, lives := [requestedLife] } :=
    host_run_serve disk [] regeneratedLife sampleActions
  have sinceEq : ({ disk, lives := [requestedLife] } : HostState).signedSince parsePath 0
      (parsePath sampleConfig.caCertPath) (parsePath sampleConfig.caKeyPath) =
        requestedLife.server.signatures.map Prod.snd := by
    unfold HostState.signedSince
    have uses : requestedLife.Uses (parsePath sampleConfig.caCertPath)
        (parsePath sampleConfig.caKeyPath) parsePath := ⟨rfl, rfl⟩
    rw [List.drop_zero, List.filter_cons_of_pos (by simpa using uses), List.filter_nil,
      List.flatMap_cons, List.flatMap_nil, List.append_nil]
  have logged : ∀ event ∈ historyState.log, event ∈
      (generated (libraries recorded) 7 0).log ++
        ({ disk, lives := [requestedLife] } : HostState).signedSince parsePath 0
          (parsePath sampleConfig.caCertPath) (parsePath sampleConfig.caKeyPath) := by
    intro event member
    rw [historyState_eq] at member
    rw [(generated_authority 7 0 rootSigned).2, sinceEq]
    rcases List.mem_cons.mp member with root | later
    · rw [root]
      exact List.mem_append_left _ (List.mem_singleton_self _)
    · exact List.mem_append_right _ (requested_signs event later)
  have unforgeable : (libraries recorded).Unforgeable (fun _ => True)
      ((libraries recorded).publicKey historyKey)
      (((generated (libraries recorded) 7 0).log ++
        ({ disk, lives := [requestedLife] } : HostState).signedSince parsePath 0
          (parsePath sampleConfig.caCertPath) (parsePath sampleConfig.caKeyPath)).map
            SignEvent.message) := by
    have history :=
      history_unforgeable (fun _ => True) ((libraries recorded).publicKey historyKey)
    have messages {message : Bytes} (member : message ∈ historyState.log.map SignEvent.message) :
        message ∈ ((generated (libraries recorded) 7 0).log ++
          ({ disk, lives := [requestedLife] } : HostState).signedSince parsePath 0
            (parsePath sampleConfig.caCertPath) (parsePath sampleConfig.caKeyPath)).map
              SignEvent.message := by
      obtain ⟨event, made, same⟩ := List.mem_map.mp member
      exact List.mem_map.mpr ⟨event, logged event made, same⟩
    constructor
    · intro message signature holds verified
      exact messages (history.rust message signature holds verified)
    · intro message signature holds verified
      exact messages (history.go message signature holds verified)
  obtain ⟨rust, _⟩ := regeneration_ends_credentials (formsLaw_of recorded)
    (claimJsonLaw recorded) (tbsLaw recorded) (importLaw recorded) unstarted
    (Machine.Reachable.start rfl) firstStart rfl seventhEnv rootProcess [] regeneratedLife
    (congrArg HostState.lives started) (by decide +kernel) historyKey history_matchesKey
    (sampleActions.map (.serve 0)) (sparesAll_serve _ _ _) { disk, lives := [requestedLife] } (by
      change regeneratedHost.run (regeneratedHost.next unstarted
        (.start firstStart seventhEnv rootProcess [])) _ = _
      rw [started]
      exact ran) _ unforgeable
  exact ⟨disk, rust _ _ (fun _ _ => trivial) history_accepted⟩

end AuthScope
