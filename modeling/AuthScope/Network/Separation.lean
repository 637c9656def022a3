/-
The credentials of different entities are kept apart.

In every state of the network the entities an agent has tried are those of its
configuration, in order and each once.  Whose exchange succeeded has its own
credentials on disk, whose exchange failed before the store has its files as
they were, and exchanges that end alike leave the same files in any order.
-/

import AuthScope.Agent.StoreFailure
import AuthScope.Network.Credentials
import AuthScope.Network.Exchange
import AuthScope.Reference.Sizes

set_option autoImplicit false

namespace AuthScope

open ByteText EffectLog ByteStream FileSystem StateMachine

section Separation

variable {κ : Type} {libs : Libraries κ} {rcgen : RequestLibraries κ} {config : HostConfig}
  {ca : CertificateAuthority}

theorem credentials_kept_apart (requestFaithful : libs.requestJson.Faithful)
    (responseFaithful : libs.responseJson.Faithful) (textual : libs.responseJson.Textual)
    (requestLaw : rcgen.RequestLaw libs) (noExtensions : libs.RequestsCarryNoExtensions)
    (state : NetworkState) (reached : (network libs rcgen config ca).Reachable state)
    (short : ReportsShort libs state.server.connections) (index : Nat) (agent : Agent)
    (present : state.agents[index]? = some agent) (distinct : agent.config.DistinctPaths) :
    (agent.records.map EntityRecord.entity ++ (agent.phase.current ++ agent.pending) =
        agent.config.entities ∧
      (agent.Finished → agent.records.map EntityRecord.entity = agent.config.entities) ∧
      ∃ actions later,
        ((network libs rcgen config ca).run state actions).agents[index]? = some later ∧
          later.Finished ∧ later.config = agent.config) ∧
    (∀ record : EntityRecord, record ∈ agent.records →
      (∀ generated certPem caCertPem, record.ending = .stored generated certPem caCertPem →
        OwnCredentials libs rcgen ca agent.config record.entity record.nonces generated certPem
            caCertPem ∧
          Holds agent.disk.files record.entity certPem generated.keyPem caCertPem) ∧
      (∀ report, record.ending = .failed report →
        ∀ path ∈ record.entity.paths, agent.disk.files path = agent.before path)) ∧
    ∀ (otherState : NetworkState) (otherIndex : Nat) (other : Agent),
      (network libs rcgen config ca).Reachable otherState →
      otherState.agents[otherIndex]? = some other → other.config.DistinctPaths →
      agent.Finished → other.Finished → other.before = agent.before →
      (∀ record : EntityRecord, record ∈ other.records ↔ record ∈ agent.records) →
      (∀ record : EntityRecord, record ∈ agent.records →
        ∀ generated certPem caCertPem report,
          record.ending ≠ .notStored generated certPem caCertPem report) →
      other.disk.files = agent.disk.files := by
  have inv := network_inv reached
  have member := List.mem_of_getElem? present
  have filesInv := inv.files agent member distinct
  have agentInv := network_agents responseFaithful textual reached short agent member
  refine ⟨⟨filesInv.accounts, ?_, network_completes state present filesInv.alive⟩, ?_, ?_⟩
  · rintro ⟨pending, phase⟩
    have accounts := filesInv.accounts
    rw [pending, phase] at accounts
    simp only [AgentPhase.current, List.append_nil] at accounts
    exact accounts
  · intro record recorded
    constructor
    · intro generated certPem caCertPem stored
      have answered := agentInv.recorded record recorded generated certPem caCertPem
        (by rw [stored]; rfl)
      exact ⟨answered.ownCredentials requestFaithful requestLaw noExtensions inv.server,
        filesInv.stored record recorded generated certPem caCertPem stored⟩
    · intro report failed
      exact filesInv.failed record recorded report failed
  · intro otherState otherIndex other otherReached otherPresent otherDistinct finished
      otherFinished sameStart sameRecords stores
    have otherInv := network_inv otherReached
    exact filesInv.agree (otherInv.files other (List.mem_of_getElem? otherPresent) otherDistinct)
      finished otherFinished sameStart sameRecords stores

end Separation

/-! ### One agent with one entity -/

namespace Reference

open Base64Url CompactJson

def requestLibraries : RequestLibraries Bytes :=
  { serializeRequest := fun params key _ =>
      .ok (toBytes (requestForm params.distinguishedName (publicKey key)))
    requestPem := fun csr => .ok (encodeText csr) }

theorem requestLaw (signable : Bytes → Bool) :
    requestLibraries.RequestLaw (libraries signable) := by
  intro params key nonce csr pem parsed serialised written read
  have sameCsr : toBytes (requestForm params.distinguishedName (publicKey key)) = csr :=
    Except.ok.inj serialised
  have samePem : encodeText csr = pem := Except.ok.inj written
  have found := readRequest_certificateRequest params.distinguishedName (publicKey key)
  rw [certificateRequest, sameCsr, samePem] at found
  rw [libraries_csrFromPem, found] at read
  rw [← Except.ok.inj read]
  rfl

def loneAgent : Agent :=
  { config :=
      { vmName := "app-vm"
        serverPort := 900
        entities := [renewedEntity]
        clientPort := 901 }
    cid := 3
    before := fun _ => none
    disk := { files := fun _ => none, process := rootProcess, faults := [] }
    pending := [renewedEntity]
    phase := .idle
    nonces := ⟨0, 0⟩
    records := [] }

def loneState : NetworkState :=
  { server := { connections := [], signatures := [] }
    agents := [loneAgent]
    links := []
    listening := [] }

theorem loneStart : (network (libraries everything) requestLibraries sampleConfig
    (authority sampleKey)).Reachable loneState := by
  apply Machine.Reachable.start
  refine ⟨rfl, ?_, rfl, rfl⟩
  intro agent member
  rw [List.mem_singleton.mp member]
  exact ⟨rfl, rfl, rfl, rfl⟩

theorem loneState_short :
    ReportsShort (libraries everything) loneState.server.connections := by
  intro conn member
  cases member

def loneKey : Bytes := bigEndian 32 7

def loneGenerated : GeneratedCsr :=
  { keyPem := encodeText loneKey
    csrPem := certificateRequest (requestParams "svc").distinguishedName (publicKey loneKey) }

def loneCsr : CertificateSigningRequestParams :=
  { params := defaultParams (requestParams "svc").distinguishedName .noCa
    publicKey := publicKey loneKey }

def loneSigning : SigningRequest := { sampleRequest with csrPem := loneGenerated.csrPem }

def loneCourse : Course Bytes :=
  { env :=
      { keyNonce := 7
        csrNonce := 8
        hostCidVariable := none
        sockets := fun _ _ _ _ => .connected
        writeResults := [] }
    signing := sampleEnv
    generated := loneGenerated
    issuance := issuanceOf sampleKey sampleNow loneSigning loneCsr
    request := toBytes (JsonForms.ofCertRequest
      (certRequest loneAgent.config renewedEntity loneGenerated))
    response := toBytes (JsonForms.ofCertResponse
      (.ok ((issuanceOf sampleKey sampleNow loneSigning loneCsr).pem (libraries everything))
        (authority sampleKey).certPem)) }

theorem lonePayload_short : (payloadOf sampleNow loneSigning).length ≤ 1000 := by decide +kernel

theorem loneName_short :
    (CompactJson.render (nameForm (requestParams "svc").distinguishedName)).length ≤ 100 := by
  decide +kernel

theorem rootName_short : (CompactJson.render
    (nameForm CertificateAuthority.rootParams.distinguishedName)).length ≤ 100 := by
  decide +kernel

theorem loneKey_length : (publicKey loneKey).length = 33 := by
  rw [publicKey, List.length_cons, loneKey, bigEndian_length]

theorem loneRequest_fits : loneCourse.request.length ≤ maxMsgBytes := by
  have same : loneCourse.request = toBytes (JsonForms.ofCertRequest
      (certRequest loneAgent.config renewedEntity loneGenerated)) := rfl
  have request := request_length_le (certRequest loneAgent.config renewedEntity loneGenerated)
  have csr := certificateRequest_length_le (requestParams "svc").distinguishedName
    (publicKey loneKey)
  have name := loneName_short
  have version : (CompactJson.renderNumber (certRequest loneAgent.config renewedEntity
      loneGenerated).version.toNat).length = 1 := by
    simp [certRequest, protocolVersion, CompactJson.renderNumber, CompactJson.decimal]
  have vmName : (certRequest loneAgent.config renewedEntity
      loneGenerated).vmName.toList.length = 6 := by decide
  have entity : (certRequest loneAgent.config renewedEntity
      loneGenerated).entity.toList.length = 3 := by decide
  have csrPem : (certRequest loneAgent.config renewedEntity loneGenerated).csrPem =
      certificateRequest (requestParams "svc").distinguishedName (publicKey loneKey) := rfl
  rw [version, vmName, entity, csrPem] at request
  rw [loneKey_length] at csr
  rw [same]
  unfold maxMsgBytes
  omega

theorem loneResponse_fits : loneCourse.response.length ≤ maxMsgBytes := by
  have response := (response_length
    ((issuanceOf sampleKey sampleNow loneSigning loneCsr).pem (libraries everything))
    (authority sampleKey).certPem).2
  have pem := leafPem_length_le sampleKey sampleNow loneSigning
    (requestParams "svc").distinguishedName (publicKey loneKey) everything
  have ca := authority_length_le sampleKey
  have payload := lonePayload_short
  have name := loneName_short
  have root := rootName_short
  have short : sampleKey.length = 3 := rfl
  rw [loneKey_length] at pem
  simp only [loneCourse, loneCsr] at response ⊢
  unfold maxMsgBytes
  omega

theorem loneAgent_distinctPaths : loneAgent.config.DistinctPaths := by decide

theorem loneAgent_prepares : prepare (libraries everything) requestLibraries loneCourse.env
    loneAgent.config renewedEntity = .ok loneCourse.generated := by
  rfl

theorem loneResponse_written : (libraries everything).responseJson.toVec
    (.ok (loneCourse.issuance.pem (libraries everything)) (authority sampleKey).certPem) =
      .ok loneCourse.response := by
  have written : ∀ response : CertResponse, (libraries everything).responseJson.toVec response =
      .ok (toBytes (JsonForms.ofCertResponse response)) := fun _ => rfl
  rw [written]
  simp only [loneCourse]

theorem loneCourse_undisturbed : Undisturbed (libraries everything) requestLibraries sampleConfig
    (authority sampleKey) loneAgent renewedEntity loneCourse := by
  have inCalendar : endYear loneSigning.validityDays ≤ 9999 := by decide
  have parsed : readRequest loneSigning.csrPem = some loneCsr :=
    readRequest_certificateRequest (requestParams "svc").distinguishedName (publicKey loneKey)
  refine
    { prepared := loneAgent_prepares
      host := rfl
      serverPort := rfl
      writes := rfl
      request := rfl
      requestFits := loneRequest_fits
      port := rfl
      issued := ⟨sampleVmEntry, samplePolicy, ?_, ?_⟩
      response := loneResponse_written
      responseFits := loneResponse_fits
      disk := rfl
      areFiles := ⟨by decide, by decide, by decide⟩
      certMode := ⟨0o640, by decide⟩
      keyMode := ⟨0o600, by decide⟩ }
  · exact ⟨rfl, StringMap.get_insert_self _ _ _, StringMap.get_insert_self _ _ _, rfl⟩
  · exact issuanceOf_valid sampleEnv_now parsed inCalendar (admits_everything _ _ _ _)

end Reference

open Reference in
theorem credentials_kept_apart_sample :
    ∃ (state : NetworkState) (agent : Agent) (nonces : Nonces) (generated : GeneratedCsr)
        (certPem caCertPem : String),
      (network (libraries everything) requestLibraries sampleConfig
        (authority sampleKey)).Reachable state ∧
      state.agents[0]? = some agent ∧ agent.Finished ∧
      OwnCredentials (libraries everything) requestLibraries (authority sampleKey) agent.config
        renewedEntity nonces generated certPem caCertPem ∧
      Holds agent.disk.files renewedEntity certPem generated.keyPem caCertPem := by
  obtain ⟨after, present, connections⟩ := exchange_stores loneCourse_undisturbed
    JsonForms.requestCodec_roundTrips JsonForms.responseCodec_roundTrips loneState 0 rfl
    rfl rfl rfl
  have short := loneCourse.handled_short loneState_short sampleConfig (authority sampleKey)
    loneAgent
  rw [← connections] at short
  have apart := credentials_kept_apart JsonForms.requestCodec_faithful
    JsonForms.responseCodec_faithful JsonForms.responseCodec_textual (requestLaw everything)
    (requestsCarryNoExtensions everything) _ (loneStart.run (loneCourse.actions loneState 0)) short
    0 _ present loneAgent_distinctPaths
  obtain ⟨own, holds⟩ := (apart.2.1 _ (List.mem_singleton_self _)).1 _ _ _ rfl
  exact ⟨_, _, _, _, _, _, loneStart.run (loneCourse.actions loneState 0), present, ⟨rfl, rfl⟩, own,
    holds⟩

end AuthScope
