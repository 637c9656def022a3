/-
What a guest sees of the policy of other guests.

Two configurations that agree on the VMs of a guest answer it alike, with one
exception: an entity that a configuration registers for a VM of somebody else is
refused with another message than one it does not register at all.
-/

import AuthScope.Server.Issuance
import AuthScope.Server.Replies

set_option autoImplicit false

namespace AuthScope

open ByteText EffectLog ByteStream

variable {κ : Type} {libs : Libraries κ} {ca : CertificateAuthority} {peerCid : UInt32}

def HostConfig.Owns (config : HostConfig) (cid : UInt32) (vmName : String) : Prop :=
  ∃ vmEntry, config.vms.get vmName = some vmEntry ∧ vmEntry.vmCid = cid

/-- The entity is registered for a VM that is bound to another identifier. -/
def HostConfig.Foreign (config : HostConfig) (cid : UInt32) (vmName entity : String) : Prop :=
  ∃ vmEntry policy, config.vms.get vmName = some vmEntry ∧
    vmEntry.entities.get entity = some policy ∧ vmEntry.vmCid ≠ cid

/-- The configurations bind the same names to the identifier, with the same
policies for their entities, and agree on ports and default validity. -/
structure AgreeOn (cid : UInt32) (config other : HostConfig) : Prop where
  serverPort : config.serverPort = other.serverPort
  peerPort : config.peerPort = other.peerPort
  certValidityDays : config.certValidityDays = other.certValidityDays
  owns : ∀ vmName, config.Owns cid vmName ↔ other.Owns cid vmName
  entities : ∀ vmName vmEntry otherEntry, config.vms.get vmName = some vmEntry →
    other.vms.get vmName = some otherEntry → vmEntry.vmCid = cid → otherEntry.vmCid = cid →
    ∀ entity, vmEntry.entities.get entity = otherEntry.entities.get entity

/-- What the peer sees of its connection: how it ends and the bytes it gets. -/
def observed (libs : Libraries κ) (env : SigningEnvironment) (config : HostConfig)
    (ca : CertificateAuthority) (peerCid : UInt32) (stream : Stream) :
    Outcome Empty Unit × Bytes :=
  let run := (handleConnection libs env config ca peerCid).run stream
  (run.outcome, run.state.outgoing)

theorem HostConfig.Foreign.not_owns {config : HostConfig} {cid : UInt32}
    {vmName entity : String} (foreign : config.Foreign cid vmName entity) :
    ¬config.Owns cid vmName := by
  rintro ⟨vmEntry, found, own⟩
  obtain ⟨other, _policy, otherFound, _registered, differs⟩ := foreign
  rw [found] at otherFound
  exact differs (Option.some.inj otherFound ▸ own)

theorem AgreeOn.resolve_eq {cid : UInt32} {config other : HostConfig}
    (agree : AgreeOn cid config other) {vmName : String} (owned : config.Owns cid vmName)
    (entity : String) : resolve config vmName entity = resolve other vmName entity := by
  obtain ⟨otherEntry, otherFound, otherOwn⟩ := (agree.owns vmName).mp owned
  obtain ⟨vmEntry, found, own⟩ := owned
  have samePolicy :=
    agree.entities vmName vmEntry otherEntry found otherFound own otherOwn entity
  unfold resolve decisionOf
  simp only [found, otherFound, Option.bind_eq_bind, Option.bind_some, samePolicy, own,
    otherOwn, agree.certValidityDays]

/-- A name that is not the guest's is refused as foreign or as unknown. -/
theorem resolve_eq_none_of_unowned {config : HostConfig} {cid : UInt32}
    {vmName entity : String} (unowned : ¬config.Owns cid vmName)
    (notForeign : ¬config.Foreign cid vmName entity) : resolve config vmName entity = none := by
  cases resolved : resolve config vmName entity with
  | none => rfl
  | some decision =>
      obtain ⟨vmEntry, policy, found, registered, _⟩ :=
        (resolve_eq_some_iff config _ _ _).mp resolved
      by_cases own : vmEntry.vmCid = cid
      · exact absurd ⟨vmEntry, found, own⟩ unowned
      · exact absurd ⟨vmEntry, policy, found, registered, own⟩ notForeign

section Answers

variable {σ : Type} (libs ca)

theorem respond_congr {env : SigningEnvironment} {config other : HostConfig} (req : CertRequest)
    (same : resolve config req.vmName req.entity = resolve other req.vmName req.entity) :
    (respond libs env config ca peerCid req : Prog SignEvent σ String CertResponse) =
      respond libs env other ca peerCid req := by
  unfold respond
  rw [same]

theorem respond_of_foreign (env : SigningEnvironment) {config : HostConfig} (req : CertRequest)
    (version : req.version = protocolVersion)
    (foreign : config.Foreign peerCid req.vmName req.entity) :
    (respond libs env config ca peerCid req : Prog SignEvent σ String CertResponse) =
      Prog.throw cidVerificationFailed := by
  obtain ⟨vmEntry, policy, found, registered, differs⟩ := foreign
  have resolved : resolve config req.vmName req.entity =
      some (decisionOf config req.vmName vmEntry policy) :=
    (resolve_eq_some_iff config _ _ _).mpr ⟨vmEntry, policy, found, registered, rfl⟩
  have otherCid : (decisionOf config req.vmName vmEntry policy).vmCid ≠ peerCid := differs
  unfold respond
  rw [if_neg (not_not.mpr version), resolved]
  dsimp only
  rw [if_pos otherCid]

theorem respond_of_unknown (env : SigningEnvironment) {config : HostConfig} (req : CertRequest)
    (version : req.version = protocolVersion)
    (unknown : resolve config req.vmName req.entity = none) :
    (respond libs env config ca peerCid req : Prog SignEvent σ String CertResponse) =
      pure (.error (notAuthorised req.vmName req.entity)) := by
  unfold respond
  rw [if_neg (not_not.mpr version), unknown]

variable {libs ca}

/-- The answers are the same program unless the exception applies. -/
theorem AgreeOn.respond_eq {config other : HostConfig} (agree : AgreeOn peerCid config other)
    (env : SigningEnvironment) (req : CertRequest)
    (alike : req.version = protocolVersion →
      (config.Foreign peerCid req.vmName req.entity ↔
        other.Foreign peerCid req.vmName req.entity)) :
    (respond libs env config ca peerCid req : Prog SignEvent σ String CertResponse) =
      respond libs env other ca peerCid req := by
  by_cases version : req.version = protocolVersion
  · by_cases owned : config.Owns peerCid req.vmName
    · exact respond_congr libs ca req (agree.resolve_eq owned req.entity)
    · have otherUnowned : ¬other.Owns peerCid req.vmName := fun otherOwned =>
        owned ((agree.owns _).mpr otherOwned)
      by_cases foreign : config.Foreign peerCid req.vmName req.entity
      · rw [respond_of_foreign libs ca env req version foreign,
          respond_of_foreign libs ca env req version ((alike version).mp foreign)]
      · have otherNot : ¬other.Foreign peerCid req.vmName req.entity := fun otherForeign =>
          foreign ((alike version).mpr otherForeign)
        exact respond_congr libs ca req ((resolve_eq_none_of_unowned owned foreign).trans
          (resolve_eq_none_of_unowned otherUnowned otherNot).symm)
  · unfold respond
    rw [if_pos version, if_pos version]

end Answers

/-! ### Observations -/

theorem recvJson_ok_of_writeResults {α : Type} (codec : JsonCodec α) (stream : Stream)
    (writeResults : List WriteResult) (value : α)
    (received : ((recvJson codec : Prog SignEvent Stream String α).run
      { stream with writeResults }).outcome = .ok value) :
    ((recvJson codec : Prog SignEvent Stream String α).run stream).outcome = .ok value :=
  (recvJson_outcome_eq_ok_iff codec stream value).mpr
    ((recvJson_outcome_eq_ok_iff codec { stream with writeResults } value).mp received)

variable (libs ca) in
/-- A connection depends on the configuration through the answer to its
request. -/
theorem handleConnection_congr (env : SigningEnvironment) {config other : HostConfig}
    (stream : Stream)
    (same : ∀ req, ((recvJson libs.requestJson :
        Prog SignEvent Stream String CertRequest).run stream).outcome = .ok req →
      (respond libs env config ca peerCid req : Prog SignEvent Stream String CertResponse) =
        respond libs env other ca peerCid req) :
    (handleConnection libs env config ca peerCid).run stream =
      (handleConnection libs env other ca peerCid).run stream := by
  have inner : (handleInner libs env config ca peerCid).run stream =
      (handleInner libs env other ca peerCid).run stream := by
    rw [handleInner_eq, handleInner_eq]
    cases exit : ((recvJson libs.requestJson :
        Prog SignEvent Stream String CertRequest).run stream).outcome with
    | ok req =>
        rw [Prog.bind_run_of_ok _ _ _ req exit, Prog.bind_run_of_ok _ _ _ req exit, same req exit]
    | err message =>
        rw [Prog.bind_run_of_err _ _ _ message exit, Prog.bind_run_of_err _ _ _ message exit]
    | panic =>
        rw [Prog.bind_run_of_panic _ _ _ exit, Prog.bind_run_of_panic _ _ _ exit]
  simp only [handleConnection, Prog.recover, inner]

variable (ca) in
/-- The bytes an answer leaves on a stream whose writes succeed: the frame of
the answer, or of the error that took its place. -/
theorem handleConnection_outgoing (roundTrips : libs.responseJson.RoundTrips)
    {env : SigningEnvironment} {config : HostConfig} (stream : Stream)
    (reliable : stream.Reliable) {req : CertRequest}
    (received : ((recvJson libs.requestJson :
      Prog SignEvent Stream String CertRequest).run stream).outcome = .ok req)
    (message : String)
    (refused :
      (respond libs env config ca peerCid req : Prog SignEvent Stream String CertResponse) =
          pure (.error message) ∨
        (respond libs env config ca peerCid req : Prog SignEvent Stream String CertResponse) =
          Prog.throw message) :
    ∃ payload, libs.responseJson.toVec (.error message) = .ok payload ∧
      ((handleConnection libs env config ca peerCid).run stream).state.outgoing =
        stream.outgoing ++ frame payload := by
  obtain ⟨payload, written, _read⟩ := roundTrips (.error message)
  refine ⟨payload, written, ?_⟩
  obtain ⟨left, afterRead⟩ := afterRequest_eq stream libs
  have unbroken : (afterRequest stream libs).Reliable := by
    rw [afterRead]
    exact reliable
  have unwritten : (afterRequest stream libs).outgoing = stream.outgoing := by rw [afterRead]
  have sent := sendJson_run_reliable (ω := SignEvent) libs.responseJson (.error message) payload
    written (afterRequest stream libs) unbroken
  rcases refused with answered | thrown
  · have answer : ((respond libs env config ca peerCid req :
        Prog SignEvent Stream String CertResponse).run (afterRequest stream libs)).outcome =
          .ok (.error message) := by
      rw [answered]
      rfl
    obtain ⟨outcome, state⟩ := handleInner_of_answer received answer
    rw [sent] at outcome state
    rw [(handleConnection_run_of_ok stream outcome).2, state, unwritten]
  · have refusal : ((respond libs env config ca peerCid req :
        Prog SignEvent Stream String CertResponse).run (afterRequest stream libs)).outcome =
          .err message := by
      rw [thrown]
      rfl
    obtain ⟨outcome, state⟩ := handleInner_of_refusal received refusal
    rw [(handleConnection_run_of_err stream outcome).2, state, sent, unwritten]

theorem notAuthorised_ne_cidVerificationFailed (vmName entity : String) :
    notAuthorised vmName entity ≠ cidVerificationFailed := by
  intro same
  have sameHead := congrArg (fun message => message.toList.head?) same
  simp [notAuthorised, cidVerificationFailed] at sameHead

theorem observed_ne_of_foreign (roundTrips : libs.responseJson.RoundTrips)
    (env : SigningEnvironment) {config other : HostConfig} (stream : Stream)
    (reliable : stream.Reliable) {req : CertRequest}
    (received : ((recvJson libs.requestJson :
      Prog SignEvent Stream String CertRequest).run stream).outcome = .ok req)
    (version : req.version = protocolVersion)
    (foreign : config.Foreign peerCid req.vmName req.entity)
    (unknown : resolve other req.vmName req.entity = none) :
    observed libs env config ca peerCid stream ≠ observed libs env other ca peerCid stream := by
  intro same
  obtain ⟨left, leftWritten, leftOut⟩ := handleConnection_outgoing ca roundTrips stream
    reliable received _ (.inr (respond_of_foreign libs ca env req version foreign))
  obtain ⟨right, rightWritten, rightOut⟩ := handleConnection_outgoing ca roundTrips stream
    reliable received _ (.inl (respond_of_unknown libs ca env req version unknown))
  have sameBytes := congrArg Prod.snd same
  change ((handleConnection libs env config ca peerCid).run stream).state.outgoing =
    ((handleConnection libs env other ca peerCid).run stream).state.outgoing at sameBytes
  rw [leftOut, rightOut] at sameBytes
  have samePayload := frame_injective (List.append_cancel_left sameBytes)
  rw [← samePayload] at rightWritten
  have sameMessage := roundTrips.toVec_injective leftWritten rightWritten
  exact notAuthorised_ne_cidVerificationFailed _ _ (CertResponse.error.inj sameMessage).symm

/-- Two configurations that agree on a guest are indistinguishable to it exactly
when its request, if it is one of this version, names a foreign entity in both
or in neither. -/
theorem policy_hidden_iff (roundTrips : libs.responseJson.RoundTrips) (config other : HostConfig)
    (agree : AgreeOn peerCid config other) (stream : Stream) :
    (∀ env writeResults, observed libs env config ca peerCid { stream with writeResults } =
        observed libs env other ca peerCid { stream with writeResults }) ↔
      ∀ req, ((recvJson libs.requestJson :
          Prog SignEvent Stream String CertRequest).run stream).outcome = .ok req →
        req.version = protocolVersion →
        (config.Foreign peerCid req.vmName req.entity ↔
          other.Foreign peerCid req.vmName req.entity) := by
  constructor
  · intro same req received version
    have env : SigningEnvironment :=
      { sinceEpoch := .error "", jwtNonce := 0, caNonce := 0, leafNonce := 0 }
    have receivedReliably := recvJson_ok_of_writeResults libs.requestJson
      { stream with writeResults := [] } stream.writeResults req received
    constructor
    · intro foreign
      apply Classical.byContradiction
      intro notForeign
      have unowned : ¬other.Owns peerCid req.vmName := fun owned =>
        foreign.not_owns ((agree.owns _).mpr owned)
      exact observed_ne_of_foreign roundTrips env { stream with writeResults := [] } rfl
        receivedReliably version foreign (resolve_eq_none_of_unowned unowned notForeign)
        (same env [])
    · intro foreign
      apply Classical.byContradiction
      intro notForeign
      have unowned : ¬config.Owns peerCid req.vmName := fun owned =>
        foreign.not_owns ((agree.owns _).mp owned)
      exact observed_ne_of_foreign roundTrips env { stream with writeResults := [] } rfl
        receivedReliably version foreign (resolve_eq_none_of_unowned unowned notForeign)
        (same env []).symm
  · intro alike env writeResults
    have sameRun := handleConnection_congr libs ca env
      { stream with writeResults } fun req received =>
        agree.respond_eq env req (alike req
          (recvJson_ok_of_writeResults libs.requestJson stream writeResults req received))
    simp only [observed, sameRun]

namespace Reference

def otherVmEntry : VmEntry :=
  { vmCid := 7, entities := StringMap.empty.insert "db" samplePolicy }

def extendedConfig : HostConfig :=
  { sampleConfig with vms := sampleConfig.vms.insert "db-vm" otherVmEntry }

def requestForOther : CertRequest :=
  { sampleCertRequest with vmName := "db-vm", entity := "db" }

theorem extendedConfig_get {vmName : String} (differs : vmName ≠ "db-vm") :
    extendedConfig.vms.get vmName = sampleConfig.vms.get vmName :=
  StringMap.get_insert_of_ne _ _ _ _ differs

theorem extendedConfig_get_other : extendedConfig.vms.get "db-vm" = some otherVmEntry :=
  StringMap.get_insert_self _ _ _

theorem sampleConfig_get_other : sampleConfig.vms.get "db-vm" = none := by decide

theorem sampleConfig_agreeOn : AgreeOn 3 sampleConfig extendedConfig := by
  refine ⟨rfl, rfl, rfl, ?_, ?_⟩
  · intro vmName
    by_cases other : vmName = "db-vm"
    · subst other
      simp [HostConfig.Owns, sampleConfig_get_other, extendedConfig_get_other, otherVmEntry]
    · simp only [HostConfig.Owns, extendedConfig_get other]
  · intro vmName vmEntry otherEntry found otherFound _own _otherOwn entity
    by_cases other : vmName = "db-vm"
    · subst other
      rw [sampleConfig_get_other] at found
      cases found
    · rw [extendedConfig_get other, found] at otherFound
      cases otherFound
      rfl

theorem sampleConfig_not_foreign : ¬sampleConfig.Foreign 3 "app-vm" "svc" := by
  rintro ⟨vmEntry, _policy, found, _registered, differs⟩
  have own : vmEntry = sampleVmEntry :=
    Option.some.inj (found.symm.trans (StringMap.get_insert_self _ _ _))
  exact differs (own ▸ rfl)

theorem extendedConfig_foreign : extendedConfig.Foreign 3 "db-vm" "db" :=
  ⟨otherVmEntry, samplePolicy, extendedConfig_get_other, StringMap.get_insert_self _ _ _,
    by decide⟩

end Reference

open Reference in
theorem policy_hidden_iff_sample :
    observed (libraries everything) sampleEnv sampleConfig (authority sampleKey) 3
        (streamOf sampleCertRequest) =
      observed (libraries everything) sampleEnv extendedConfig (authority sampleKey) 3
        (streamOf sampleCertRequest) := by
  have hidden := @policy_hidden_iff _ (libraries everything) (authority sampleKey) 3
    JsonForms.responseCodec_roundTrips sampleConfig extendedConfig sampleConfig_agreeOn
    (streamOf sampleCertRequest)
  refine hidden.mpr ?_ sampleEnv []
  intro req received _version
  have sameRequest := received.symm.trans
    (received_streamOf everything sampleCertRequest (by decide +kernel))
  rw [Outcome.ok.inj sameRequest]
  constructor
  · intro foreign
    exact absurd foreign sampleConfig_not_foreign
  · rintro ⟨vmEntry, policy, found, registered, differs⟩
    rw [extendedConfig_get (by decide)] at found
    exact ⟨vmEntry, policy, found, registered, differs⟩

open Reference in
/-- A request for an entity of another guest tells whether it is registered. -/
theorem registration_observed :
    AgreeOn 3 sampleConfig extendedConfig ∧
      observed (libraries everything) sampleEnv extendedConfig (authority sampleKey) 3
          (streamOf requestForOther) ≠
        observed (libraries everything) sampleEnv sampleConfig (authority sampleKey) 3
          (streamOf requestForOther) := by
  refine ⟨sampleConfig_agreeOn, ?_⟩
  have unknown : resolve sampleConfig "db-vm" "db" = none := by
    unfold resolve
    rw [sampleConfig_get_other]
    rfl
  exact observed_ne_of_foreign JsonForms.responseCodec_roundTrips sampleEnv
    (streamOf requestForOther) rfl
    (received_streamOf everything requestForOther (by decide +kernel)) rfl
    extendedConfig_foreign unknown

end AuthScope
