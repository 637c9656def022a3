/-
Stored credentials grant what the policy says.

A certificate that an agent stores was answered on a connection of its own guest,
to the request it made for the entity.  So the policy of the host names the guest
and the entity, and whoever evaluates the stored certificate beside the stored
certificate of the authority gets the claim of that policy and no other.
-/

import AuthScope.Evaluator.Decisions
import AuthScope.Network.Separation

set_option autoImplicit false

namespace AuthScope

open ByteText EffectLog ByteStream FileSystem StateMachine

variable {κ : Type} {libs : Libraries κ} {rcgen : RequestLibraries κ} {config : HostConfig}
  {ca : CertificateAuthority}

theorem stored_credentials_follow_policy (requestFaithful : libs.requestJson.Faithful)
    (responseFaithful : libs.responseJson.Faithful) (textual : libs.responseJson.Textual)
    (noExtensions : libs.RequestsCarryNoExtensions) (json : libs.ClaimJsonLaw)
    (signatures : libs.SignaturesVerify) (pemLaw : libs.PemLaw) (readBack : libs.ReadBackLaw)
    (key : κ) (matchesKey : ca.MatchesKey libs key)
    (sameVerifiers : libs.SameVerifiers (libs.publicKey key)) (state : NetworkState)
    (reached : (network libs rcgen config ca).Reachable state)
    (shortReports : ReportsShort libs state.server.connections) (index : Nat) (agent : Agent)
    (present : state.agents[index]? = some agent) (distinct : agent.config.DistinctPaths)
    (record : EntityRecord) (recorded : record ∈ agent.records) (generated : GeneratedCsr)
    (certPem caCertPem : String)
    (stored : record.ending = .stored generated certPem caCertPem)
    (short : ∀ env req (issuance : Issuance κ), issuance.Valid libs env ca req →
      issuance.pem libs = certPem → (utf8 issuance.jwt).length < 65536)
    (rustParses : ∃ certificate, Evaluator.Reads libs certPem certificate)
    (goParses : ∃ certificate, GoEvaluator.Reads libs (utf8 certPem) certificate) :
    HoldsText agent.disk.files record.entity.certPath certPem ∧
      HoldsText agent.disk.files record.entity.caPath caCertPem ∧
      ∃ vmEntry policy claim, config.vms.get agent.config.vmName = some vmEntry ∧
        vmEntry.vmCid = agent.cid ∧ vmEntry.entities.get record.entity.name = some policy ∧
        claim.sub = record.entity.name ∧ claim.vm = agent.config.vmName ∧
        claim.cid = agent.cid ∧
        Evaluator.fromCertPem libs certPem caCertPem = .ok { claim } ∧
        GoEvaluator.newEvaluator libs (utf8 certPem) (utf8 caCertPem) =
          .ok { claim := claim.map utf8 } ∧
        (∀ vmName moduleName method,
          (Evaluator.canCallRpc { claim } vmName moduleName method = true ↔
            PermitsRpc policy.caps vmName moduleName (moduleName ++ "." ++ method)) ∧
          (GoEvaluator.canCallRpc { claim := claim.map utf8 } (utf8 vmName) (utf8 moduleName)
              (utf8 method) = true ↔
            PermitsRpc policy.caps vmName moduleName (moduleName ++ "." ++ method))) ∧
        ∀ vmName path accessMode,
          (Evaluator.canAccessPath { claim } vmName path accessMode = true ↔
            PermitsPath policy.caps vmName path accessMode) ∧
          (GoEvaluator.canAccessPath { claim := claim.map utf8 } (utf8 vmName) (utf8 path)
              (utf8 accessMode) = true ↔
            PermitsPath policy.caps vmName path accessMode) := by
  have inv := network_inv reached
  have member := List.mem_of_getElem? present
  obtain ⟨_, _, _, _, certHeld, _, caHeld⟩ :=
    (inv.files agent member distinct).stored record recorded generated certPem caCertPem stored
  have answered := (network_agents responseFaithful textual reached shortReports agent
    member).recorded record recorded generated certPem caCertPem (by rw [stored]; rfl)
  obtain ⟨caEq, _, vmEntry, policy, env, issuance, authorised, valid, issued⟩ :=
    answered.issued requestFaithful inv.server
  have fits := short env _ issuance valid issued.symm
  rw [issued] at rustParses goParses
  have rust := valid.fromCertPem json signatures pemLaw readBack noExtensions matchesKey fits
    rustParses
  have go := valid.newEvaluator json signatures pemLaw readBack noExtensions matchesKey fits
    sameVerifiers goParses
  rw [← issued, ← caEq] at rust go
  refine ⟨⟨_, certHeld, rfl⟩, ⟨_, caHeld, rfl⟩, vmEntry, policy, _, authorised.vm, authorised.cid,
    authorised.entity, rfl, rfl, rfl, rust, go, ?_, ?_⟩
  · intro vmName moduleName method
    have granted := Evaluator.canCallRpc_iff { claim := buildClaim issuance.now (signingRequest
      agent.cid (certRequest agent.config record.entity generated)
      (decisionOf config agent.config.vmName vmEntry policy)) } vmName moduleName method
    exact ⟨granted, by rw [canCallRpc_coincide]; exact granted⟩
  · intro vmName path accessMode
    have granted := Evaluator.canAccessPath_iff { claim := buildClaim issuance.now (signingRequest
      agent.cid (certRequest agent.config record.entity generated)
      (decisionOf config agent.config.vmName vmEntry policy)) } vmName path accessMode
    exact ⟨granted, by rw [canAccessPath_coincide]; exact granted⟩

theorem encodeDerOctetString_injective {left right : Bytes}
    (same : encodeDerOctetString left = encodeDerOctetString right) : left = right := by
  have tails : encodeDerLength left.length ++ left = encodeDerLength right.length ++ right :=
    (List.cons.inj same).2
  -- the first byte of a length tells which of the three forms it has
  have short {count : Nat} (small : count < 0x80) {marker : UInt8}
      (large : 0x80 ≤ marker.toNat) : UInt8.ofNat count ≠ marker := by
    intro equal
    have numbers := congrArg UInt8.toNat equal
    rw [UInt8.toNat_ofNat'] at numbers
    omega
  unfold encodeDerLength at tails
  split_ifs at tails with leftShort rightShort rightMiddle leftMiddle rightShort rightMiddle
    rightShort rightMiddle
  all_goals
    simp only [List.cons_append, List.nil_append, List.cons.injEq] at tails
  · exact tails.2
  · exact absurd tails.1 (short leftShort (by decide))
  · exact absurd tails.1 (short leftShort (by decide))
  · exact absurd tails.1.symm (short rightShort (by decide))
  · exact tails.2.2
  · exact absurd tails.1 (by decide)
  · exact absurd tails.1.symm (short rightShort (by decide))
  · exact absurd tails.1 (by decide)
  · exact tails.2.2.2

/-- A certificate that can be read carries one token, whoever issued it. -/
theorem Issuance.Valid.sameToken {first second : Issuance κ} {env otherEnv : SigningEnvironment}
    {req other : SigningRequest} (pemLaw : libs.PemLaw) (readBack : libs.ReadBackLaw)
    (noExtensions : libs.RequestsCarryNoExtensions) (valid : first.Valid libs env ca req)
    (otherValid : second.Valid libs otherEnv ca other) (same : second.pem libs = first.pem libs)
    (parses : ∃ certificate, Evaluator.Reads libs (first.pem libs) certificate) :
    second.jwt = first.jwt := by
  obtain ⟨certificate, reads⟩ := parses
  have found := valid.findCapability pemLaw readBack noExtensions reads
  rw [← same] at reads
  have otherFound := otherValid.findCapability pemLaw readBack noExtensions reads
  have values := Option.some.inj (Outcome.ok.inj (otherFound.symm.trans found))
  exact utf8_injective (encodeDerOctetString_injective values)

namespace Reference

theorem lone_valid : loneCourse.issuance.Valid (libraries everything) sampleEnv
    (authority sampleKey) loneSigning :=
  issuanceOf_valid sampleEnv_now
    (readRequest_certificateRequest (requestParams "svc").distinguishedName (publicKey loneKey))
    (by decide) (admits_everything _ _ _ _)

theorem lone_reads : ∃ certificate, Evaluator.Reads (libraries everything)
    (loneCourse.issuance.pem (libraries everything)) certificate :=
  ⟨_, reads_armour everything _ _ _⟩

theorem lone_short : (utf8 loneCourse.issuance.jwt).length < 65536 := by
  refine (utf8_tokenText_length_lt _ _ (fixedSignatures everything _ _ _ _
    lone_valid.jwtSigned)).mpr ?_
  have payload := lonePayload_short
  have same : loneCourse.issuance.payloadJson = payloadOf sampleNow loneSigning := rfl
  rw [same]
  omega

end Reference

open Reference in
theorem stored_credentials_follow_policy_sample :
    ∃ (state : NetworkState) (agent : Agent) (certPem caCertPem : String)
        (claim : CapClaim String),
      (network (libraries everything) requestLibraries sampleConfig
        (authority sampleKey)).Reachable state ∧
      state.agents[0]? = some agent ∧
      HoldsText agent.disk.files renewedEntity.certPath certPem ∧
      HoldsText agent.disk.files renewedEntity.caPath caCertPem ∧
      Evaluator.fromCertPem (libraries everything) certPem caCertPem = .ok { claim } ∧
      claim.sub = "svc" ∧
      Evaluator.canCallRpc { claim } "net-vm" "auth" "login" = true := by
  obtain ⟨after, present, connections⟩ := exchange_stores loneCourse_undisturbed
    JsonForms.requestCodec_roundTrips JsonForms.responseCodec_roundTrips loneState 0 rfl
    rfl rfl rfl
  have short := loneCourse.handled_short loneState_short sampleConfig (authority sampleKey)
    loneAgent
  rw [← connections] at short
  have reached := loneStart.run (loneCourse.actions loneState 0)
  obtain ⟨certHeld, caHeld, vmEntry, policy, claim, vm, _, entity, sub, _, _, accepted, _, rpc,
    _⟩ := stored_credentials_follow_policy JsonForms.requestCodec_faithful
      JsonForms.responseCodec_faithful JsonForms.responseCodec_textual
      (requestsCarryNoExtensions everything) (claimJsonLaw everything)
      (signaturesVerify everything) (pemLaw everything) (readBackLaw everything) sampleKey
      (authority_matchesKey everything sampleKey) (sameVerifiers everything _) _ reached short 0 _
      present loneAgent_distinctPaths _ (List.mem_singleton_self _) _ _ _ rfl
      (fun env req issuance valid same => by
        rw [lone_valid.sameToken (pemLaw everything) (readBackLaw everything)
          (requestsCarryNoExtensions everything) valid same lone_reads]
        exact lone_short)
      lone_reads ⟨_, goReads_armour everything _ _ _⟩
  refine ⟨_, _, _, _, claim, reached, present, certHeld, caHeld, accepted, sub, ?_⟩
  have vmEq := Option.some.inj (vm.symm.trans (StringMap.get_insert_self _ _ _))
  subst vmEq
  have policyEq := Option.some.inj (entity.symm.trans (StringMap.get_insert_self _ _ _))
  subst policyEq
  exact (rpc _ _ _).1.mpr ⟨_, List.mem_singleton_self _, rfl, Or.inl (List.mem_singleton_self _)⟩

end AuthScope
