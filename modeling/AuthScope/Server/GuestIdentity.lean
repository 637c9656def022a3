/-
The identity of a guest.

The identifier of the peer is checked against the VM the request names, so a
guest can be served under every name its identifier is bound to.  Where this is
one name, all its certificates carry it; nothing in a configuration file makes it
one.
-/

import AuthScope.Evaluator.Decisions
import AuthScope.Server.Issuance

set_option autoImplicit false

namespace AuthScope

open ByteText EffectLog ByteStream StateMachine

variable {κ : Type} {libs : Libraries κ} {config : HostConfig} {ca : CertificateAuthority}

def HostConfig.Binds (config : HostConfig) (cid : UInt32) (vmName : String) : Prop :=
  ∃ vmEntry, config.vms.get vmName = some vmEntry ∧ vmEntry.vmCid = cid

/-- A certificate answered to a guest carries a name bound to its identifier. -/
theorem answered_name_bound (noExtensions : libs.RequestsCarryNoExtensions) (state : ServerState)
    (reached : (server libs config ca).Reachable state) (index : Nat) (conn : Connection)
    (found : state.connections[index]? = some conn) (certPem caCertPem : String)
    (answered : .ok certPem caCertPem ∈ conn.answers) :
    ∃ claim, CarriesClaim libs ca certPem claim ∧ config.Binds conn.peerCid claim.vm := by
  have inv := (server_inv reached).connections index conn found
  obtain ⟨_, req, vmEntry, policy, env, admitted, issuance, valid, issued⟩ :=
    inv.answered _ answered certPem caCertPem rfl
  refine ⟨_, issued ▸ Issuance.Valid.carriesClaim noExtensions valid, vmEntry, ?_,
    admitted.authorised.cid⟩
  exact admitted.authorised.vm

/-- In every run the certificates of a guest carry names bound to its identifier,
and one name where the configuration binds at most one. -/
theorem guest_names (noExtensions : libs.RequestsCarryNoExtensions) (cid : UInt32) :
    (∀ state, (server libs config ca).Reachable state →
      ∀ (index : Nat) (conn : Connection) certPem caCertPem,
        state.connections[index]? = some conn → conn.peerCid = cid →
        .ok certPem caCertPem ∈ conn.answers →
          ∃ claim, CarriesClaim libs ca certPem claim ∧ config.Binds cid claim.vm) ∧
    ((∀ vmName other, config.Binds cid vmName → config.Binds cid other → vmName = other) →
      ∃ vm, ∀ state, (server libs config ca).Reachable state →
        ∀ (index : Nat) (conn : Connection) certPem caCertPem,
          state.connections[index]? = some conn → conn.peerCid = cid →
          .ok certPem caCertPem ∈ conn.answers →
            ∃ claim, CarriesClaim libs ca certPem claim ∧ claim.vm = vm) := by
  have bound : ∀ state, (server libs config ca).Reachable state →
      ∀ (index : Nat) (conn : Connection) certPem caCertPem,
        state.connections[index]? = some conn → conn.peerCid = cid →
        .ok certPem caCertPem ∈ conn.answers →
          ∃ claim, CarriesClaim libs ca certPem claim ∧ config.Binds cid claim.vm := by
    intro state reached index conn certPem caCertPem found sameCid answered
    rw [← sameCid]
    exact answered_name_bound noExtensions state reached index conn found certPem caCertPem
      answered
  refine ⟨bound, ?_⟩
  intro single
  by_cases named : ∃ vmName, config.Binds cid vmName
  · obtain ⟨vmName, binds⟩ := named
    refine ⟨vmName, ?_⟩
    intro state reached index conn certPem caCertPem found sameCid answered
    obtain ⟨claim, carries, claimBound⟩ :=
      bound state reached index conn certPem caCertPem found sameCid answered
    exact ⟨claim, carries, single _ _ claimBound binds⟩
  · refine ⟨"", ?_⟩
    intro state reached index conn certPem caCertPem found sameCid answered
    obtain ⟨claim, _, claimBound⟩ :=
      bound state reached index conn certPem caCertPem found sameCid answered
    exact absurd ⟨_, claimBound⟩ named

/-! ### Samples -/

namespace Reference

theorem sampleConfig_single (vmName other : String) (binds : sampleConfig.Binds 3 vmName)
    (otherBinds : sampleConfig.Binds 3 other) : vmName = other := by
  have only : ∀ name, sampleConfig.Binds 3 name → name = "app-vm" := by
    rintro name ⟨vmEntry, found, _own⟩
    by_cases isApp : name = "app-vm"
    · exact isApp
    · have missing : sampleConfig.vms.get name = none :=
        StringMap.get_insert_of_ne _ _ _ _ isApp
      rw [missing] at found
      cases found
  rw [only _ binds, only _ otherBinds]

def twinConfig : HostConfig :=
  { sampleConfig with vms := sampleConfig.vms.insert "twin-vm" sampleVmEntry }

def requestAsVm (vmName : String) : CertRequest := { sampleCertRequest with vmName }

def signingRequestAsVm (vmName : String) : SigningRequest := { sampleRequest with vmName }

def issuanceAsVm (vmName : String) : Issuance Bytes :=
  issuanceOf sampleKey sampleNow (signingRequestAsVm vmName) sampleCsr

theorem twinConfig_accepted (text : String) :
    HostConfig.fromFile (fun _ => .ok twinConfig) (.ok text) = .ok twinConfig := rfl

theorem twinConfig_authorised {vmName : String}
    (bound : twinConfig.vms.get vmName = some sampleVmEntry) :
    Authorised twinConfig 3 (requestAsVm vmName) sampleVmEntry samplePolicy :=
  ⟨rfl, bound, StringMap.get_insert_self _ _ _, rfl⟩

theorem signingRequestAsVm_eq (vmName : String) :
    signingRequest 3 (requestAsVm vmName)
      (decisionOf twinConfig (requestAsVm vmName).vmName sampleVmEntry samplePolicy) =
        signingRequestAsVm vmName := by
  unfold signingRequest decisionOf requestAsVm signingRequestAsVm sampleCertRequest sampleRequest
  rfl

theorem issuanceAsVm_valid (vmName : String) :
    (issuanceAsVm vmName).Valid (libraries everything) sampleEnv (authority sampleKey)
      (signingRequestAsVm vmName) := by
  have inCalendar : endYear sampleRequest.validityDays ≤ 9999 := by decide
  exact issuanceOf_valid sampleEnv_now sampleCsr_parsed inCalendar (admits_everything _ _ _ _)

def handledAsVm (vmName : String) : Connection :=
  ((acceptConnection twinConfig 901 3 (streamOf (requestAsVm vmName))).advanceMany
    (libraries everything) twinConfig (authority sampleKey) sampleEnv 3).1

theorem handledAsVm_peerCid (vmName : String) : (handledAsVm vmName).peerCid = 3 := by
  rw [handledAsVm, (advanceMany_samePeer sampleEnv 3 _).cid, acceptConnection_peerCid]

theorem handledAsVm_answers {vmName : String}
    (fits : (CompactJson.toBytes (JsonForms.ofCertRequest (requestAsVm vmName))).length ≤
      maxMsgBytes)
    (bound : twinConfig.vms.get vmName = some sampleVmEntry) :
    .ok ((issuanceAsVm vmName).pem (libraries everything)) (authority sampleKey).certPem ∈
      (handledAsVm vmName).answers := by
  have valid := issuanceAsVm_valid vmName
  rw [← signingRequestAsVm_eq] at valid
  rw [handledAsVm]
  exact request_answered fits (twinConfig_authorised bound) valid _
    (acceptConnection_phase 901 3 _ rfl) (acceptConnection_peerCid 901 3 _)
    (acceptConnection_stream 901 3 _)

theorem requestAsVm_accepted (vmName : String)
    (short : (payloadOf sampleNow (signingRequestAsVm vmName)).length ≤ 49058) :
    ∃ evaluator : Evaluator,
      Evaluator.fromCertPem (libraries everything)
          ((issuanceAsVm vmName).pem (libraries everything)) (authority sampleKey).certPem =
        .ok evaluator ∧ evaluator.claim.vm = vmName := by
  have fixed : (issuanceAsVm vmName).jwtSignature.length = 64 :=
    fixedSignatures everything _ _ _ _ (issuanceAsVm_valid vmName).jwtSigned
  have payload : (issuanceAsVm vmName).payloadJson =
      payloadOf sampleNow (signingRequestAsVm vmName) := by
    simp only [issuanceAsVm, issuanceOf]
  rw [← payload] at short
  have jwtShort := (utf8_tokenText_length_lt _ _ fixed).mpr short
  exact ⟨_, (issuanceAsVm_valid vmName).fromCertPem (claimJsonLaw everything)
    (signaturesVerify everything) (pemLaw everything) (readBackLaw everything)
    (requestsCarryNoExtensions everything) (authority_matchesKey everything sampleKey) jwtShort
    ⟨_, reads_armour everything _ _ _⟩, rfl⟩

theorem twin_reached :
    ∃ state first second,
      (server (libraries everything) twinConfig (authority sampleKey)).Reachable state ∧
      state.connections = [first, second] ∧
      first = handledAsVm "app-vm" ∧ second = handledAsVm "twin-vm" := by
  have start : (server (libraries everything) twinConfig (authority sampleKey)).Reachable
      { connections := [], signatures := [] } := Machine.Reachable.start rfl
  obtain ⟨middle, first, reachedMiddle, afterFirst, firstEq⟩ :=
    reachable_accept start sampleEnv 3 901 3 (streamOf (requestAsVm "app-vm"))
  obtain ⟨state, second, reached, afterSecond, secondEq⟩ :=
    reachable_accept reachedMiddle sampleEnv 3 901 3 (streamOf (requestAsVm "twin-vm"))
  rw [afterFirst, List.nil_append, List.singleton_append] at afterSecond
  refine ⟨state, first, second, reached, afterSecond, ?_, ?_⟩
  · rw [firstEq, handledAsVm]
  · rw [secondEq, handledAsVm]

theorem twinConfig_app : twinConfig.vms.get "app-vm" = some sampleVmEntry := by
  change (sampleConfig.vms.insert "twin-vm" sampleVmEntry).get "app-vm" = _
  rw [StringMap.get_insert_of_ne _ _ _ _ (by decide)]
  exact StringMap.get_insert_self _ _ _

theorem twinConfig_twin : twinConfig.vms.get "twin-vm" = some sampleVmEntry :=
  StringMap.get_insert_self _ _ _

end Reference

open Reference in
theorem guest_names_sample :
    ∃ vm, ∀ state, sampleServer.Reachable state →
      ∀ (index : Nat) (conn : Connection) certPem caCertPem,
        state.connections[index]? = some conn → conn.peerCid = 3 →
        .ok certPem caCertPem ∈ conn.answers →
          ∃ claim, CarriesClaim (libraries everything) (authority sampleKey) certPem claim ∧
            claim.vm = vm :=
  (guest_names (requestsCarryNoExtensions everything) 3).2 sampleConfig_single

open Reference in
/-- A configuration that is accepted lets one guest obtain certificates under two
names. -/
theorem one_guest_two_names :
    ∃ accepted : HostConfig,
      HostConfig.fromFile (fun _ => .ok accepted) (.ok "host.json") = .ok accepted ∧
      ∃ (state : ServerState) (first second : Connection)
          (firstPem secondPem caCertPem : String) (firstRead secondRead : Evaluator),
        (server (libraries everything) accepted (authority sampleKey)).Reachable state ∧
          state.connections[0]? = some first ∧ state.connections[1]? = some second ∧
          first.peerCid = second.peerCid ∧
          .ok firstPem caCertPem ∈ first.answers ∧ .ok secondPem caCertPem ∈ second.answers ∧
          Evaluator.fromCertPem (libraries everything) firstPem caCertPem = .ok firstRead ∧
          Evaluator.fromCertPem (libraries everything) secondPem caCertPem = .ok secondRead ∧
          firstRead.claim.vm = "app-vm" ∧ secondRead.claim.vm = "twin-vm" := by
  obtain ⟨state, first, second, reached, connections, firstEq, secondEq⟩ := twin_reached
  obtain ⟨firstRead, firstAccepted, firstVm⟩ :=
    requestAsVm_accepted "app-vm" (by decide +kernel)
  obtain ⟨secondRead, secondAccepted, secondVm⟩ :=
    requestAsVm_accepted "twin-vm" (by decide +kernel)
  refine ⟨twinConfig, twinConfig_accepted _, state, first, second,
    (issuanceAsVm "app-vm").pem (libraries everything),
    (issuanceAsVm "twin-vm").pem (libraries everything), (authority sampleKey).certPem,
    firstRead, secondRead, reached, ?_, ?_, ?_, ?_, ?_, firstAccepted, secondAccepted, firstVm,
    secondVm⟩
  · rw [connections, List.getElem?_cons_zero]
  · rw [connections, List.getElem?_cons_succ, List.getElem?_cons_zero]
  · rw [firstEq, secondEq, handledAsVm_peerCid, handledAsVm_peerCid]
  · rw [firstEq]
    exact handledAsVm_answers (by decide +kernel) twinConfig_app
  · rw [secondEq]
    exact handledAsVm_answers (by decide +kernel) twinConfig_twin

end AuthScope
