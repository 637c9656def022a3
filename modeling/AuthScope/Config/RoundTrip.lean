/-
Configurations that are written and read back.

The derived writers list the members of a record in the order of the source and
the entries of a map in any order.  So the configuration that is read back may
list its maps differently, and nothing the server does depends on that.
-/

import AuthScope.Agent.StoreFailure
import AuthScope.Config.Documents
import AuthScope.Server.Issuance

set_option autoImplicit false

namespace AuthScope

open ByteText CompactJson EffectLog FileSystem JsonForms Records

def EntityPolicy.serialize (policy : EntityPolicy) : Json :=
  .obj [("caps", arrayOf ofCapability policy.caps),
    ("validity_days", match policy.validityDays with
      | some days => .num days.toNat
      | none => .null)]

def VmEntry.serialize (vmEntry : VmEntry) : Json :=
  .obj [("vm_cid", .num vmEntry.vmCid.toNat),
    ("entities", objectOf EntityPolicy.serialize vmEntry.entities)]

def HostConfig.serialize (config : HostConfig) : Json :=
  .obj [("ca_cert_path", .str config.caCertPath), ("ca_key_path", .str config.caKeyPath),
    ("server_port", .num config.serverPort.toNat),
    ("cert_validity_days", .num config.certValidityDays.toNat),
    ("vms", objectOf VmEntry.serialize config.vms),
    ("peer_port", .num config.peerPort.toNat)]

section Agent

-- The text of a path.
variable (textOf : Path → String)

def EntityEntry.serialize (entity : EntityEntry) : Json :=
  .obj [("name", .str entity.name), ("cert_path", .str (textOf entity.certPath)),
    ("key_path", .str (textOf entity.keyPath)), ("ca_path", .str (textOf entity.caPath)),
    ("owner_uid", .num entity.ownerUid.toNat), ("owner_gid", .num entity.ownerGid.toNat),
    ("cert_mode", .str entity.certMode), ("key_mode", .str entity.keyMode)]

def AgentConfig.serialize (config : AgentConfig) : Json :=
  .obj [("vm_name", .str config.vmName), ("server_port", .num config.serverPort.toNat),
    ("entities", arrayOf (EntityEntry.serialize textOf) config.entities),
    ("client_port", .num config.clientPort.toNat)]

end Agent

def AgentConfig.fromFile (fromStr : String → Except String AgentConfig)
    (data : Except String String) : Except String AgentConfig := do
  let data ← data
  let cfg ← fromStr data
  if 1000 ≤ cfg.serverPort then .error (serverPortTooLarge cfg.serverPort)
  else return cfg

section Loads

theorem loaded_eq_ok_iff {α : Type} (fromStr : String → Except String α) (port : α → UInt32)
    (data : Except String String) (cfg : α) :
    (data >>= fun text => fromStr text >>= fun parsed =>
        if 1000 ≤ port parsed then .error (serverPortTooLarge (port parsed)) else pure parsed) =
      .ok cfg ↔ ∃ text, data = .ok text ∧ fromStr text = .ok cfg ∧ port cfg < 1000 := by
  rw [except_bind_eq_ok_iff]
  constructor
  · rintro ⟨text, read, accepted⟩
    rw [except_bind_eq_ok_iff] at accepted
    obtain ⟨parsed, parses, checked⟩ := accepted
    by_cases tooLarge : 1000 ≤ port parsed
    · rw [if_pos tooLarge] at checked
      cases checked
    · rw [if_neg tooLarge] at checked
      cases checked
      exact ⟨text, read, parses, UInt32.not_le.mp tooLarge⟩
  · rintro ⟨text, read, parses, small⟩
    refine ⟨text, read, ?_⟩
    rw [except_bind_eq_ok_iff]
    refine ⟨cfg, parses, ?_⟩
    rw [if_neg (UInt32.not_le.mpr small)]
    rfl

theorem HostConfig.fromFile_eq_ok_iff (fromStr : String → Except String HostConfig)
    (data : Except String String) (cfg : HostConfig) :
    HostConfig.fromFile fromStr data = .ok cfg ↔
      ∃ text, data = .ok text ∧ fromStr text = .ok cfg ∧ cfg.serverPort < 1000 :=
  loaded_eq_ok_iff fromStr HostConfig.serverPort data cfg

theorem AgentConfig.fromFile_eq_ok_iff (fromStr : String → Except String AgentConfig)
    (data : Except String String) (cfg : AgentConfig) :
    AgentConfig.fromFile fromStr data = .ok cfg ↔
      ∃ text, data = .ok text ∧ fromStr text = .ok cfg ∧ cfg.serverPort < 1000 :=
  loaded_eq_ok_iff fromStr AgentConfig.serverPort data cfg

end Loads

theorem EntityPolicy.deserialize_serialize (policy : EntityPolicy) :
    EntityPolicy.deserialize policy.serialize = some policy := by
  have caps := listOf_arrayOf policy.caps fun grant _ => Capability.deserialize_of grant
  obtain ⟨grants, validityDays⟩ := policy
  cases validityDays with
  | none =>
      simp [EntityPolicy.deserialize, EntityPolicy.serialize, fieldsOf, EntityPolicy.fieldNames,
        EntityPolicy.ofFields, Fields.required, Fields.optional, List.lookup_cons, caps]
  | some days =>
      have number := asUInt32_ofNat days
      simp [EntityPolicy.deserialize, EntityPolicy.serialize, fieldsOf, EntityPolicy.fieldNames,
        EntityPolicy.ofFields, Fields.required, Fields.optional, List.lookup_cons, caps, number]

/-- The same identifier and the same policy for every entity. -/
structure VmEntry.Agrees (left right : VmEntry) : Prop where
  vmCid : right.vmCid = left.vmCid
  entities : StringMap.Rel Eq left.entities right.entities

structure HostConfig.Agrees (left right : HostConfig) : Prop where
  caCertPath : right.caCertPath = left.caCertPath
  caKeyPath : right.caKeyPath = left.caKeyPath
  serverPort : right.serverPort = left.serverPort
  certValidityDays : right.certValidityDays = left.certValidityDays
  vms : StringMap.Rel VmEntry.Agrees left.vms right.vms
  peerPort : right.peerPort = left.peerPort

theorem VmEntry.rereads : Rereads VmEntry.Agrees VmEntry.serialize VmEntry.deserialize := by
  intro vmEntry
  have policies : Rereads Eq EntityPolicy.serialize EntityPolicy.deserialize :=
    fun policy => ⟨policy, EntityPolicy.deserialize_serialize policy, rfl⟩
  obtain ⟨entities, reads, same⟩ := policies.map vmEntry.entities
  have cid := asUInt32_ofNat vmEntry.vmCid
  refine ⟨{ vmCid := vmEntry.vmCid, entities }, ?_, rfl, same⟩
  simp [VmEntry.deserialize, VmEntry.serialize, fieldsOf, VmEntry.fieldNames, VmEntry.ofFields,
    Fields.required, List.lookup_cons, cid, reads]

theorem HostConfig.rereads :
    Rereads HostConfig.Agrees HostConfig.serialize HostConfig.deserialize := by
  intro config
  obtain ⟨vms, reads, same⟩ := VmEntry.rereads.map config.vms
  have serverPort := asUInt32_ofNat config.serverPort
  have validity := asUInt32_ofNat config.certValidityDays
  have peerPort := asUInt32_ofNat config.peerPort
  refine ⟨{ config with vms }, ?_, rfl, rfl, rfl, rfl, same, rfl⟩
  simp [HostConfig.deserialize, HostConfig.serialize, fieldsOf, HostConfig.fieldNames,
    HostConfig.ofFields, Fields.required, Fields.withDefault, List.lookup_cons, asString,
    serverPort, validity, peerPort, reads]

section Agent

variable {pathOf : String → Path} {textOf : Path → String}

/-- The paths of the entity are what their texts are taken for. -/
def EntityEntry.PathsRead (pathOf : String → Path) (textOf : Path → String)
    (entity : EntityEntry) : Prop :=
  ∀ path ∈ [entity.certPath, entity.keyPath, entity.caPath], pathOf (textOf path) = path

theorem EntityEntry.deserialize_serialize (entity : EntityEntry)
    (paths : entity.PathsRead pathOf textOf) :
    EntityEntry.deserialize pathOf (entity.serialize textOf) = some entity := by
  have cert := paths entity.certPath (by simp)
  have key := paths entity.keyPath (by simp)
  have ca := paths entity.caPath (by simp)
  have owner := asUInt32_ofNat entity.ownerUid
  have group := asUInt32_ofNat entity.ownerGid
  simp [EntityEntry.deserialize, EntityEntry.serialize, fieldsOf, EntityEntry.fieldNames,
    EntityEntry.ofFields, Fields.required, Fields.withDefault, List.lookup_cons, asString, asPath,
    owner, group, cert, key, ca]

theorem AgentConfig.deserialize_serialize (config : AgentConfig)
    (paths : ∀ entity ∈ config.entities, entity.PathsRead pathOf textOf) :
    AgentConfig.deserialize pathOf (config.serialize textOf) = some config := by
  have entities := listOf_arrayOf config.entities fun entity member =>
    EntityEntry.deserialize_serialize entity (paths entity member)
  have serverPort := asUInt32_ofNat config.serverPort
  have clientPort := asUInt32_ofNat config.clientPort
  simp [AgentConfig.deserialize, AgentConfig.serialize, fieldsOf, AgentConfig.fieldNames,
    AgentConfig.ofFields, Fields.required, Fields.withDefault, List.lookup_cons, asString,
    serverPort, clientPort, entities]

end Agent

/-! ### What the server does with it -/

section Server

variable {left right : HostConfig}

theorem HostConfig.Agrees.resolve (agrees : left.Agrees right) (vmName entity : String) :
    resolve right vmName entity = resolve left vmName entity := by
  have vms := agrees.vms vmName
  unfold AuthScope.resolve
  generalize left.vms.get vmName = leftEntry at vms
  generalize right.vms.get vmName = rightEntry at vms
  cases vms with
  | none => rfl
  | @some leftVm rightVm same =>
      have policies := same.entities entity
      dsimp only [bind, Option.bind]
      generalize leftVm.entities.get entity = leftPolicy at policies
      generalize rightVm.entities.get entity = rightPolicy at policies
      cases policies with
      | none => rfl
      | some equal =>
          dsimp only
          unfold decisionOf
          rw [equal, same.vmCid, agrees.certValidityDays]

variable {κ : Type} (libs : Libraries κ) (ca : CertificateAuthority)

theorem HostConfig.Agrees.advance (agrees : left.Agrees right) (env : SigningEnvironment)
    (conn : Connection) : conn.advance libs right ca env = conn.advance libs left ca env := by
  have respond_eq (req : CertRequest) :
      (respond libs env right ca conn.peerCid req : Prog SignEvent ByteStream.Stream String _) =
        respond libs env left ca conn.peerCid req := by
    unfold respond
    rw [agrees.resolve]
  unfold Connection.advance
  cases conn.phase with
  | deciding req =>
      dsimp only
      rw [respond_eq req]
  | reading => rfl
  | answering response => rfl
  | reporting message => rfl
  | closed => rfl

/-- Nothing the server does depends on the order in which its maps are listed. -/
theorem HostConfig.Agrees.server (agrees : left.Agrees right) :
    server libs right ca = server libs left ca := by
  have next (state : ServerState) (action : ServerAction) :
      serverNext libs right ca state action = serverNext libs left ca state action := by
    cases action with
    | accept peerPort peerCid stream =>
        unfold serverNext acceptConnection
        rw [agrees.peerPort]
    | acceptFailed => rfl
    | advance index env =>
        unfold serverNext
        simp only [agrees.advance]
  unfold AuthScope.server
  rw [funext fun state => funext (next state)]

end Server

def documentText (doc : Json) : String := String.ofList (render doc)

def Parses {α : Type} (deserialize : Json → Option α) (fromStr : String → Except String α) :
    Prop :=
  ∀ doc value, deserialize doc = some value → fromStr (documentText doc) = .ok value

/-- A configuration that is written to a file is refused for its port or loaded
again: the agent's as it was, the host's as one that no server can tell apart
from it. -/
theorem configurations_round_trip {pathOf : String → Path} {textOf : Path → String}
    {hostStr : String → Except String HostConfig} {agentStr : String → Except String AgentConfig}
    (hostLaw : Parses HostConfig.deserialize hostStr)
    (agentLaw : Parses (AgentConfig.deserialize pathOf) agentStr) :
    (∀ config : HostConfig,
      (1000 ≤ config.serverPort →
        HostConfig.fromFile hostStr (.ok (documentText config.serialize)) =
          .error (serverPortTooLarge config.serverPort)) ∧
      (config.serverPort < 1000 → ∃ read,
        HostConfig.fromFile hostStr (.ok (documentText config.serialize)) = .ok read ∧
          config.Agrees read ∧
          ∀ {κ : Type} (libs : Libraries κ) (ca : CertificateAuthority),
            server libs read ca = server libs config ca)) ∧
    ∀ config : AgentConfig, (∀ entity ∈ config.entities, entity.PathsRead pathOf textOf) →
      AgentConfig.fromFile agentStr (.ok (documentText (config.serialize textOf))) =
        if 1000 ≤ config.serverPort then .error (serverPortTooLarge config.serverPort)
        else .ok config := by
  constructor
  · intro config
    obtain ⟨read, reads, agrees⟩ := HostConfig.rereads config
    have loaded := hostLaw config.serialize read reads
    have steps : HostConfig.fromFile hostStr (.ok (documentText config.serialize)) =
        if 1000 ≤ read.serverPort then .error (serverPortTooLarge read.serverPort)
        else .ok read := by
      change (hostStr (documentText config.serialize) >>= _) = _
      rw [loaded]
      rfl
    rw [steps, agrees.serverPort]
    constructor
    · intro tooLarge
      rw [if_pos tooLarge]
    · intro small
      rw [if_neg (UInt32.not_le.mpr small)]
      exact ⟨read, rfl, agrees, fun libs ca => agrees.server libs ca⟩
  · intro config paths
    have loaded := agentLaw _ config (AgentConfig.deserialize_serialize config paths)
    change (agentStr (documentText (config.serialize textOf)) >>= _) = _
    rw [loaded]
    rfl

namespace Reference

def parseDocument {α : Type} (deserialize : Json → Option α) (text : String) :
    Except String α :=
  match (parse text.toList).bind deserialize with
  | some value => .ok value
  | none => .error "expected value at line 1 column 1"

theorem parseDocument_parses {α : Type} (deserialize : Json → Option α) :
    Parses deserialize (parseDocument deserialize) := by
  intro doc value reads
  unfold parseDocument documentText
  rw [String.toList_ofList, parse_render, Option.bind_some, reads]

def parsePath (text : String) : Path :=
  .plain (text.toList.head? = some '/')
    (((text.toList.splitOn '/').filter fun part => part ≠ [] ∧ part ≠ ['.']).map String.ofList)

def sampleAgentConfig : AgentConfig :=
  { vmName := "app-vm"
    serverPort := 900
    entities := [renewedEntity]
    clientPort := 901 }

end Reference

open Reference in
theorem configurations_round_trip_sample :
    (∃ read, HostConfig.fromFile (parseDocument HostConfig.deserialize)
        (.ok (documentText sampleConfig.serialize)) = .ok read ∧
      ∀ (libs : Libraries Bytes) (ca : CertificateAuthority),
        server libs read ca = server libs sampleConfig ca) ∧
    AgentConfig.fromFile (parseDocument (AgentConfig.deserialize parsePath))
      (.ok (documentText (sampleAgentConfig.serialize Path.display))) = .ok sampleAgentConfig := by
  have laws := @configurations_round_trip parsePath Path.display _ _
    (parseDocument_parses HostConfig.deserialize)
    (parseDocument_parses (AgentConfig.deserialize parsePath))
  obtain ⟨read, loaded, _, same⟩ := (laws.1 sampleConfig).2 (by decide)
  have paths : ∀ entity ∈ sampleAgentConfig.entities,
      entity.PathsRead parsePath Path.display := by
    intro entity member
    rw [List.mem_singleton.mp member]
    unfold EntityEntry.PathsRead
    decide +kernel
  have agent := laws.2 sampleAgentConfig paths
  rw [if_neg (by decide)] at agent
  exact ⟨⟨read, loaded, fun libs ca => same libs ca⟩, agent⟩

end AuthScope
