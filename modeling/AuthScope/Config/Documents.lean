/-
The documents of the configurations.

The host and the agent read their configurations from JSON documents with
derived readers, where a member that may be left out names the function of its
default.  The reference of either configuration documents more members as
optional than its reader has defaults for.
-/

import AuthScope.Agent.Client
import AuthScope.Foundation.Records
import AuthScope.Proto.JsonForms
import AuthScope.Server.Policy

set_option autoImplicit false

namespace AuthScope

open CompactJson FileSystem JsonForms Records

def EntityPolicy.ofFields (fields : Fields) : Option EntityPolicy := do
  let caps ← fields.required "caps" (listOf Capability.deserialize)
  let validityDays ← fields.optional "validity_days" asUInt32
  return { caps, validityDays }

def EntityPolicy.fieldNames : List String := ["caps", "validity_days"]

def EntityPolicy.deserialize (doc : Json) : Option EntityPolicy :=
  (fieldsOf EntityPolicy.fieldNames doc).bind EntityPolicy.ofFields

def VmEntry.ofFields (fields : Fields) : Option VmEntry := do
  let vmCid ← fields.required "vm_cid" asUInt32
  let entities ← fields.required "entities" (mapOf EntityPolicy.deserialize)
  return { vmCid, entities }

def VmEntry.fieldNames : List String := ["vm_cid", "entities"]

def VmEntry.deserialize (doc : Json) : Option VmEntry :=
  (fieldsOf VmEntry.fieldNames doc).bind VmEntry.ofFields

namespace HostConfig

def defaultServerPort : UInt32 := 900

def defaultValidityDays : UInt32 := 365

def defaultPeerPort : UInt32 := 901

def ofFields (fields : Fields) : Option HostConfig := do
  let caCertPath ← fields.required "ca_cert_path" asString
  let caKeyPath ← fields.required "ca_key_path" asString
  let serverPort ← fields.withDefault "server_port" defaultServerPort asUInt32
  let certValidityDays ← fields.withDefault "cert_validity_days" defaultValidityDays asUInt32
  let vms ← fields.required "vms" (mapOf VmEntry.deserialize)
  let peerPort ← fields.withDefault "peer_port" defaultPeerPort asUInt32
  return { caCertPath, caKeyPath, serverPort, certValidityDays, vms, peerPort }

def fieldNames : List String :=
  ["ca_cert_path", "ca_key_path", "server_port", "cert_validity_days", "vms", "peer_port"]

def deserialize (doc : Json) : Option HostConfig := (fieldsOf fieldNames doc).bind ofFields

end HostConfig

section Agent

-- How the text of a path is taken apart.
variable (pathOf : String → Path)

def asPath (form : Json) : Option Path := (asString form).map pathOf

def EntityEntry.ofFields (fields : Fields) : Option EntityEntry := do
  let name ← fields.required "name" asString
  let certPath ← fields.required "cert_path" (asPath pathOf)
  let keyPath ← fields.required "key_path" (asPath pathOf)
  let caPath ← fields.required "ca_path" (asPath pathOf)
  let ownerUid ← fields.required "owner_uid" asUInt32
  let ownerGid ← fields.required "owner_gid" asUInt32
  let certMode ← fields.withDefault "cert_mode" defaultCertMode asString
  let keyMode ← fields.withDefault "key_mode" defaultKeyMode asString
  return { name, certPath, keyPath, caPath, ownerUid, ownerGid, certMode, keyMode }

def EntityEntry.fieldNames : List String :=
  ["name", "cert_path", "key_path", "ca_path", "owner_uid", "owner_gid", "cert_mode", "key_mode"]

def EntityEntry.deserialize (doc : Json) : Option EntityEntry :=
  (fieldsOf EntityEntry.fieldNames doc).bind (EntityEntry.ofFields pathOf)

def AgentConfig.ofFields (fields : Fields) : Option AgentConfig := do
  let vmName ← fields.required "vm_name" asString
  let serverPort ← fields.withDefault "server_port" defaultServerPort asUInt32
  let entities ← fields.required "entities" (listOf (EntityEntry.deserialize pathOf))
  let clientPort ← fields.withDefault "client_port" defaultClientPort asUInt32
  return { vmName, serverPort, entities, clientPort }

def AgentConfig.fieldNames : List String := ["vm_name", "server_port", "entities", "client_port"]

def AgentConfig.deserialize (doc : Json) : Option AgentConfig :=
  (fieldsOf AgentConfig.fieldNames doc).bind (AgentConfig.ofFields pathOf)

end Agent

def Capability.documented : List (String × Json) :=
  [("rpc_modules", .arr []), ("rpc_methods", .arr []), ("paths", .arr [])]

def EntityPolicy.documented : List (String × Json) := [("caps", .arr [])]

def VmEntry.documented : List (String × Json) := [("entities", .obj [])]

def HostConfig.documented : List (String × Json) :=
  [("server_port", .num 900), ("peer_port", .num 901), ("cert_validity_days", .num 365),
    ("vms", .obj [])]

def EntityEntry.documented : List (String × Json) :=
  [("owner_uid", .num 0), ("owner_gid", .num 0), ("cert_mode", .str "0640"),
    ("key_mode", .str "0600")]

def AgentConfig.documented : List (String × Json) :=
  [("server_port", .num 900), ("client_port", .num 901), ("entities", .arr [])]

def Capability.complete : Json → Json :=
  fillIn Capability.fieldNames Capability.documented fun _ => id

def EntityPolicy.complete : Json → Json :=
  fillIn EntityPolicy.fieldNames EntityPolicy.documented
    (completing "caps" (onItems Capability.complete))

def VmEntry.complete : Json → Json :=
  fillIn VmEntry.fieldNames VmEntry.documented
    (completing "entities" (onValues EntityPolicy.complete))

def HostConfig.complete : Json → Json :=
  fillIn HostConfig.fieldNames HostConfig.documented
    (completing "vms" (onValues VmEntry.complete))

def EntityEntry.complete : Json → Json :=
  fillIn EntityEntry.fieldNames EntityEntry.documented fun _ => id

def AgentConfig.complete : Json → Json :=
  fillIn AgentConfig.fieldNames AgentConfig.documented
    (completing "entities" (onItems EntityEntry.complete))

def Capability.WritesOut : Json → Prop :=
  Records.WritesOut Capability.fieldNames ["rpc_modules", "rpc_methods", "paths"] fun _ _ => True

def EntityPolicy.WritesOut : Json → Prop :=
  Records.WritesOut EntityPolicy.fieldNames ["caps"]
    (writing "caps" (EachItem Capability.WritesOut))

def VmEntry.WritesOut : Json → Prop :=
  Records.WritesOut VmEntry.fieldNames ["entities"]
    (writing "entities" (EachValue EntityPolicy.WritesOut))

/-- The VMs are written out, at every VM its entities, at every entity its
capabilities, and at every capability its modules, methods and paths. -/
def HostConfig.WritesOut : Json → Prop :=
  Records.WritesOut HostConfig.fieldNames ["vms"] (writing "vms" (EachValue VmEntry.WritesOut))

def EntityEntry.WritesOut : Json → Prop :=
  Records.WritesOut EntityEntry.fieldNames ["owner_uid", "owner_gid"] fun _ _ => True

def AgentConfig.WritesOut : Json → Prop :=
  Records.WritesOut AgentConfig.fieldNames ["entities"]
    (writing "entities" (EachItem EntityEntry.WritesOut))

/-! ### Reading a document and its completion -/

theorem Capability.completes :
    Completes Capability.deserialize Capability.complete Capability.WritesOut := by
  apply Completes.record
  · intro fields capability reads
    simp only [Capability.ofFields, bind, Option.bind_eq_some_iff] at reads
    obtain ⟨_, -, _, modules, _, methods, _, paths, -⟩ := reads
    refine ⟨?_, fun _ _ _ => trivial⟩
    intro name member
    simp only [List.mem_cons, List.not_mem_nil, or_false] at member
    rcases member with rfl | rfl | rfl
    · exact Fields.required_ne_none modules
    · exact Fields.required_ne_none methods
    · exact Fields.required_ne_none paths
  · intro fields filled capability source outer inner reads
    simp only [Capability.ofFields, bind, Option.bind_eq_some_iff] at reads ⊢
    obtain ⟨targetVm, target, rpcModules, modules, rpcMethods, methods, paths, accesses, same⟩ :=
      reads
    refine ⟨targetVm, source.required_plain rfl (fun _ => rfl) target,
      rpcModules, source.required_plain rfl ?_ modules,
      rpcMethods, source.required_plain rfl ?_ methods,
      paths, source.required_plain rfl ?_ accesses, same⟩
    · exact fun missing => absurd missing (outer _ (by simp))
    · exact fun missing => absurd missing (outer _ (by simp))
    · exact fun missing => absurd missing (outer _ (by simp))

theorem EntityPolicy.completes :
    Completes EntityPolicy.deserialize EntityPolicy.complete EntityPolicy.WritesOut := by
  have inside := Capability.completes.list
  apply Completes.record
  · intro fields policy reads
    simp only [EntityPolicy.ofFields, bind, Option.bind_eq_some_iff] at reads
    obtain ⟨_, caps, -⟩ := reads
    exact inside.writing_of_required caps
  · intro fields filled policy source outer inner reads
    simp only [EntityPolicy.ofFields, bind, Option.bind_eq_some_iff] at reads ⊢
    obtain ⟨caps, capabilities, validityDays, validity, same⟩ := reads
    exact ⟨caps, source.required_nested inside outer inner capabilities,
      validityDays, source.optional rfl rfl validity, same⟩

theorem VmEntry.completes : Completes VmEntry.deserialize VmEntry.complete VmEntry.WritesOut := by
  have inside := EntityPolicy.completes.map
  apply Completes.record
  · intro fields vmEntry reads
    simp only [VmEntry.ofFields, bind, Option.bind_eq_some_iff] at reads
    obtain ⟨_, -, _, entities, -⟩ := reads
    exact inside.writing_of_required entities
  · intro fields filled vmEntry source outer inner reads
    simp only [VmEntry.ofFields, bind, Option.bind_eq_some_iff] at reads ⊢
    obtain ⟨vmCid, cid, entities, policies, same⟩ := reads
    exact ⟨vmCid, source.required_plain rfl (fun _ => rfl) cid,
      entities, source.required_nested inside outer inner policies, same⟩

/-- What a default in the code makes of a missing member is what the documented
default is read as. -/
theorem reads_documented {α : Type} {defaults : List (String × Json)} {name : String}
    {read : Json → Option α} {fallback : α} {written : Json}
    (documented : defaults.lookup name = some written) (reads : read written = some fallback) :
    ∀ form, defaults.lookup name = some form → read form = some fallback := by
  intro form found
  rw [documented] at found
  cases found
  exact reads

theorem HostConfig.completes :
    Completes HostConfig.deserialize HostConfig.complete HostConfig.WritesOut := by
  have inside := VmEntry.completes.map
  apply Completes.record
  · intro fields config reads
    simp only [HostConfig.ofFields, bind, Option.bind_eq_some_iff] at reads
    obtain ⟨_, -, _, -, _, -, _, -, _, vms, -⟩ := reads
    exact inside.writing_of_required vms
  · intro fields filled config source outer inner reads
    simp only [HostConfig.ofFields, bind, Option.bind_eq_some_iff] at reads ⊢
    obtain ⟨caCertPath, cert, caKeyPath, key, serverPort, port, certValidityDays, validity,
      vms, entries, peerPort, peer, same⟩ := reads
    exact ⟨caCertPath, source.required_plain rfl (fun _ => rfl) cert,
      caKeyPath, source.required_plain rfl (fun _ => rfl) key,
      serverPort, source.withDefault rfl (reads_documented rfl rfl) port,
      certValidityDays, source.withDefault rfl (reads_documented rfl rfl) validity,
      vms, source.required_nested inside outer inner entries,
      peerPort, source.withDefault rfl (reads_documented rfl rfl) peer, same⟩

section Agent

variable (pathOf : String → Path)

theorem EntityEntry.completes :
    Completes (EntityEntry.deserialize pathOf) EntityEntry.complete EntityEntry.WritesOut := by
  apply Completes.record
  · intro fields entity reads
    simp only [EntityEntry.ofFields, bind, Option.bind_eq_some_iff] at reads
    obtain ⟨_, -, _, -, _, -, _, -, _, owner, _, group, -⟩ := reads
    refine ⟨?_, fun _ _ _ => trivial⟩
    intro name member
    simp only [List.mem_cons, List.not_mem_nil, or_false] at member
    rcases member with rfl | rfl
    · exact Fields.required_ne_none owner
    · exact Fields.required_ne_none group
  · intro fields filled entity source outer inner reads
    simp only [EntityEntry.ofFields, bind, Option.bind_eq_some_iff] at reads ⊢
    obtain ⟨name, named, certPath, cert, keyPath, key, caPath, ca, ownerUid, owner, ownerGid,
      group, certMode, certPermissions, keyMode, keyPermissions, same⟩ := reads
    refine ⟨name, source.required_plain rfl (fun _ => rfl) named,
      certPath, source.required_plain rfl (fun _ => rfl) cert,
      keyPath, source.required_plain rfl (fun _ => rfl) key,
      caPath, source.required_plain rfl (fun _ => rfl) ca,
      ownerUid, source.required_plain rfl ?_ owner,
      ownerGid, source.required_plain rfl ?_ group,
      certMode, source.withDefault rfl (reads_documented rfl rfl) certPermissions,
      keyMode, source.withDefault rfl (reads_documented rfl rfl) keyPermissions, same⟩
    · exact fun missing => absurd missing (outer _ (by simp))
    · exact fun missing => absurd missing (outer _ (by simp))

theorem AgentConfig.completes :
    Completes (AgentConfig.deserialize pathOf) AgentConfig.complete AgentConfig.WritesOut := by
  have inside := (EntityEntry.completes pathOf).list
  apply Completes.record
  · intro fields config reads
    simp only [AgentConfig.ofFields, bind, Option.bind_eq_some_iff] at reads
    obtain ⟨_, -, _, -, _, entities, -⟩ := reads
    exact inside.writing_of_required entities
  · intro fields filled config source outer inner reads
    simp only [AgentConfig.ofFields, bind, Option.bind_eq_some_iff] at reads ⊢
    obtain ⟨vmName, named, serverPort, port, entities, entries, clientPort, client, same⟩ := reads
    exact ⟨vmName, source.required_plain rfl (fun _ => rfl) named,
      serverPort, source.withDefault rfl (reads_documented rfl rfl) port,
      entities, source.required_nested inside outer inner entries,
      clientPort, source.withDefault rfl (reads_documented rfl rfl) client, same⟩

/-- A document whose completion is accepted is read as its completion exactly if
it writes out the members that are optional in the documentation only. -/
theorem documented_defaults_iff :
    (∀ doc config, HostConfig.deserialize (HostConfig.complete doc) = some config →
      (HostConfig.deserialize doc = some config ↔ HostConfig.WritesOut doc)) ∧
    ∀ doc config, AgentConfig.deserialize pathOf (AgentConfig.complete doc) = some config →
      (AgentConfig.deserialize pathOf doc = some config ↔ AgentConfig.WritesOut doc) :=
  ⟨fun _ _ => HostConfig.completes.iff, fun _ _ => (AgentConfig.completes pathOf).iff⟩

end Agent

def rootedAt (text : String) : Path := .rooted [text]

def plainHost : Json :=
  .obj [("ca_cert_path", .str "ca.pem"), ("ca_key_path", .str "ca.key"),
    ("vms", .obj [("app-vm", .obj [("vm_cid", .num 3),
      ("entities", .obj [("svc", .obj [("caps", .arr [.obj [("target_vm", .str "db"),
        ("rpc_modules", .arr [.str "auth"]), ("rpc_methods", .arr []),
        ("paths", .arr [])]])])])])])]

def plainAgent : Json :=
  .obj [("vm_name", .str "app-vm"),
    ("entities", .arr [.obj [("name", .str "svc"), ("cert_path", .str "svc.pem"),
      ("key_path", .str "svc.key"), ("ca_path", .str "ca.pem"), ("owner_uid", .num 0),
      ("owner_gid", .num 0)]])]

theorem documented_defaults_iff_sample :
    HostConfig.WritesOut plainHost ∧ AgentConfig.WritesOut plainAgent :=
  ⟨((documented_defaults_iff rootedAt).1 plainHost _ rfl).mp rfl,
    ((documented_defaults_iff rootedAt).2 plainAgent _ rfl).mp rfl⟩

/-- A capability for a whole VM leaves its lists out. -/
def sparseHost : Json :=
  .obj [("ca_cert_path", .str "ca.pem"), ("ca_key_path", .str "ca.key"),
    ("vms", .obj [("app-vm", .obj [("vm_cid", .num 3),
      ("entities", .obj [("svc", .obj [("caps", .arr [.obj [("target_vm", .str "db")]])])])])])]

def sparseAgent : Json :=
  .obj [("vm_name", .str "app-vm"),
    ("entities", .arr [.obj [("name", .str "svc"), ("cert_path", .str "svc.pem"),
      ("key_path", .str "svc.key"), ("ca_path", .str "ca.pem")]])]

/-- Documents that leave documented defaults out are refused, and their
completions are accepted. -/
theorem documented_defaults_refused :
    ((HostConfig.deserialize (HostConfig.complete sparseHost)).isSome = true ∧
      HostConfig.deserialize sparseHost = none) ∧
    (AgentConfig.deserialize rootedAt (AgentConfig.complete sparseAgent)).isSome = true ∧
      AgentConfig.deserialize rootedAt sparseAgent = none :=
  ⟨⟨rfl, rfl⟩, rfl, rfl⟩

end AuthScope
