/-
The host configuration and the policy lookup.
-/

import AuthScope.Foundation.StringMap
import AuthScope.Proto.Messages

set_option autoImplicit false

namespace AuthScope

structure EntityPolicy where
  caps : List (Capability String)
  /-- Overrides the global setting. -/
  validityDays : Option UInt32

structure VmEntry where
  vmCid : UInt32
  entities : StringMap EntityPolicy

structure HostConfig where
  caCertPath : String
  caKeyPath : String
  serverPort : UInt32
  certValidityDays : UInt32
  vms : StringMap VmEntry
  /-- Expected peer port of the client agent. -/
  peerPort : UInt32

def serverPortTooLarge (serverPort : UInt32) : String :=
  "server_port must be less than 1000, got " ++ toString serverPort

/-- Load the configuration from the text of a file, if it could be read.  How a
text becomes a configuration is a parameter. -/
def HostConfig.fromFile (fromStr : String → Except String HostConfig)
    (data : Except String String) : Except String HostConfig := do
  let data ← data
  let cfg ← fromStr data
  if 1000 ≤ cfg.serverPort then .error (serverPortTooLarge cfg.serverPort)
  else return cfg

structure PolicyDecision where
  vmName : String
  vmCid : UInt32
  caps : List (Capability String)
  validityDays : UInt32
  deriving DecidableEq, Repr

def decisionOf (config : HostConfig) (vmName : String) (vmEntry : VmEntry)
    (policy : EntityPolicy) : PolicyDecision :=
  { vmName
    vmCid := vmEntry.vmCid
    caps := policy.caps
    validityDays := policy.validityDays.getD config.certValidityDays }

/-- Look up whether the entity of the VM is authorised. -/
def resolve (config : HostConfig) (vmName entity : String) : Option PolicyDecision := do
  let vmEntry ← config.vms.get vmName
  let policy ← vmEntry.entities.get entity
  return decisionOf config vmName vmEntry policy

theorem resolve_eq_some_iff (config : HostConfig) (vmName entity : String)
    (decision : PolicyDecision) :
    resolve config vmName entity = some decision ↔
      ∃ vmEntry policy, config.vms.get vmName = some vmEntry ∧
        vmEntry.entities.get entity = some policy ∧
        decision = decisionOf config vmName vmEntry policy := by
  simp only [resolve, bind, Option.bind_eq_some_iff, pure, Option.some.injEq]
  constructor
  · rintro ⟨vmEntry, found, policy, registered, same⟩
    exact ⟨vmEntry, policy, found, registered, same.symm⟩
  · rintro ⟨vmEntry, policy, found, registered, same⟩
    exact ⟨vmEntry, found, policy, registered, same.symm⟩

end AuthScope
