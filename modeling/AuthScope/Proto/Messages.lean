/-
Capability claims and the messages of the certificate protocol.

The claim types are generic in the type of text.  The issuer and the first
evaluator hold Unicode strings; the second evaluator holds byte strings and
sees the UTF-8 bytes of what the issuer wrote.
-/

import AuthScope.Foundation.ByteText

set_option autoImplicit false

namespace AuthScope

open ByteText

structure PathAccess (σ : Type) where
  path : σ
  access : List σ
  deriving DecidableEq, Repr

/-- A grant on one target VM: whole RPC modules, single methods written
`module.method`, and paths. -/
structure Capability (σ : Type) where
  targetVm : σ
  rpcModules : List σ
  rpcMethods : List σ
  paths : List (PathAccess σ)
  deriving DecidableEq, Repr

structure CapClaim (σ : Type) where
  iss : σ
  sub : σ
  vm : σ
  cid : UInt32
  iat : Int64
  exp : Int64
  caps : List (Capability σ)
  deriving DecidableEq, Repr

section Text

variable {σ τ : Type}

def PathAccess.map (convert : σ → τ) (access : PathAccess σ) : PathAccess τ :=
  { path := convert access.path
    access := access.access.map convert }

def Capability.map (convert : σ → τ) (capability : Capability σ) : Capability τ :=
  { targetVm := convert capability.targetVm
    rpcModules := capability.rpcModules.map convert
    rpcMethods := capability.rpcMethods.map convert
    paths := capability.paths.map (PathAccess.map convert) }

def CapClaim.map (convert : σ → τ) (claim : CapClaim σ) : CapClaim τ :=
  { iss := convert claim.iss
    sub := convert claim.sub
    vm := convert claim.vm
    cid := claim.cid
    iat := claim.iat
    exp := claim.exp
    caps := claim.caps.map (Capability.map convert) }

end Text

def protocolVersion : UInt32 := 1

structure CertRequest where
  version : UInt32
  vmName : String
  entity : String
  csrPem : String
  deriving DecidableEq, Repr

inductive CertResponse where
  | ok (certPem caCertPem : String)
  | error (message : String)
  deriving DecidableEq, Repr

end AuthScope
