/-
The JSON forms of the claims and of the wire messages.

Every record is an object with the field names of the source, and a response
carries its variant in the member `status`.  The readers are the derived ones.
Reading what was written returns the value for every one of the types.
-/

import AuthScope.Foundation.Records
import AuthScope.Proto.Codec
import AuthScope.Proto.Messages

set_option autoImplicit false

namespace AuthScope

open ByteText CompactJson Records

namespace JsonForms

def member (name : String) : Json → Option Json
  | .obj members => members.lookup name
  | _ => none

def asString : Json → Option String
  | .str text => some text
  | _ => none

def asArray : Json → Option (List Json)
  | .arr items => some items
  | _ => none

def asUInt32 : Json → Option UInt32
  | .num (.ofNat value) => if value < 2 ^ 32 then some (UInt32.ofNat value) else none
  | _ => none

def asInt64 : Json → Option Int64
  | .num value =>
      if -2 ^ 63 ≤ value ∧ value < 2 ^ 63 then some (Int64.ofInt value) else none
  | _ => none

@[simp] theorem asArray_arr (items : List Json) : asArray (.arr items) = some items := rfl

def ofStrings (texts : List String) : Json := .arr (texts.map Json.str)

theorem asUInt32_ofNat (value : UInt32) :
    asUInt32 (.num value.toNat) = some value := by
  change (if value.toNat < 2 ^ 32 then some (UInt32.ofNat value.toNat) else none) = some value
  rw [if_pos value.toNat_lt, UInt32.ofNat_toNat]

theorem asInt64_toInt (value : Int64) : asInt64 (.num value.toInt) = some value := by
  have inRange : -2 ^ 63 ≤ value.toInt ∧ value.toInt < 2 ^ 63 :=
    ⟨value.le_toInt, value.toInt_lt⟩
  rw [asInt64, if_pos inRange, Int64.ofInt_toInt]

theorem mapM_map_some {α β : Type} (write : α → β) (read : β → Option α)
    (inverse : ∀ value, read (write value) = some value) (values : List α) :
    (values.map write).mapM read = some values := by
  induction values with
  | nil => rfl
  | cons value rest ih =>
      rw [List.map_cons, List.mapM_cons, inverse value, ih]
      rfl

def ofPathAccess (access : PathAccess String) : Json :=
  .obj [("path", .str access.path), ("access", ofStrings access.access)]

def ofCapability (capability : Capability String) : Json :=
  .obj [("target_vm", .str capability.targetVm),
    ("rpc_modules", ofStrings capability.rpcModules),
    ("rpc_methods", ofStrings capability.rpcMethods),
    ("paths", arrayOf ofPathAccess capability.paths)]

def ofCapClaim (claim : CapClaim String) : Json :=
  .obj [("iss", .str claim.iss), ("sub", .str claim.sub), ("vm", .str claim.vm),
    ("cid", .num claim.cid.toNat), ("iat", .num claim.iat.toInt),
    ("exp", .num claim.exp.toInt), ("caps", arrayOf ofCapability claim.caps)]

def ofCertRequest (request : CertRequest) : Json :=
  .obj [("version", .num request.version.toNat),
    ("vm_name", .str request.vmName), ("entity", .str request.entity),
    ("csr_pem", .str request.csrPem)]

def ofCertResponse : CertResponse → Json
  | .ok certPem caCertPem =>
      .obj [("status", .str "ok"), ("cert_pem", .str certPem),
        ("ca_cert_pem", .str caCertPem)]
  | .error message => .obj [("status", .str "error"), ("message", .str message)]

end JsonForms

open JsonForms

/-! ### Derived readers -/

def PathAccess.ofFields (fields : Fields) : Option (PathAccess String) := do
  let path ← fields.required "path" asString
  let access ← fields.required "access" (listOf asString)
  return { path, access }

def PathAccess.deserialize (doc : Json) : Option (PathAccess String) :=
  (fieldsOf ["path", "access"] doc).bind PathAccess.ofFields

def Capability.ofFields (fields : Fields) : Option (Capability String) := do
  let targetVm ← fields.required "target_vm" asString
  let rpcModules ← fields.required "rpc_modules" (listOf asString)
  let rpcMethods ← fields.required "rpc_methods" (listOf asString)
  let paths ← fields.required "paths" (listOf PathAccess.deserialize)
  return { targetVm, rpcModules, rpcMethods, paths }

def Capability.fieldNames : List String := ["target_vm", "rpc_modules", "rpc_methods", "paths"]

def Capability.deserialize (doc : Json) : Option (Capability String) :=
  (fieldsOf Capability.fieldNames doc).bind Capability.ofFields

def CapClaim.ofFields (fields : Fields) : Option (CapClaim String) := do
  let iss ← fields.required "iss" asString
  let sub ← fields.required "sub" asString
  let vm ← fields.required "vm" asString
  let cid ← fields.required "cid" asUInt32
  let iat ← fields.required "iat" asInt64
  let exp ← fields.required "exp" asInt64
  let caps ← fields.required "caps" (listOf Capability.deserialize)
  return { iss, sub, vm, cid, iat, exp, caps }

def CapClaim.deserialize (doc : Json) : Option (CapClaim String) :=
  (fieldsOf ["iss", "sub", "vm", "cid", "iat", "exp", "caps"] doc).bind CapClaim.ofFields

def CertRequest.ofFields (fields : Fields) : Option CertRequest := do
  let version ← fields.required "version" asUInt32
  let vmName ← fields.required "vm_name" asString
  let entity ← fields.required "entity" asString
  let csrPem ← fields.required "csr_pem" asString
  return { version, vmName, entity, csrPem }

def CertRequest.deserialize (doc : Json) : Option CertRequest :=
  (fieldsOf ["version", "vm_name", "entity", "csr_pem"] doc).bind CertRequest.ofFields

/-- The fields of the variant with this tag. -/
def CertResponse.ofStatus (status : String) (doc : Json) : Option CertResponse :=
  if status = "ok" then do
    let fields ← fieldsOf ["cert_pem", "ca_cert_pem"] doc
    let certPem ← fields.required "cert_pem" asString
    let caCertPem ← fields.required "ca_cert_pem" asString
    return .ok certPem caCertPem
  else if status = "error" then do
    let fields ← fieldsOf ["message"] doc
    let message ← fields.required "message" asString
    return .error message
  else none

/-- The tag is a member of an object, or the first item of an array. -/
def CertResponse.deserialize : Json → Option CertResponse
  | .obj members => do
      let fields ← fieldsOf ["status"] (.obj members)
      let status ← fields.required "status" asString
      CertResponse.ofStatus status (.obj members)
  | .arr (.str status :: items) => CertResponse.ofStatus status (.arr items)
  | _ => none

theorem listOf_strings (texts : List String) :
    listOf asString (.arr (texts.map Json.str)) = some texts :=
  listOf_arrayOf texts fun _ _ => rfl

theorem PathAccess.deserialize_of (access : PathAccess String) :
    PathAccess.deserialize (ofPathAccess access) = some access := by
  have strings := listOf_strings access.access
  simp [PathAccess.deserialize, ofPathAccess, fieldsOf, PathAccess.ofFields, Fields.required,
    List.lookup_cons, asString, ofStrings, strings]

theorem Capability.deserialize_of (capability : Capability String) :
    Capability.deserialize (ofCapability capability) = some capability := by
  have paths := listOf_arrayOf capability.paths fun access _ => PathAccess.deserialize_of access
  simp [Capability.deserialize, ofCapability, fieldsOf, Capability.fieldNames,
    Capability.ofFields, Fields.required, List.lookup_cons, asString, ofStrings,
    listOf_strings, paths]

theorem CapClaim.deserialize_of (claim : CapClaim String) :
    CapClaim.deserialize (ofCapClaim claim) = some claim := by
  have cid := asUInt32_ofNat claim.cid
  have iat := asInt64_toInt claim.iat
  have exp := asInt64_toInt claim.exp
  have caps := listOf_arrayOf claim.caps fun grant _ => Capability.deserialize_of grant
  simp [CapClaim.deserialize, ofCapClaim, fieldsOf, CapClaim.ofFields, Fields.required,
    List.lookup_cons, asString, cid, iat, exp, caps]

theorem CertRequest.deserialize_of (request : CertRequest) :
    CertRequest.deserialize (ofCertRequest request) = some request := by
  have version := asUInt32_ofNat request.version
  simp [CertRequest.deserialize, ofCertRequest, fieldsOf, CertRequest.ofFields, Fields.required,
    List.lookup_cons, asString, version]

theorem CertResponse.deserialize_of (response : CertResponse) :
    CertResponse.deserialize (ofCertResponse response) = some response := by
  cases response with
  | ok certPem caCertPem =>
      simp [CertResponse.deserialize, CertResponse.ofStatus, ofCertResponse, fieldsOf,
        Fields.required, List.lookup_cons, asString]
  | error message =>
      simp [CertResponse.deserialize, CertResponse.ofStatus, ofCertResponse, fieldsOf,
        Fields.required, List.lookup_cons, asString]

namespace JsonForms

def codec {α : Type} (write : α → Json) (read : Json → Option α) : JsonCodec α :=
  { toVec := fun value => .ok (toBytes (write value))
    fromSlice := fun text =>
      match (ofBytes text).bind read with
      | some value => .ok value
      | none => .error "invalid JSON" }

theorem codec_roundTrips {α : Type} (write : α → Json) (read : Json → Option α)
    (inverse : ∀ value, read (write value) = some value) :
    (codec write read).RoundTrips := by
  intro value
  refine ⟨toBytes (write value), rfl, ?_⟩
  simp only [codec, ofBytes_toBytes, Option.bind_some, inverse]

def claimCodec : JsonCodec (CapClaim String) := codec ofCapClaim CapClaim.deserialize

def requestCodec : JsonCodec CertRequest := codec ofCertRequest CertRequest.deserialize

def responseCodec : JsonCodec CertResponse := codec ofCertResponse CertResponse.deserialize

theorem claimCodec_roundTrips : claimCodec.RoundTrips :=
  codec_roundTrips ofCapClaim CapClaim.deserialize CapClaim.deserialize_of

theorem requestCodec_roundTrips : requestCodec.RoundTrips :=
  codec_roundTrips ofCertRequest CertRequest.deserialize CertRequest.deserialize_of

theorem responseCodec_roundTrips : responseCodec.RoundTrips :=
  codec_roundTrips ofCertResponse CertResponse.deserialize CertResponse.deserialize_of

end JsonForms
end AuthScope
