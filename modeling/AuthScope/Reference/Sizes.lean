/-
How long the certificates of the instance are.

Every layer of a certificate is bounded by what it wraps: escapes take at most
six characters, characters at most four bytes, and the encoding four symbols for
three bytes.
-/

import AuthScope.Proto.FrameLimit
import AuthScope.Reference.Scenario

set_option autoImplicit false

namespace AuthScope
namespace Reference

open ByteText Base64Url CompactJson JsonForms CertificateAuthority

theorem encodeText_length (bytes : Bytes) :
    (encodeText bytes).toList.length = (4 * bytes.length + 2) / 3 := by
  rw [encodeText, asciiText, String.toList_ofList, List.length_map, encode_length]

theorem armour_length (der : Bytes) :
    (armour der).toList.length = (4 * der.length + 2) / 3 + 55 := by
  have opening : beginMarker.toList.length = 28 := by decide
  have closing : endMarker.toList.length = 27 := by decide
  rw [armour, String.toList_append, String.toList_append, List.length_append, List.length_append,
    encodeText_length, opening, closing]
  omega

theorem renderBytes_length_le (bytes : Bytes) :
    (render (bytesForm bytes)).length ≤ 8 * bytes.length + 6 := by
  have bound := renderString_length_le (encodeText bytes)
  rw [encodeText_length] at bound
  rw [bytesForm, render]
  omega

theorem extensionForm_length (extension : Extension) :
    (render (extensionForm extension)).length = (render (arcsForm extension.oid)).length +
      (render (bytesForm extension.value)).length + 3 := by
  simp only [extensionForm, render, renderItems, comma, List.length_cons, List.length_append,
    List.length_nil, if_true, Bool.false_eq_true, if_false]
  omega

theorem keyUsageArcs_length : (render (arcsForm keyUsageExtension.oid)).length = 11 := by
  simp [keyUsageExtension, arcsForm, arcForm, render, renderItems, renderNumber, comma, decimal]

theorem bodyForm_length_le (body : Body) :
    (render (bodyForm body)).length ≤ (render (nameForm body.subject)).length +
      8 * body.subjectKey.length + (render (isCaForm body.isCa)).length +
      (renderItems true (body.extensions.map extensionForm)).length + 60 := by
  have subject : (renderString "subject").length = 9 := by decide
  have key : (renderString "key").length = 5 := by decide
  have ca : (renderString "ca").length = 4 := by decide
  have extensions : (renderString "extensions").length = 12 := by decide
  have keyBound := renderBytes_length_le body.subjectKey
  simp only [bodyForm, render, renderMembers, comma, List.length_cons, List.length_append,
    List.length_nil, if_true, Bool.false_eq_true, if_false, subject, key, ca, extensions]
  omega

theorem keyUsage_length_le :
    (renderItems true ([keyUsageExtension].map extensionForm)).length ≤ 60 := by
  have usageBound := renderBytes_length_le keyUsageExtension.value
  have usage : keyUsageExtension.value.length = 3 := rfl
  simp only [List.map_cons, List.map_nil, renderItems, comma, if_true, List.length_append,
    List.length_nil, List.length_cons, extensionForm_length, keyUsageArcs_length]
  omega

theorem extensions_length_le (extension : Extension) :
    (renderItems true ([keyUsageExtension, extension].map extensionForm)).length ≤
      (render (arcsForm extension.oid)).length + 8 * extension.value.length + 76 := by
  have usageBound := renderBytes_length_le keyUsageExtension.value
  have valueBound := renderBytes_length_le extension.value
  have usage : keyUsageExtension.value.length = 3 := rfl
  simp only [List.map_cons, List.map_nil, renderItems, comma, if_true, Bool.false_eq_true,
    if_false, List.length_append, List.length_nil, List.length_cons, extensionForm_length,
    keyUsageArcs_length]
  omega

theorem encodeDerOctetString_length_le (data : Bytes) :
    (encodeDerOctetString data).length ≤ data.length + 4 := by
  rw [encodeDerOctetString, encodeDerLength]
  split_ifs <;> simp only [List.length_cons, List.length_append, List.length_nil] <;> omega

theorem capArcs_length : (render (arcsForm capExtensionOid)).length = 21 := by
  simp [capExtensionOid, arcsForm, arcForm, render, renderItems, renderNumber, comma, decimal]

theorem signatureOf_length (key : Bytes) : (signatureOf key).length = 64 := by
  rw [signatureOf, List.length_append, bigEndian_length, bigEndian_length]

section Leaf

variable (key : Bytes) (now : Int64) (req : SigningRequest) (subject : DistinguishedName)
  (subjectKey : Bytes)

def leafExtension : Extension :=
  { oid := capExtensionOid
    value := encodeDerOctetString (utf8 (tokenText (payloadOf now req) (signatureOf key))) }

theorem leafExtension_length_le :
    (leafExtension key now req).value.length ≤ (4 * (payloadOf now req).length + 2) / 3 + 128 := by
  have token := utf8_tokenText_length (payloadOf now req) (signatureOf key)
    (signatureOf_length key)
  have wrapped := encodeDerOctetString_length_le
    (utf8 (tokenText (payloadOf now req) (signatureOf key)))
  rw [token] at wrapped
  refine Nat.le_trans wrapped ?_
  omega

theorem leafTbs_eq :
    tbsOf (leafOf key now req
      { params := defaultParams subject .noCa, publicKey := subjectKey }).params subjectKey =
        toBytes (bodyForm
          { subject := subject
            subjectKey
            isCa := .noCa
            extensions := [keyUsageExtension, leafExtension key now req] }) ++
          0xFF :: (leafExtension key now req).value := by
  simp only [tbsOf, leafOf, CertificateSigningRequestParams.withCapability, bodyOf, defaultParams,
    capExtension, leafExtension, List.nil_append, List.map_cons, List.map_nil, List.flatMap_cons,
    List.flatMap_nil, List.append_nil, reduceCtorEq, if_false]

theorem leafTbs_length_le :
    (tbsOf (leafOf key now req
      { params := defaultParams subject .noCa, publicKey := subjectKey }).params
        subjectKey).length ≤
      4 * (render (nameForm subject)).length + 32 * subjectKey.length +
        44 * (payloadOf now req).length + 6000 := by
  have extension := leafExtension_length_le key now req
  have body := bodyForm_length_le
    { subject := subject
      subjectKey
      isCa := .noCa
      extensions := [keyUsageExtension, leafExtension key now req] }
  have both := extensions_length_le (leafExtension key now req)
  have arcs : (render (arcsForm (leafExtension key now req).oid)).length = 21 := capArcs_length
  have notCa : (render (isCaForm .noCa)).length = 4 := rfl
  have bytes := toBytes_length_le (bodyForm
    { subject := subject
      subjectKey
      isCa := .noCa
      extensions := [keyUsageExtension, leafExtension key now req] })
  rw [leafTbs_eq, List.length_append, List.length_cons]
  simp only [arcs, notCa] at both body
  omega

theorem leafPem_length_le (signable : Bytes → Bool) :
    ((issuanceOf key now req { params := defaultParams subject .noCa, publicKey := subjectKey }).pem
      (libraries signable)).toList.length ≤
      6 * (render (nameForm subject)).length + 43 * subjectKey.length +
        59 * (payloadOf now req).length + 8500 := by
  have tbs := leafTbs_length_le key now req subject subjectKey
  rw [Issuance.pem, libraries_certificateDer, libraries_certificatePem, armour_length]
  simp only [issuanceOf]
  rw [List.length_append, signatureOf_length]
  omega

end Leaf

theorem authority_length_le (key : Bytes) :
    (authority key).certPem.toList.length ≤
      6 * (render (nameForm rootParams.distinguishedName)).length + 43 * key.length + 2000 := by
  have body := bodyForm_length_le (bodyOf rootParams (publicKey key))
  have usage := keyUsage_length_le
  have bytes := toBytes_length_le (bodyForm (bodyOf rootParams (publicKey key)))
  have isCa : (render (isCaForm .unconstrained)).length = 4 := rfl
  simp only [List.map_cons, List.map_nil] at usage
  rw [authority, armour_length, List.length_append, signatureOf_length, tbsOf, List.length_append]
  simp only [bodyOf, rootParams, List.map_nil, List.map_cons, isCa, publicKey, List.length_cons,
    List.length_nil, List.flatMap_nil, List.nil_append, if_true] at body bytes ⊢
  omega

theorem certificateRequest_length_le (subject : DistinguishedName) (subjectKey : Bytes) :
    (certificateRequest subject subjectKey).toList.length ≤
      6 * (render (nameForm subject)).length + 43 * subjectKey.length + 200 := by
  have bytes := toBytes_length_le (requestForm subject subjectKey)
  have keyBound := renderBytes_length_le subjectKey
  have subjectName : (renderString "subject").length = 9 := by decide
  have keyName : (renderString "key").length = 5 := by decide
  have rendered : (render (requestForm subject subjectKey)).length =
      (render (nameForm subject)).length + (render (bytesForm subjectKey)).length + 19 := by
    simp only [requestForm, render, renderMembers, comma, List.length_cons, List.length_append,
      List.length_nil, if_true, Bool.false_eq_true, if_false, subjectName, keyName]
    omega
  rw [certificateRequest, encodeText_length]
  omega

theorem request_length_le (request : CertRequest) :
    (toBytes (ofCertRequest request)).length ≤
      4 * (renderNumber request.version.toNat).length +
        24 * (request.vmName.toList.length + request.entity.toList.length +
          request.csrPem.toList.length) + 400 := by
  have bytes := toBytes_length_le (ofCertRequest request)
  have vm := renderString_length_le request.vmName
  have entity := renderString_length_le request.entity
  have csr := renderString_length_le request.csrPem
  have versionName : (renderString "version").length = 9 := by decide
  have vmName : (renderString "vm_name").length = 9 := by decide
  have entityName : (renderString "entity").length = 8 := by decide
  have csrName : (renderString "csr_pem").length = 9 := by decide
  have rendered : (render (ofCertRequest request)).length =
      (renderNumber request.version.toNat).length + (renderString request.vmName).length +
        (renderString request.entity).length + (renderString request.csrPem).length + 44 := by
    simp only [ofCertRequest, render, renderMembers, comma, List.length_cons, List.length_append,
      List.length_nil, if_true, Bool.false_eq_true, if_false, versionName, vmName, entityName,
      csrName]
    omega
  omega

end Reference
end AuthScope
