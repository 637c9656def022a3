/-
An executable instance of the libraries, with all their laws.

Signatures are numbers that name the public key, and only messages that a given
predicate admits can be signed or verify, so a history of signatures can cover
every message that verifies.
-/

import AuthScope.Reference.Certificates

set_option autoImplicit false

namespace AuthScope
namespace Reference

open ByteText Base64Url CompactJson JsonForms

variable (signable : Bytes → Bool)

def publicKey (key : Bytes) : Bytes := 4 :: key

def keyNumber (point : Bytes) : Nat := ofBigEndian point % 256 ^ 32

def verifyNumbers (point message : Bytes) (r s : Nat) : Bool :=
  r == keyNumber point && s == 1 && signable message

def signatureOf (key : Bytes) : Bytes :=
  bigEndian 32 (keyNumber (publicKey key)) ++ bigEndian 32 1

def signMessage (key message : Bytes) : Except String Bytes :=
  if signable message then .ok (signatureOf key) else .error "signing failed"

def ofOption {α : Type} (message : String) : Option α → Except String α
  | some value => .ok value
  | none => .error message

def x509ExtensionOf (extension : Extension) : X509Extension :=
  { oid := ObjectIdentifier.octetsOf extension.oid, value := extension.value }

def x509Of (body : Body) : X509Certificate :=
  { subject := body.subject
    subjectPublicKey := body.subjectKey
    extensions := body.extensions.map x509ExtensionOf }

def iterateOid (oid : Bytes) : Option (List Nat) :=
  if ∀ arc ∈ ObjectIdentifier.arcsOf oid, arc < 2 ^ 64 then some (ObjectIdentifier.arcsOf oid)
  else none

def goCertificateOf (body : Body) : GoCertificate :=
  { publicKey := .ecdsa body.subjectKey
    extensions := body.extensions }

def importedOf (body : Body) : CertificateParams := defaultParams body.subject body.isCa

def libraries : Libraries Bytes :=
  { ecdsaFromPkcs8 := .ok
    ecdsaSign := fun key _ message => signMessage signable key message
    ecdsaVerify := fun point message signature =>
      signature.length == 64 && verifyNumbers signable point message
        (ofBigEndian (signature.take 32)) (ofBigEndian (signature.drop 32))
    base64Error := fun _ => "Invalid input"
    claimJson := claimCodec
    requestJson := requestCodec
    responseJson := responseCodec
    generateKey := fun nonce => .ok (bigEndian 32 nonce)
    publicKey := publicKey
    serializePem := encodeText
    serializeDer := fun key => key
    keyPairFromPem := fun text => ofOption "invalid key" (decodeStrict (utf8 text))
    csrFromPem := fun text => ofOption "invalid request" (readRequest text)
    caParamsFromPem := fun text =>
      ofOption "invalid certificate" (((readArmour (utf8 text)).bind readBody).map importedOf)
    tbsCertificate := fun params subjectKey _ _ => .ok (tbsOf params subjectKey)
    signTbs := fun key _ message => signMessage signable key message
    certificateDer := fun tbs signature => tbs ++ signature
    certificatePem := armour
    parseX509Pem := fun text => ofOption "no certificate" (readArmour text)
    parseX509Certificate := fun der =>
      ofOption "invalid certificate" ((readBody der).map x509Of)
    oidIter := iterateOid
    goBase64Error := fun _ => "illegal base64 data"
    goAsn1Error := fun _ => "asn1: syntax error"
    pemDecode := readArmour
    goParseCertificate := fun der =>
      ofOption "x509: malformed certificate" ((readBody der).map goCertificateOf)
    sha256 := fun message => message
    goVerify := fun point hash r s => verifyNumbers signable point hash r s
    goUnmarshalClaim := fun text =>
      (claimCodec.fromSlice text).map fun claim => claim.map utf8 }

section Functions

variable (key message : Bytes) (nonce : Nat)

@[simp] theorem libraries_publicKey : (libraries signable).publicKey key = publicKey key := rfl

@[simp] theorem libraries_generateKey :
    (libraries signable).generateKey nonce = .ok (bigEndian 32 nonce) := rfl

@[simp] theorem libraries_serializePem :
    (libraries signable).serializePem key = encodeText key := rfl

@[simp] theorem libraries_serializeDer : (libraries signable).serializeDer key = key := rfl

@[simp] theorem libraries_ecdsaFromPkcs8 :
    (libraries signable).ecdsaFromPkcs8 key = .ok key := rfl

@[simp] theorem libraries_ecdsaSign :
    (libraries signable).ecdsaSign key nonce message = signMessage signable key message := rfl

@[simp] theorem libraries_signTbs :
    (libraries signable).signTbs key nonce message = signMessage signable key message := rfl

@[simp] theorem libraries_tbsCertificate (params issuer : CertificateParams)
    (subjectKey issuerKey : Bytes) :
    (libraries signable).tbsCertificate params subjectKey issuer issuerKey =
      .ok (tbsOf params subjectKey) := rfl

@[simp] theorem libraries_toVec (claim : CapClaim String) :
    (libraries signable).claimJson.toVec claim = .ok (toBytes (ofCapClaim claim)) := rfl

@[simp] theorem libraries_certificatePem :
    (libraries signable).certificatePem message = armour message := rfl

@[simp] theorem libraries_certificateDer (signature : Bytes) :
    (libraries signable).certificateDer message signature = message ++ signature := rfl

@[simp] theorem libraries_csrFromPem (text : String) :
    (libraries signable).csrFromPem text = ofOption "invalid request" (readRequest text) := rfl

@[simp] theorem libraries_keyPairFromPem (text : String) :
    (libraries signable).keyPairFromPem text =
      ofOption "invalid key" (decodeStrict (utf8 text)) := rfl

@[simp] theorem libraries_ecdsaVerify (point signature : Bytes) :
    (libraries signable).ecdsaVerify point message signature =
      (signature.length == 64 && verifyNumbers signable point message
        (ofBigEndian (signature.take 32)) (ofBigEndian (signature.drop 32))) := rfl

end Functions

/-! ### Laws -/

theorem claimJsonLaw : (libraries signable).ClaimJsonLaw := by
  constructor
  · exact claimCodec_roundTrips
  · intro claim text written
    change (claimCodec.fromSlice text).map _ = _
    rw [claimCodec_roundTrips.fromSlice written]
    rfl

theorem sameVerifiers (point : Bytes) : (libraries signable).SameVerifiers point := by
  intro message signature
  change (_ && _) = true ↔ _
  rw [Bool.and_eq_true, beq_iff_eq]
  exact Iff.rfl

theorem signatureOf_verifies (key message : Bytes) (admitted : signable message = true) :
    (signatureOf key).length = 64 ∧
      verifyNumbers signable (publicKey key) message (ofBigEndian ((signatureOf key).take 32))
        (ofBigEndian ((signatureOf key).drop 32)) = true := by
  have halves : (bigEndian 32 (keyNumber (publicKey key))).length = 32 :=
    bigEndian_length 32 _
  have first : keyNumber (publicKey key) % 256 ^ 32 = keyNumber (publicKey key) :=
    Nat.mod_mod _ _
  unfold signatureOf
  refine ⟨by rw [List.length_append, bigEndian_length, bigEndian_length], ?_⟩
  rw [List.take_left' halves, List.drop_left' halves, ofBigEndian_bigEndian,
    ofBigEndian_bigEndian, first]
  simp [verifyNumbers, admitted]

theorem signMessage_eq_ok_iff (key message signature : Bytes) :
    signMessage signable key message = .ok signature ↔
      signable message = true ∧ signature = signatureOf key := by
  unfold signMessage
  split
  · rename_i admitted
    rw [Except.ok.injEq]
    exact ⟨fun same => ⟨admitted, same.symm⟩, fun both => both.2.symm⟩
  · rename_i refused
    constructor
    · intro impossible
      cases impossible
    · intro both
      exact absurd both.1 refused

theorem signaturesVerify : (libraries signable).SignaturesVerify := by
  intro key nonce message signature signed
  obtain ⟨admitted, same⟩ := (signMessage_eq_ok_iff signable key message signature).mp signed
  rw [same, libraries_publicKey, libraries_ecdsaVerify, Bool.and_eq_true, beq_iff_eq]
  exact signatureOf_verifies signable key message admitted

theorem fixedSignatures : (libraries signable).FixedSignatures := by
  intro key nonce message signature signed
  obtain ⟨admitted, same⟩ := (signMessage_eq_ok_iff signable key message signature).mp signed
  rw [same]
  exact (signatureOf_verifies signable key message admitted).1

theorem pemLaw : (libraries signable).PemLaw := by
  constructor
  · intro der
    change ofOption _ (readArmour (utf8 (armour der))) = _
    rw [readArmour_armour]
    rfl
  · exact readArmour_armour

theorem showsExtensions (params : CertificateParams) (subjectKey : Bytes) :
    Libraries.ShowsExtensions params (bodyOf params subjectKey).extensions := by
  refine ⟨[keyUsageExtension], ?_, rfl⟩
  intro extension member
  rw [List.mem_singleton.mp member]
  exact ⟨15, by decide, rfl⟩

theorem oidLaw : (libraries signable).OidLaw := fun _ => rfl

theorem iterates_x509ExtensionOf (extension : Extension)
    (wellFormed : ObjectIdentifier.WellFormed extension.oid) :
    (libraries signable).Iterates (x509ExtensionOf extension) extension := by
  have arcs := ObjectIdentifier.arcsOf_octetsOf wellFormed
  have fits : ∀ arc ∈ extension.oid, arc < 2 ^ 64 := by
    intro arc member
    have small := wellFormed.arcs_lt arc member
    omega
  refine ⟨?_, rfl⟩
  rw [oidLaw, x509ExtensionOf, arcs, if_pos fits]

theorem iterates_extensions {extensions : List Extension}
    (wellFormed : ∀ extension ∈ extensions, ObjectIdentifier.WellFormed extension.oid) :
    List.Forall₂ (libraries signable).Iterates (extensions.map x509ExtensionOf) extensions := by
  induction extensions with
  | nil => exact .nil
  | cons extension rest ih =>
      apply List.Forall₂.cons
      · exact iterates_x509ExtensionOf signable extension (wellFormed _ List.mem_cons_self)
      · exact ih fun other member => wellFormed other (List.mem_cons_of_mem _ member)

theorem wellFormed_bodyOf {params : CertificateParams} (subjectKey : Bytes)
    (custom : ∀ custom ∈ params.customExtensions, ObjectIdentifier.WellFormed custom.oid) :
    ∀ extension ∈ (bodyOf params subjectKey).extensions,
      ObjectIdentifier.WellFormed extension.oid := by
  intro extension member
  rcases List.mem_cons.mp member with standard | own
  · rw [standard]
    decide
  · obtain ⟨put, isCustom, same⟩ := List.mem_map.mp own
    rw [← same]
    exact custom put isCustom

section Issued

variable (params : CertificateParams) (subjectKey signature : Bytes)

theorem parse_issued :
    (libraries signable).parseX509Certificate (tbsOf params subjectKey ++ signature) =
      .ok (x509Of (bodyOf params subjectKey)) := by
  unfold libraries
  dsimp only
  rw [readBody_tbsOf]
  rfl

theorem goParse_issued :
    (libraries signable).goParseCertificate (tbsOf params subjectKey ++ signature) =
      .ok (goCertificateOf (bodyOf params subjectKey)) := by
  unfold libraries
  dsimp only
  rw [readBody_tbsOf]
  rfl

theorem import_issued :
    (libraries signable).caParamsFromPem (armour (tbsOf params subjectKey ++ signature)) =
      .ok (importedOf (bodyOf params subjectKey)) := by
  unfold libraries
  dsimp only
  rw [readArmour_armour, Option.bind_some, readBody_tbsOf]
  rfl

end Issued

theorem readBackLaw : (libraries signable).ReadBackLaw := by
  constructor
  · intro params subjectKey issuer issuerKey tbs signature certificate built parsed
    have tbsEq : tbsOf params subjectKey = tbs := Except.ok.inj built
    subst tbsEq
    have same := (parse_issued signable params subjectKey signature).symm.trans parsed
    rw [← Except.ok.inj same]
    exact ⟨rfl, rfl, fun custom => ⟨_, iterates_extensions signable
      (wellFormed_bodyOf subjectKey custom), showsExtensions params subjectKey⟩⟩
  · intro params subjectKey issuer issuerKey tbs signature certificate built parsed
    have tbsEq : tbsOf params subjectKey = tbs := Except.ok.inj built
    subst tbsEq
    have same := (goParse_issued signable params subjectKey signature).symm.trans parsed
    rw [← Except.ok.inj same]
    exact showsExtensions params subjectKey

theorem requestsCarryNoExtensions : (libraries signable).RequestsCarryNoExtensions := by
  intro pem csr parsed
  change ofOption _ (readRequest pem) = _ at parsed
  cases read : readRequest pem with
  | none =>
      rw [read] at parsed
      cases parsed
  | some found =>
      rw [read] at parsed
      have same : found = csr := Except.ok.inj parsed
      subst same
      exact readRequest_customExtensions pem found read

theorem tbsLaw : (libraries signable).TbsLaw := by
  constructor
  · intro params subjectKey issuer issuerKey tbs built custom member
    have tbsEq : tbsOf params subjectKey = tbs := Except.ok.inj built
    subst tbsEq
    exact content_infix_tbsOf params subjectKey custom member
  · intro params subjectKey issuer issuerKey tbs built authority _
    have tbsEq : tbsOf params subjectKey = tbs := Except.ok.inj built
    subst tbsEq
    exact getLast_tbsOf params subjectKey authority

theorem importLaw : (libraries signable).ImportLaw := by
  intro params subjectKey issuer issuerKey tbs signature imported built read
  have tbsEq : tbsOf params subjectKey = tbs := Except.ok.inj built
  subst tbsEq
  have same := (import_issued signable params subjectKey signature).symm.trans read
  rw [← Except.ok.inj same]
  exact ⟨rfl, rfl⟩

end Reference
end AuthScope
