/-
Authorities and issued certificates of the executable instance.

A request that parses, signed within the calendar by an authority whose three
messages can be signed, is issued, and the certificate reads back.
-/

import AuthScope.Evaluator.Issued
import AuthScope.Reference.Instance

set_option autoImplicit false

namespace AuthScope
namespace Reference

open ByteText Base64Url CompactJson JsonForms CertificateAuthority

def authority (key : Bytes) : CertificateAuthority :=
  { keyPem := encodeText key
    certPem := armour (tbsOf rootParams (publicKey key) ++ signatureOf key)
    certDer := tbsOf rootParams (publicKey key) ++ signatureOf key
    keyDer := key }

def issuerParams (key : Bytes) : CertificateParams :=
  importedOf (bodyOf rootParams (publicKey key))

section Issued

variable (key : Bytes) (now : Int64) (req : SigningRequest)
  (csr : CertificateSigningRequestParams)

def payloadOf : Bytes := toBytes (ofCapClaim (buildClaim now req))

def leafOf : CertificateSigningRequestParams :=
  csr.withCapability (tokenText (payloadOf now req) (signatureOf key))
    { year := 2024, month := 1, day := 1 }
    { year := Int.ofNat (endYear req.validityDays), month := 1, day := 1 }

def issuanceOf : Issuance Bytes :=
  { now
    jwtKey := key
    payloadJson := payloadOf now req
    jwtSignature := signatureOf key
    csr
    caKey := key
    caParams := issuerParams key
    caTbs := tbsOf (issuerParams key) (publicKey key)
    caSignature := signatureOf key
    tbs := tbsOf (leafOf key now req csr).params csr.publicKey
    signature := signatureOf key }

theorem issuanceOf_events : (issuanceOf key now req csr).events req =
    [.capJwt (buildClaim now req) (utf8 (signingInput (payloadOf now req))),
      .certificate (tbsOf (issuerParams key) (publicKey key)),
      .certificate (tbsOf (leafOf key now req csr).params csr.publicKey)] := by
  simp only [Issuance.events, issuanceOf]

variable (signable : Bytes → Bool) (env : SigningEnvironment)

/-- The messages of an issuance can be signed. -/
structure Admits : Prop where
  jwt : signable (utf8 (signingInput (payloadOf now req))) = true
  authority : signable (tbsOf (issuerParams key) (publicKey key)) = true
  leaf : signable (tbsOf (leafOf key now req csr).params csr.publicKey) = true

variable {key now req csr signable env}

theorem issuanceOf_valid (clock : env.now = .ok now)
    (parsed : readRequest req.csrPem = some csr) (inCalendar : endYear req.validityDays ≤ 9999)
    (admits : Admits key now req csr signable) :
    (issuanceOf key now req csr).Valid (libraries signable) env (authority key) req := by
  have sameLeaf : (issuanceOf key now req csr).leaf req = leafOf key now req csr := by
    unfold Issuance.leaf Issuance.jwt issuanceOf leafOf
    rfl
  constructor
  · exact clock
  · rw [libraries_ecdsaFromPkcs8]
    rfl
  · rw [libraries_toVec]
    simp only [issuanceOf, payloadOf]
  · rw [libraries_ecdsaSign]
    simp only [issuanceOf]
    exact (signMessage_eq_ok_iff signable key _ _).mpr ⟨admits.jwt, rfl⟩
  · rw [libraries_csrFromPem, parsed]
    rfl
  · exact inCalendar
  · rw [libraries_keyPairFromPem, authority, utf8_encodeText, decodeStrict_encode]
    rfl
  · rw [authority, import_issued]
    rfl
  · rw [libraries_tbsCertificate]
    simp only [issuanceOf]
    rfl
  · rw [libraries_signTbs]
    simp only [issuanceOf]
    exact (signMessage_eq_ok_iff signable key _ _).mpr ⟨admits.authority, rfl⟩
  · rw [sameLeaf, libraries_tbsCertificate]
    simp only [issuanceOf]
    rfl
  · rw [libraries_signTbs]
    simp only [issuanceOf]
    exact (signMessage_eq_ok_iff signable key _ _).mpr ⟨admits.leaf, rfl⟩

end Issued

section Reading

variable (signable : Bytes → Bool) (params : CertificateParams) (subjectKey signature : Bytes)

theorem reads_armour :
    Evaluator.Reads (libraries signable) (armour (tbsOf params subjectKey ++ signature))
      (x509Of (bodyOf params subjectKey)) :=
  ⟨_, (pemLaw signable).rust _, parse_issued signable params subjectKey signature⟩

theorem goReads_armour :
    GoEvaluator.Reads (libraries signable)
      (utf8 (armour (tbsOf params subjectKey ++ signature)))
      (goCertificateOf (bodyOf params subjectKey)) :=
  ⟨_, (pemLaw signable).go _, goParse_issued signable params subjectKey signature⟩

theorem authority_matchesKey (key : Bytes) :
    (authority key).MatchesKey (libraries signable) key :=
  ⟨rfl, ⟨_, reads_armour signable rootParams (publicKey key) (signatureOf key), rfl⟩,
    ⟨_, goReads_armour signable rootParams (publicKey key) (signatureOf key), rfl⟩⟩

end Reading

/-! ### A sample -/

def everything : Bytes → Bool := fun _ => true

def sampleKey : Bytes := [1, 2, 3]

def sampleSubject : DistinguishedName := [(.commonName, "svc")]

def sampleCsr : CertificateSigningRequestParams :=
  { params := defaultParams sampleSubject .noCa, publicKey := [4, 9] }

def sampleCaps : List (Capability String) :=
  [{ targetVm := "net-vm"
     rpcModules := ["auth"]
     rpcMethods := ["data.read"]
     paths := [{ path := "/health", access := ["read"] }] }]

def sampleRequest : SigningRequest :=
  { csrPem := certificateRequest sampleSubject [4, 9]
    entity := "svc"
    vmName := "app-vm"
    cid := 3
    claims := sampleCaps
    validityDays := 10 }

def sampleNow : Int64 := 1700000000

def sampleEnv : SigningEnvironment :=
  { sinceEpoch := .ok 1700000000
    jwtNonce := 1
    caNonce := 2
    leafNonce := 3 }

def sampleIssuance : Issuance Bytes := issuanceOf sampleKey sampleNow sampleRequest sampleCsr

def leafCarrying (content : Bytes) : CertificateParams :=
  { defaultParams sampleSubject .noCa with
    customExtensions := [{ oid := capExtensionOid, critical := false, content }] }

def leafPem (content : Bytes) : String :=
  armour (tbsOf (leafCarrying content) [4, 9] ++ signatureOf sampleKey)

theorem sampleCsr_parsed : readRequest sampleRequest.csrPem = some sampleCsr :=
  readRequest_certificateRequest sampleSubject [4, 9]

theorem sampleEnv_now : sampleEnv.now = .ok sampleNow := by decide

/-- The sample is issued whenever its messages can be signed. -/
theorem sampleIssuance_valid {signable : Bytes → Bool}
    (admits : Admits sampleKey sampleNow sampleRequest sampleCsr signable) :
    sampleIssuance.Valid (libraries signable) sampleEnv (authority sampleKey) sampleRequest :=
  issuanceOf_valid sampleEnv_now sampleCsr_parsed (by decide) admits

theorem sample_short {signable : Bytes → Bool} (issuance : Issuance Bytes)
    (valid : issuance.Valid (libraries signable) sampleEnv (authority sampleKey)
      sampleRequest) : (utf8 issuance.jwt).length < 65536 := by
  have sameNow : sampleNow = issuance.now :=
    Except.ok.inj (sampleEnv_now.symm.trans valid.clock)
  have payloadEq := valid.serialised
  rw [libraries_toVec, Except.ok.injEq, ← sameNow] at payloadEq
  have fixed : issuance.jwtSignature.length = 64 :=
    fixedSignatures signable _ _ _ _ valid.jwtSigned
  refine (utf8_tokenText_length_lt issuance.payloadJson issuance.jwtSignature fixed).mpr ?_
  rw [← payloadEq]
  decide +kernel

theorem admits_everything (key : Bytes) (now : Int64) (req : SigningRequest)
    (csr : CertificateSigningRequestParams) : Admits key now req csr everything :=
  ⟨rfl, rfl, rfl⟩

end Reference
end AuthScope
