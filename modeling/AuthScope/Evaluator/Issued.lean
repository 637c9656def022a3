/-
Reading back an issued certificate.

The capability extension is the only custom extension of an issued certificate,
and no standard extension has its identifier, so both searches return the
octets that wrap the token.
-/

import AuthScope.Evaluator.OctetString

set_option autoImplicit false

namespace AuthScope

open ByteText EffectLog

variable {κ : Type} {libs : Libraries κ}

theorem find_capability_of_shows (params : CertificateParams) (extensions : List Extension)
    (jwt : String) (custom : params.customExtensions = [capExtension jwt])
    (shows : Libraries.ShowsExtensions params extensions) :
    extensions.find? (fun extension => extension.oid = capExtensionOid) =
      some { oid := capExtensionOid, value := encodeDerOctetString (utf8 jwt) } := by
  obtain ⟨standard, standardOids, extensionsEq⟩ := shows
  have noneStandard : standard.find? (fun extension => extension.oid = capExtensionOid) =
      none := by
    rw [List.find?_eq_none]
    intro extension member isCapability
    obtain ⟨arc, _, oidEq⟩ := standardOids extension member
    rw [decide_eq_true_eq, oidEq] at isCapability
    cases isCapability
  rw [extensionsEq, custom, List.find?_append, noneStandard]
  simp [capExtension]

theorem findCapability_of_shows (params : CertificateParams) {extensions : List X509Extension}
    {shown : List Extension} (jwt : String) (custom : params.customExtensions = [capExtension jwt])
    (iterates : List.Forall₂ libs.Iterates extensions shown)
    (shows : Libraries.ShowsExtensions params shown) :
    Evaluator.findCapability libs extensions =
      .ok (some (encodeDerOctetString (utf8 jwt))) := by
  rw [Evaluator.findCapability_of_iterates libs iterates,
    find_capability_of_shows params shown jwt custom shows]
  rfl

theorem goFindCapability_of_shows (params : CertificateParams) (extensions : List Extension)
    (jwt : String) (custom : params.customExtensions = [capExtension jwt])
    (shows : Libraries.ShowsExtensions params extensions) :
    GoEvaluator.findCapability extensions = some (encodeDerOctetString (utf8 jwt)) := by
  rw [GoEvaluator.findCapability, find_capability_of_shows params extensions jwt custom shows]
  rfl

section Issued

variable {issuance : Issuance κ} {env : SigningEnvironment} {ca : CertificateAuthority}
  {req : SigningRequest} (valid : issuance.Valid libs env ca req)

include valid

theorem Issuance.Valid.reads (pemLaw : libs.PemLaw) (readBack : libs.ReadBackLaw)
    {certificate : X509Certificate}
    (reads : Evaluator.Reads libs (issuance.pem libs) certificate) :
    certificate.subject = issuance.csr.params.distinguishedName ∧
      certificate.subjectPublicKey = issuance.csr.publicKey ∧
      ((∀ custom ∈ (issuance.leaf req).params.customExtensions,
          ObjectIdentifier.WellFormed custom.oid) →
        ∃ shown, List.Forall₂ libs.Iterates certificate.extensions shown ∧
          Libraries.ShowsExtensions (issuance.leaf req).params shown) := by
  obtain ⟨contents, armoured, parsed⟩ := reads
  have sameDer := (pemLaw.rust _).symm.trans armoured
  rw [← Except.ok.inj sameDer] at parsed
  exact readBack.rust _ _ _ _ _ _ _ valid.built parsed

theorem Issuance.Valid.goReads (pemLaw : libs.PemLaw) (readBack : libs.ReadBackLaw)
    {certificate : GoCertificate}
    (reads : GoEvaluator.Reads libs (utf8 (issuance.pem libs)) certificate) :
    Libraries.ShowsExtensions (issuance.leaf req).params certificate.extensions := by
  obtain ⟨block, armoured, parsed⟩ := reads
  have sameDer := (pemLaw.go _).symm.trans armoured
  rw [← Option.some.inj sameDer] at parsed
  exact readBack.go _ _ _ _ _ _ _ valid.built parsed

theorem Issuance.Valid.findCapability (pemLaw : libs.PemLaw) (readBack : libs.ReadBackLaw)
    (noExtensions : libs.RequestsCarryNoExtensions) {certificate : X509Certificate}
    (reads : Evaluator.Reads libs (issuance.pem libs) certificate) :
    Evaluator.findCapability libs certificate.extensions =
      .ok (some (encodeDerOctetString (utf8 issuance.jwt))) := by
  have custom := Issuance.Valid.customExtensions noExtensions valid
  have wellFormed : ∀ custom ∈ (issuance.leaf req).params.customExtensions,
      ObjectIdentifier.WellFormed custom.oid := by
    intro extension member
    rw [custom] at member
    rw [List.mem_singleton.mp member]
    exact (by decide : ObjectIdentifier.WellFormed capExtensionOid)
  obtain ⟨shown, iterates, shows⟩ := (valid.reads pemLaw readBack reads).2.2 wellFormed
  exact findCapability_of_shows _ _ custom iterates shows

theorem Issuance.Valid.goFindCapability (pemLaw : libs.PemLaw) (readBack : libs.ReadBackLaw)
    (noExtensions : libs.RequestsCarryNoExtensions) {certificate : GoCertificate}
    (reads : GoEvaluator.Reads libs (utf8 (issuance.pem libs)) certificate) :
    GoEvaluator.findCapability certificate.extensions =
      some (encodeDerOctetString (utf8 issuance.jwt)) :=
  goFindCapability_of_shows _ _ _ (Issuance.Valid.customExtensions noExtensions valid)
    (valid.goReads pemLaw readBack reads)

end Issued

/-! ### Verification of an issued token -/

/-- The certificate of an authority carries the public key of its signer. -/
structure CertificateAuthority.MatchesKey (libs : Libraries κ) (ca : CertificateAuthority)
    (key : κ) : Prop where
  signer : libs.ecdsaFromPkcs8 ca.keyDer = .ok key
  rust : ∃ certificate, Evaluator.Reads libs ca.certPem certificate ∧
    certificate.subjectPublicKey = libs.publicKey key
  go : ∃ certificate, GoEvaluator.Reads libs (utf8 ca.certPem) certificate ∧
    certificate.publicKey = .ecdsa (libs.publicKey key)

theorem CertificateAuthority.MatchesKey.rust_eq {ca : CertificateAuthority} {key : κ}
    (matchesKey : ca.MatchesKey libs key) {certificate : X509Certificate}
    (reads : Evaluator.Reads libs ca.certPem certificate) :
    certificate.subjectPublicKey = libs.publicKey key := by
  obtain ⟨caCert, caReads, caKey⟩ := matchesKey.rust
  rw [reads.unique caReads]
  exact caKey

theorem CertificateAuthority.MatchesKey.go_eq {ca : CertificateAuthority} {key : κ}
    (matchesKey : ca.MatchesKey libs key) {certificate : GoCertificate} {point : Bytes}
    (reads : GoEvaluator.Reads libs (utf8 ca.certPem) certificate)
    (isEcdsa : certificate.publicKey = .ecdsa point) : point = libs.publicKey key := by
  obtain ⟨caCert, caReads, caKey⟩ := matchesKey.go
  rw [reads.unique caReads, caKey] at isEcdsa
  exact (GoPublicKey.ecdsa.inj isEcdsa).symm

section Verification

variable {issuance : Issuance κ} {env : SigningEnvironment} {ca : CertificateAuthority}
  {req : SigningRequest} (valid : issuance.Valid libs env ca req)
  (json : libs.ClaimJsonLaw) (signatures : libs.SignaturesVerify) {key : κ}
  (signer : libs.ecdsaFromPkcs8 ca.keyDer = .ok key)

include valid signatures signer

theorem Issuance.Valid.jwtVerifies :
    libs.ecdsaVerify (libs.publicKey key) (utf8 (signingInput issuance.payloadJson))
      issuance.jwtSignature = true := by
  have sameKey := valid.signerKey.symm.trans signer
  rw [← Except.ok.inj sameKey]
  exact signatures _ _ _ _ valid.jwtSigned

include json

theorem Issuance.Valid.verifyCapJwt :
    AuthScope.verifyCapJwt libs issuance.jwt (libs.publicKey key) =
      .ok (buildClaim issuance.now req) :=
  verifyCapJwt_tokenText libs _ _ _ _ (valid.jwtVerifies signatures signer)
    (json.roundTrips.fromSlice valid.serialised)

/-- A certificate is accepted next to any that carries the public key of the
signer. -/
theorem Issuance.Valid.fromCertPem_of_key (pemLaw : libs.PemLaw) (readBack : libs.ReadBackLaw)
    (noExtensions : libs.RequestsCarryNoExtensions) (short : (utf8 issuance.jwt).length < 65536)
    {caCertPem : String} {caCert : X509Certificate}
    (caReads : Evaluator.Reads libs caCertPem caCert)
    (caKey : caCert.subjectPublicKey = libs.publicKey key)
    (parses : ∃ certificate, Evaluator.Reads libs (issuance.pem libs) certificate) :
    Evaluator.fromCertPem libs (issuance.pem libs) caCertPem =
      .ok { claim := buildClaim issuance.now req } := by
  obtain ⟨peerCert, peerReads⟩ := parses
  refine (Evaluator.fromCertPem_eq_ok_iff libs _ _ _).mpr ⟨caCert, peerCert, caReads, peerReads, ?_⟩
  refine (Evaluator.fromExtensions_eq_ok_iff libs _ _ _).mpr
    ⟨_, valid.findCapability pemLaw readBack noExtensions peerReads, ?_⟩
  refine (Evaluator.fromExtensionValue_eq_ok_iff libs _ _ _).mpr
    ⟨issuance.jwt, (unwrap_encodeDerOctetString_iff _).mpr short, ?_⟩
  rw [caKey]
  exact valid.verifyCapJwt json signatures signer

theorem Issuance.Valid.goVerifyJwt (sameVerifiers : libs.SameVerifiers (libs.publicKey key)) :
    GoEvaluator.verifyJwt libs (libs.publicKey key) (utf8 issuance.jwt) =
      .ok ((buildClaim issuance.now req).map utf8) := by
  have verifies := valid.jwtVerifies signatures signer
  obtain ⟨fixed, goVerifies⟩ := (sameVerifiers _ _).mp verifies
  rw [utf8_signingInput] at goVerifies
  exact (GoEvaluator.verifyJwt_eq_ok_iff libs _ _ _).mpr
    ⟨_, _, _, issuance.jwtSignature, issuance.payloadJson, Base64Url.dot_notMem_encode _,
      Base64Url.dot_notMem_encode _, Base64Url.dot_notMem_encode _,
      utf8_tokenText issuance.payloadJson issuance.jwtSignature,
      Base64Url.decodeLenient_encode _, fixed, goVerifies, Base64Url.decodeLenient_encode _,
      json.goReads _ _ valid.serialised⟩

end Verification

end AuthScope
