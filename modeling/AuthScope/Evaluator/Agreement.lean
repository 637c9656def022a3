/-
Where the two evaluators agree.

They unwrap, cut and decode a capability with different code, and read its JSON
with different libraries.  The second one refuses lengths that are not minimal;
the first one refuses text that is not UTF-8, line breaks and unused bits in
base64.  On values without any of these both accept what is signed and what their
own reader of JSON takes, so they agree on the JSON of a claim.  Whatever both
accept, they read from the payload of one token.
-/

import Mathlib.Data.List.Forall2
import AuthScope.Evaluator.Decisions

set_option autoImplicit false

namespace AuthScope

open ByteText EffectLog Base64Url

variable {κ : Type} {libs : Libraries κ}

def CanonicalSegment (segment : Bytes) : Prop :=
  ∀ bytes, decodeLenient segment = some bytes → decodeStrict segment = some bytes

/-- A minimal DER OCTET STRING of UTF-8 text whose payload and signature, if it
is cut into three segments, are canonical base64url. -/
def Canonical (value : Bytes) : Prop :=
  ∃ jwt, GoEvaluator.unmarshalOctetString value = some (utf8 jwt) ∧
    ∀ header payload signature, (utf8 jwt).splitOn dot = [header, payload, signature] →
      CanonicalSegment payload ∧ CanonicalSegment signature

/-- The value wraps a token `header.payload.signature` whose signature verifies and
whose payload decodes to these bytes. -/
def SignedPayload (libs : Libraries κ) (point value payloadJson : Bytes) : Prop :=
  ∃ header payload signature sig, dot ∉ header ∧ dot ∉ payload ∧
    Evaluator.unwrapOctetString value =
      .ok (header ++ dot :: (payload ++ dot :: signature)) ∧
    decodeStrict signature = some sig ∧
    libs.ecdsaVerify point (header ++ dot :: payload) sig = true ∧
    decodeStrict payload = some payloadJson

theorem canonicalSegment_encode (bytes : Bytes) : CanonicalSegment (encode bytes) := by
  intro decoded lenient
  rw [decodeLenient_encode] at lenient
  rw [← lenient]
  exact decodeStrict_encode bytes

theorem canonical_of_issued (payloadJson signature : Bytes)
    (short : (utf8 (tokenText payloadJson signature)).length < 65536) :
    Canonical (encodeDerOctetString (utf8 (tokenText payloadJson signature))) := by
  refine ⟨_, unmarshal_encodeDerOctetString _ short, ?_⟩
  intro header payload last cut
  have own : (utf8 (tokenText payloadJson signature)).splitOn dot =
      [encode (utf8 capJwtHeader), encode payloadJson, encode signature] :=
    (splitOn_three_iff dot _ _ _ _).mpr ⟨dot_notMem_encode _, dot_notMem_encode _,
      dot_notMem_encode _, utf8_tokenText payloadJson signature⟩
  rw [own] at cut
  cases cut
  exact ⟨canonicalSegment_encode _, canonicalSegment_encode _⟩

theorem dot_notMem_of_decodeStrict {segment bytes : Bytes}
    (decoded : decodeStrict segment = some bytes) : dot ∉ segment := by
  intro member
  rcases symbol_or_lineBreak_of_decodeLenient segment bytes
      (decodeLenient_of_strict segment bytes decoded) dot member with
    ⟨sextet, isSymbol⟩ | isLineBreak
  · cases isSymbol
  · cases isLineBreak

/-- The three segments of a token are determined by its bytes. -/
theorem SignedPayload.eq_of_issued {point payloadJson signature decoded : Bytes}
    (short : (utf8 (tokenText payloadJson signature)).length < 65536)
    (signed : SignedPayload libs point
      (encodeDerOctetString (utf8 (tokenText payloadJson signature))) decoded) :
    decoded = payloadJson := by
  obtain ⟨header, payload, last, sig, headerDot, payloadDot, unwrapped, sigDecoded, _,
    payloadDecoded⟩ := signed
  have own := unwrapOctetString_of_unmarshal _ _ (unmarshal_encodeDerOctetString _ short)
  rw [own, utf8_tokenText] at unwrapped
  have cut := (splitOn_three_iff dot _ _ _ _).mpr
    ⟨headerDot, payloadDot, dot_notMem_of_decodeStrict sigDecoded, Outcome.ok.inj unwrapped⟩
  have issued := (splitOn_three_iff dot _ _ _ _).mpr
    ⟨dot_notMem_encode (utf8 capJwtHeader), dot_notMem_encode payloadJson,
      dot_notMem_encode signature, rfl⟩
  rw [issued] at cut
  cases cut
  rw [decodeStrict_encode] at payloadDecoded
  exact (Option.some.inj payloadDecoded).symm

section Values

variable {point value : Bytes}

theorem Evaluator.fromExtensionValue_iff {jwt : String}
    (unwrapped : Evaluator.unwrapOctetString value = .ok (utf8 jwt)) (evaluator : Evaluator) :
    Evaluator.fromExtensionValue libs point value = .ok evaluator ↔
      ∃ payloadJson, SignedPayload libs point value payloadJson ∧
        libs.claimJson.fromSlice payloadJson = .ok evaluator.claim := by
  rw [Evaluator.fromExtensionValue_eq_ok_iff]
  constructor
  · rintro ⟨text, unwrappedText, verified⟩
    obtain ⟨header, payload, signature, sig, payloadJson, headerDot, payloadDot, textEq,
      sigDecoded, signed, decoded, read⟩ := (verifyCapJwt_eq_ok_iff libs _ _ _).mp verified
    rw [textEq] at unwrappedText
    exact ⟨payloadJson, ⟨header, payload, signature, sig, headerDot, payloadDot, unwrappedText,
      sigDecoded, signed, decoded⟩, read⟩
  · rintro ⟨payloadJson, ⟨header, payload, signature, sig, headerDot, payloadDot, cut,
      sigDecoded, signed, decoded⟩, read⟩
    have jwtEq := Outcome.ok.inj (unwrapped.symm.trans cut)
    refine ⟨jwt, unwrapped, (verifyCapJwt_eq_ok_iff libs _ _ _).mpr ?_⟩
    exact ⟨header, payload, signature, sig, payloadJson, headerDot, payloadDot, jwtEq,
      sigDecoded, signed, decoded, read⟩

theorem GoEvaluator.newFromExtensionValue_iff (sameVerifiers : libs.SameVerifiers point)
    (canonical : Canonical value) (goEvaluator : GoEvaluator) :
    GoEvaluator.newFromExtensionValue libs point value = .ok goEvaluator ↔
      ∃ payloadJson, SignedPayload libs point value payloadJson ∧
        libs.goUnmarshalClaim payloadJson = .ok goEvaluator.claim := by
  obtain ⟨jwt, unmarshalled, segments⟩ := canonical
  have unwrapped := unwrapOctetString_of_unmarshal _ _ unmarshalled
  rw [GoEvaluator.newFromExtensionValue_eq_ok_iff]
  constructor
  · rintro ⟨text, unmarshalledText, verified⟩
    rw [← Option.some.inj (unmarshalled.symm.trans unmarshalledText)] at verified
    obtain ⟨header, payload, signature, sig, payloadJson, headerDot, payloadDot, signatureDot,
      jwtEq, sigDecoded, fixed, signed, decoded, read⟩ :=
        (GoEvaluator.verifyJwt_eq_ok_iff libs _ _ _).mp verified
    have cut := (splitOn_three_iff dot _ _ _ _).mpr
      ⟨headerDot, payloadDot, signatureDot, jwtEq⟩
    obtain ⟨payloadCanonical, signatureCanonical⟩ := segments header payload signature cut
    rw [jwtEq] at unwrapped
    exact ⟨payloadJson, ⟨header, payload, signature, sig, headerDot, payloadDot, unwrapped,
      signatureCanonical sig sigDecoded, (sameVerifiers _ _).mpr ⟨fixed, signed⟩,
      payloadCanonical payloadJson decoded⟩, read⟩
  · rintro ⟨payloadJson, ⟨header, payload, signature, sig, headerDot, payloadDot, cut,
      sigDecoded, signed, decoded⟩, read⟩
    have jwtEq := Outcome.ok.inj (unwrapped.symm.trans cut)
    obtain ⟨fixed, goSigned⟩ := (sameVerifiers _ _).mp signed
    refine ⟨_, unmarshalled, (GoEvaluator.verifyJwt_eq_ok_iff libs _ _ _).mpr ?_⟩
    exact ⟨header, payload, signature, sig, payloadJson, headerDot, payloadDot,
      dot_notMem_of_decodeStrict sigDecoded, jwtEq, decodeLenient_of_strict _ _ sigDecoded,
      fixed, goSigned, decodeLenient_of_strict _ _ decoded, read⟩

/-- Whatever the value, two claims that are accepted from it come from its payload. -/
theorem signedPayload_of_accepted {evaluator : Evaluator} {goEvaluator : GoEvaluator}
    (accepted : Evaluator.fromExtensionValue libs point value = .ok evaluator)
    (goAccepted : GoEvaluator.newFromExtensionValue libs point value = .ok goEvaluator) :
    ∃ payloadJson, SignedPayload libs point value payloadJson ∧
      libs.claimJson.fromSlice payloadJson = .ok evaluator.claim ∧
      libs.goUnmarshalClaim payloadJson = .ok goEvaluator.claim := by
  obtain ⟨text, unwrapped, _⟩ := (Evaluator.fromExtensionValue_eq_ok_iff libs _ _ _).mp accepted
  obtain ⟨payloadJson, payloadSigned, read⟩ :=
    (Evaluator.fromExtensionValue_iff unwrapped evaluator).mp accepted
  obtain ⟨header, payload, signature, sig, headerDot, payloadDot, cut, sigDecoded, _, decoded⟩ :=
    id payloadSigned
  obtain ⟨goText, unmarshalled, goVerified⟩ :=
    (GoEvaluator.newFromExtensionValue_eq_ok_iff libs _ _ _).mp goAccepted
  obtain ⟨header', payload', signature', sig', goPayloadJson, headerDot', payloadDot',
    signatureDot', goTextEq, _, _, _, goDecoded, goRead⟩ :=
      (GoEvaluator.verifyJwt_eq_ok_iff libs _ _ _).mp goVerified
  have sameText := Outcome.ok.inj (cut.symm.trans (unwrapOctetString_of_unmarshal _ _ unmarshalled))
  have own := (splitOn_three_iff dot _ _ _ _).mpr
    ⟨headerDot, payloadDot, dot_notMem_of_decodeStrict sigDecoded, sameText.symm⟩
  have goCut := (splitOn_three_iff dot _ _ _ _).mpr
    ⟨headerDot', payloadDot', signatureDot', goTextEq⟩
  rw [own] at goCut
  cases goCut
  have samePayload := (decodeLenient_of_strict _ _ decoded).symm.trans goDecoded
  rw [← Option.some.inj samePayload] at goRead
  exact ⟨payloadJson, payloadSigned, read, goRead⟩

end Values

/-- Both parsers find the same key in one certificate and the same extensions in
the other. -/
structure SameCertificates (libs : Libraries κ) (peerCertPem caCertPem : String)
    (point : Bytes) (extensions : List Extension) : Prop where
  caRust : ∃ caCert, Evaluator.Reads libs caCertPem caCert ∧ caCert.subjectPublicKey = point
  caGo : ∃ caCert, GoEvaluator.Reads libs (utf8 caCertPem) caCert ∧
    caCert.publicKey = .ecdsa point
  peerRust : ∃ peerCert, Evaluator.Reads libs peerCertPem peerCert ∧
    List.Forall₂ libs.Iterates peerCert.extensions extensions
  peerGo : ∃ peerCert, GoEvaluator.Reads libs (utf8 peerCertPem) peerCert ∧
    peerCert.extensions = extensions

/-- One evaluator accepts exactly when the other does, with the same claim. -/
def Agree (libs : Libraries κ) (peerCertPem caCertPem : String) : Prop :=
  ∀ goEvaluator,
    GoEvaluator.newEvaluator libs (utf8 peerCertPem) (utf8 caCertPem) = .ok goEvaluator ↔
      ∃ evaluator, Evaluator.fromCertPem libs peerCertPem caCertPem = .ok evaluator ∧
        goEvaluator.claim = evaluator.claim.map utf8

section Certificates

variable {peerCertPem caCertPem : String} {point : Bytes} {extensions : List Extension}
  (same : SameCertificates libs peerCertPem caCertPem point extensions)

include same

theorem SameCertificates.fromCertPem_iff (evaluator : Evaluator) :
    Evaluator.fromCertPem libs peerCertPem caCertPem = .ok evaluator ↔
      ∃ value, GoEvaluator.findCapability extensions = some value ∧
        Evaluator.fromExtensionValue libs point value = .ok evaluator := by
  obtain ⟨caCert, caReads, caKey⟩ := same.caRust
  obtain ⟨peerCert, peerReads, iterates⟩ := same.peerRust
  have search : Evaluator.findCapability libs peerCert.extensions =
      .ok (GoEvaluator.findCapability extensions) :=
    Evaluator.findCapability_of_iterates libs iterates
  rw [Evaluator.fromCertPem_eq_ok_iff]
  constructor
  · rintro ⟨caCert', peerCert', caReads', peerReads', accepted⟩
    rw [caReads'.unique caReads, caKey, peerReads'.unique peerReads,
      Evaluator.fromExtensions_eq_ok_iff, search] at accepted
    obtain ⟨value, found, accepted⟩ := accepted
    exact ⟨value, Outcome.ok.inj found, accepted⟩
  · rintro ⟨value, found, accepted⟩
    refine ⟨caCert, peerCert, caReads, peerReads, ?_⟩
    rw [caKey, Evaluator.fromExtensions_eq_ok_iff, search, found]
    exact ⟨value, rfl, accepted⟩

theorem SameCertificates.newEvaluator_iff (goEvaluator : GoEvaluator) :
    GoEvaluator.newEvaluator libs (utf8 peerCertPem) (utf8 caCertPem) = .ok goEvaluator ↔
      ∃ value, GoEvaluator.findCapability extensions = some value ∧
        GoEvaluator.newFromExtensionValue libs point value = .ok goEvaluator := by
  obtain ⟨caCert, caReads, caKey⟩ := same.caGo
  obtain ⟨peerCert, peerReads, peerExtensions⟩ := same.peerGo
  rw [GoEvaluator.newEvaluator_eq_ok_iff]
  constructor
  · rintro ⟨caCert', point', peerCert', caReads', isEcdsa, peerReads', accepted⟩
    rw [caReads'.unique caReads, caKey] at isEcdsa
    rw [← GoPublicKey.ecdsa.inj isEcdsa, peerReads'.unique peerReads, peerExtensions] at accepted
    exact (GoEvaluator.newFromExtensions_eq_ok_iff libs _ _ _).mp accepted
  · intro accepted
    refine ⟨caCert, point, peerCert, caReads, caKey, peerReads, ?_⟩
    rw [peerExtensions]
    exact (GoEvaluator.newFromExtensions_eq_ok_iff libs _ _ _).mpr accepted

section Found

variable {value : Bytes} (found : GoEvaluator.findCapability extensions = some value)

include found

theorem SameCertificates.fromCertPem_of_found (evaluator : Evaluator) :
    Evaluator.fromCertPem libs peerCertPem caCertPem = .ok evaluator ↔
      Evaluator.fromExtensionValue libs point value = .ok evaluator := by
  rw [same.fromCertPem_iff, found]
  simp

theorem SameCertificates.newEvaluator_of_found (goEvaluator : GoEvaluator) :
    GoEvaluator.newEvaluator libs (utf8 peerCertPem) (utf8 caCertPem) = .ok goEvaluator ↔
      GoEvaluator.newFromExtensionValue libs point value = .ok goEvaluator := by
  rw [same.newEvaluator_iff, found]
  simp

theorem SameCertificates.accepts_iff (sameVerifiers : libs.SameVerifiers point)
    (canonical : Canonical value) :
    (∀ evaluator, Evaluator.fromCertPem libs peerCertPem caCertPem = .ok evaluator ↔
      ∃ payloadJson, SignedPayload libs point value payloadJson ∧
        libs.claimJson.fromSlice payloadJson = .ok evaluator.claim) ∧
    (∀ goEvaluator,
      GoEvaluator.newEvaluator libs (utf8 peerCertPem) (utf8 caCertPem) = .ok goEvaluator ↔
        ∃ payloadJson, SignedPayload libs point value payloadJson ∧
          libs.goUnmarshalClaim payloadJson = .ok goEvaluator.claim) := by
  obtain ⟨jwt, unmarshalled, _⟩ := id canonical
  constructor
  · intro evaluator
    rw [same.fromCertPem_of_found found]
    exact Evaluator.fromExtensionValue_iff (unwrapOctetString_of_unmarshal _ _ unmarshalled) _
  · intro goEvaluator
    rw [same.newEvaluator_of_found found]
    exact GoEvaluator.newFromExtensionValue_iff sameVerifiers canonical goEvaluator

end Found

theorem SameCertificates.agree (sameVerifiers : libs.SameVerifiers point)
    (json : libs.ClaimJsonLaw)
    (written : ∀ value, GoEvaluator.findCapability extensions = some value →
      Canonical value ∧ ∀ payloadJson, SignedPayload libs point value payloadJson →
        ∃ claim, libs.claimJson.toVec claim = .ok payloadJson) :
    Agree libs peerCertPem caCertPem := by
  intro goEvaluator
  cases found : GoEvaluator.findCapability extensions with
  | none =>
      rw [same.newEvaluator_iff, found]
      constructor
      · rintro ⟨value, impossible, _⟩
        cases impossible
      · rintro ⟨evaluator, accepted, _⟩
        obtain ⟨value, foundValue, _⟩ := (same.fromCertPem_iff evaluator).mp accepted
        rw [found] at foundValue
        cases foundValue
  | some value =>
      obtain ⟨canonical, claims⟩ := written value found
      obtain ⟨rust, go⟩ := same.accepts_iff found sameVerifiers canonical
      rw [go]
      constructor
      · rintro ⟨payloadJson, signed, read⟩
        obtain ⟨claim, serialised⟩ := claims payloadJson signed
        have goClaim := Except.ok.inj (read.symm.trans (json.goReads claim payloadJson serialised))
        exact ⟨{ claim }, (rust _).mpr ⟨payloadJson, signed, json.roundTrips.fromSlice serialised⟩,
          goClaim⟩
      · rintro ⟨evaluator, accepted, goClaim⟩
        obtain ⟨payloadJson, signed, read⟩ := (rust evaluator).mp accepted
        obtain ⟨claim, serialised⟩ := claims payloadJson signed
        have own := Except.ok.inj (read.symm.trans (json.roundTrips.fromSlice serialised))
        refine ⟨payloadJson, signed, ?_⟩
        rw [goClaim, own]
        exact json.goReads claim payloadJson serialised

/-- On a canonical value each evaluator accepts a signed payload that its own reader
of JSON takes, so they agree on the JSON of a claim.  What both accept, on any
value, they read from the payload of its token. -/
theorem evaluators_agree (sameVerifiers : libs.SameVerifiers point) (json : libs.ClaimJsonLaw) :
    (∀ value, GoEvaluator.findCapability extensions = some value → Canonical value →
      (∀ evaluator, Evaluator.fromCertPem libs peerCertPem caCertPem = .ok evaluator ↔
        ∃ payloadJson, SignedPayload libs point value payloadJson ∧
          libs.claimJson.fromSlice payloadJson = .ok evaluator.claim) ∧
      (∀ goEvaluator,
        GoEvaluator.newEvaluator libs (utf8 peerCertPem) (utf8 caCertPem) = .ok goEvaluator ↔
          ∃ payloadJson, SignedPayload libs point value payloadJson ∧
            libs.goUnmarshalClaim payloadJson = .ok goEvaluator.claim)) ∧
    ((∀ value, GoEvaluator.findCapability extensions = some value →
      Canonical value ∧ ∀ payloadJson, SignedPayload libs point value payloadJson →
        ∃ claim, libs.claimJson.toVec claim = .ok payloadJson) →
      Agree libs peerCertPem caCertPem) ∧
    (∀ evaluator goEvaluator,
      Evaluator.fromCertPem libs peerCertPem caCertPem = .ok evaluator →
      GoEvaluator.newEvaluator libs (utf8 peerCertPem) (utf8 caCertPem) = .ok goEvaluator →
      ∃ value payloadJson, GoEvaluator.findCapability extensions = some value ∧
        SignedPayload libs point value payloadJson ∧
        libs.claimJson.fromSlice payloadJson = .ok evaluator.claim ∧
        libs.goUnmarshalClaim payloadJson = .ok goEvaluator.claim) := by
  constructor
  · intro value found canonical
    exact same.accepts_iff found sameVerifiers canonical
  constructor
  · exact same.agree sameVerifiers json
  · intro evaluator goEvaluator accepted goAccepted
    obtain ⟨value, found, rustAccepted⟩ := (same.fromCertPem_iff evaluator).mp accepted
    rw [same.newEvaluator_of_found found] at goAccepted
    obtain ⟨payloadJson, reads⟩ := signedPayload_of_accepted rustAccepted goAccepted
    exact ⟨value, payloadJson, found, reads⟩

end Certificates

namespace Reference

theorem extensions_bodyOf {params : CertificateParams} {custom : CustomExtension}
    (customEq : params.customExtensions = [custom]) (subjectKey : Bytes) :
    (bodyOf params subjectKey).extensions =
      [keyUsageExtension, { oid := custom.oid, value := custom.content }] := by
  simp only [bodyOf, customEq, List.map_cons, List.map_nil]

theorem sameCertificates_armour {params : CertificateParams} {custom : CustomExtension}
    (customEq : params.customExtensions = [custom]) (oid : custom.oid = capExtensionOid)
    (subjectKey signature : Bytes) :
    SameCertificates (libraries everything) (armour (tbsOf params subjectKey ++ signature))
      (authority sampleKey).certPem (publicKey sampleKey)
      [keyUsageExtension, { oid := capExtensionOid, value := custom.content }] := by
  have extensions := extensions_bodyOf customEq subjectKey
  rw [oid] at extensions
  have matchesKey := authority_matchesKey everything sampleKey
  have wellFormed : ∀ put ∈ params.customExtensions, ObjectIdentifier.WellFormed put.oid := by
    intro put member
    rw [customEq, List.mem_singleton] at member
    rw [member, oid]
    decide
  have iterates := iterates_extensions everything (wellFormed_bodyOf subjectKey wellFormed)
  rw [extensions] at iterates
  refine ⟨matchesKey.rust, matchesKey.go, ⟨_, reads_armour everything _ _ _, ?_⟩,
    ⟨_, goReads_armour everything _ _ _, extensions⟩⟩
  rw [x509Of, extensions]
  exact iterates

theorem findCapability_sample (value : Bytes) :
    GoEvaluator.findCapability
      [keyUsageExtension, { oid := capExtensionOid, value := value }] = some value := by
  simp [GoEvaluator.findCapability, keyUsageExtension, capExtensionOid]

end Reference

open Reference in
theorem evaluators_agree_sample :
    Agree (libraries everything) (sampleIssuance.pem (libraries everything))
      (authority sampleKey).certPem := by
  have valid := sampleIssuance_valid
    (admits_everything sampleKey sampleNow sampleRequest sampleCsr)
  have custom := Issuance.Valid.customExtensions (requestsCarryNoExtensions everything) valid
  have same := sameCertificates_armour custom rfl sampleCsr.publicKey (signatureOf sampleKey)
  have short := sample_short sampleIssuance valid
  apply (evaluators_agree same (sameVerifiers everything _) (claimJsonLaw everything)).2.1
  intro value found
  rw [findCapability_sample, Option.some.injEq] at found
  rw [← found]
  constructor
  · exact canonical_of_issued _ _ short
  · intro payloadJson signed
    rw [SignedPayload.eq_of_issued short signed]
    exact ⟨_, valid.serialised⟩

def padDerOctetString (data : Bytes) : Bytes :=
  0x04 :: 0x83 :: 0x00 :: UInt8.ofNat (data.length / 256) :: UInt8.ofNat (data.length % 256) ::
    data

theorem unwrap_padDerOctetString (data : Bytes) (fits : data.length < 65536) :
    Evaluator.unwrapOctetString (padDerOctetString data) = .ok data := by
  have high : (UInt8.ofNat (data.length / 256)).toNat = data.length / 256 := by
    rw [UInt8.toNat_ofNat', Nat.mod_eq_of_lt (by omega)]
  have low : (UInt8.ofNat (data.length % 256)).toNat = data.length % 256 := by
    rw [UInt8.toNat_ofNat', Nat.mod_eq_of_lt (by omega)]
  have first := shiftIn_toNat 0 0x00 (by decide)
  have second := shiftIn_toNat (((0 : UInt64) <<< 8) ||| (0x00 : UInt8).toUInt64)
    (UInt8.ofNat (data.length / 256)) (by decide)
  rw [first, high] at second
  have third := shiftIn_toNat
    (((((0 : UInt64) <<< 8) ||| (0x00 : UInt8).toUInt64) <<< 8) |||
      (UInt8.ofNat (data.length / 256)).toUInt64)
    (UInt8.ofNat (data.length % 256)) (by rw [second]; simp; omega)
  rw [second, low] at third
  have whole : (((0 : UInt64).toNat * 256 + (0x00 : UInt8).toNat) * 256 + data.length / 256) *
      256 + data.length % 256 = data.length := by
    simp
    omega
  rw [whole] at third
  change (Evaluator.lengthBytes 3 0 _ >>= _) = _
  simp only [Evaluator.lengthBytes, Outcome.bind_ok]
  rw [third, Evaluator.sliceTo, if_pos (Nat.le_refl _), List.take_length]

theorem unmarshal_padDerOctetString (data : Bytes) :
    GoEvaluator.unmarshalOctetString (padDerOctetString data) = none := by
  rw [padDerOctetString, GoEvaluator.unmarshalOctetString, if_neg (by decide),
    if_neg (by decide), if_neg (by decide)]
  change (GoEvaluator.lengthBytes 3 0 _).bind _ = _
  rw [GoEvaluator.lengthBytes, if_neg (by decide), if_pos (by decide)]
  rfl

theorem decode_lineBreak (bytes : Bytes) :
    decodeLenient (encode bytes ++ [10]) = some bytes ∧
      decodeStrict (encode bytes ++ [10]) = none := by
  constructor
  · have skipped : (encode bytes ++ [10]).filter (fun byte => !isLineBreak byte) =
        (encode bytes).filter fun byte => !isLineBreak byte := by
      rw [List.filter_append]
      exact List.append_nil _
    rw [decodeLenient, skipped]
    exact decodeLenient_encode bytes
  · cases read : decodeStrict (encode bytes ++ [10]) with
    | none => rfl
    | some decoded =>
        obtain ⟨sextets, symbols, _⟩ := Option.bind_eq_some_iff.mp read
        obtain ⟨sextet, isSymbol⟩ := sextetOf_of_readSymbols _ sextets symbols 10
          (List.mem_append_right _ (List.mem_singleton_self _))
        cases isSymbol

namespace Reference

open CompactJson JsonForms

/-- The executable libraries with another reader of claims in the second evaluator. -/
def goReading (reader : Bytes → Except String (CapClaim Bytes)) : Libraries Bytes :=
  { libraries everything with goUnmarshalClaim := reader }

def zeroMembers : List (String × Json) :=
  [("iss", .str ""), ("sub", .str ""), ("vm", .str ""), ("cid", .num 0), ("iat", .num 0),
    ("exp", .num 0), ("caps", .arr [])]

def fillZeros : Json → Json
  | .obj members =>
      .obj (members ++ zeroMembers.filter fun entry => (members.lookup entry.1).isNone)
  | form => form

/-- A reader that leaves the zero value where a member is absent. -/
def readZeroFilled (text : Bytes) : Except String (CapClaim Bytes) :=
  ofOption "unexpected end of JSON input"
    (((ofBytes text).bind fun form => CapClaim.deserialize (fillZeros form)).map fun claim =>
      claim.map utf8)

theorem zeroFilled_claimJsonLaw : (goReading readZeroFilled).ClaimJsonLaw := by
  constructor
  · exact claimCodec_roundTrips
  · intro claim text written
    have whole : fillZeros (ofCapClaim claim) = ofCapClaim claim := by
      simp [fillZeros, ofCapClaim, zeroMembers, List.lookup_cons]
    change readZeroFilled text = _
    rw [readZeroFilled, ← Except.ok.inj written, ofBytes_toBytes, Option.bind_some, whole,
      CapClaim.deserialize_of]
    rfl

/-- Certificates that both parsers read alike, on which the evaluators disagree. -/
structure DisagreeOn (libs : Libraries Bytes) (value : Bytes) : Prop where
  same : SameCertificates libs (leafPem value) (authority sampleKey).certPem
    (publicKey sampleKey) [keyUsageExtension, { oid := capExtensionOid, value := value }]
  sameVerifiers : libs.SameVerifiers (publicKey sampleKey)
  json : libs.ClaimJsonLaw
  disagree : ¬Agree libs (leafPem value) (authority sampleKey).certPem

theorem sameCertificates_leaf (reader : Bytes → Except String (CapClaim Bytes))
    (value : Bytes) :
    SameCertificates (goReading reader) (leafPem value) (authority sampleKey).certPem
      (publicKey sampleKey)
      [keyUsageExtension, { oid := capExtensionOid, value := value }] := by
  have custom : (leafCarrying value).customExtensions =
      [{ oid := capExtensionOid, critical := false, content := value }] := rfl
  obtain ⟨caRust, caGo, ⟨peerCert, reads, iterates⟩, peerGo⟩ :=
    sameCertificates_armour custom rfl [4, 9] (signatureOf sampleKey)
  have sameIterates : List.Forall₂ (goReading reader).Iterates peerCert.extensions _ :=
    iterates.imp fun _ _ same => by
      simpa only [Libraries.Iterates, goReading] using same
  constructor
  · simpa only [Evaluator.Reads, goReading] using caRust
  · simpa only [GoEvaluator.Reads, goReading] using caGo
  · refine ⟨peerCert, ?_, sameIterates⟩
    simpa only [Evaluator.Reads, goReading, leafPem] using reads
  · simpa only [GoEvaluator.Reads, goReading, leafPem] using peerGo

section Disagreement

variable {reader : Bytes → Except String (CapClaim Bytes)}
  (json : (goReading reader).ClaimJsonLaw) {value : Bytes}

include json

theorem disagreeOn_of_rust {evaluator : Evaluator}
    (accepted : Evaluator.fromExtensionValue (goReading reader) (publicKey sampleKey) value =
      .ok evaluator)
    (refused : ∀ goEvaluator, GoEvaluator.newFromExtensionValue (goReading reader)
      (publicKey sampleKey) value ≠ .ok goEvaluator) :
    DisagreeOn (goReading reader) value := by
  have same := sameCertificates_leaf reader value
  refine ⟨same, sameVerifiers everything _, json, ?_⟩
  intro agree
  have rustAccepts := (same.fromCertPem_of_found (findCapability_sample value) _).mpr accepted
  have goAccepts := (agree { claim := evaluator.claim.map utf8 }).mpr ⟨_, rustAccepts, rfl⟩
  exact refused _ ((same.newEvaluator_of_found (findCapability_sample value) _).mp goAccepts)

theorem disagreeOn_of_go {goEvaluator : GoEvaluator}
    (accepted : GoEvaluator.newFromExtensionValue (goReading reader) (publicKey sampleKey) value =
      .ok goEvaluator)
    (refused : ∀ evaluator, Evaluator.fromExtensionValue (goReading reader)
      (publicKey sampleKey) value ≠ .ok evaluator) :
    DisagreeOn (goReading reader) value := by
  have same := sameCertificates_leaf reader value
  refine ⟨same, sameVerifiers everything _, json, ?_⟩
  intro agree
  have goAccepts := (same.newEvaluator_of_found (findCapability_sample value) _).mpr accepted
  obtain ⟨evaluator, rustAccepts, _⟩ := (agree goEvaluator).mp goAccepts
  exact refused _ ((same.fromCertPem_of_found (findCapability_sample value) _).mp rustAccepts)

end Disagreement

def tokenBytes (header payloadJson segment : Bytes) : Bytes :=
  header ++ dot :: (encode payloadJson ++ dot :: segment)

section Tokens

variable {reader : Bytes → Except String (CapClaim Bytes)}
  {header payloadJson segment : Bytes} (headerDot : dot ∉ header) (segmentDot : dot ∉ segment)
  (short : (tokenBytes header payloadJson segment).length < 65536)

include headerDot segmentDot short

theorem go_accepts_tokenBytes {goClaim : CapClaim Bytes}
    (decoded : decodeLenient segment = some (signatureOf sampleKey))
    (read : reader payloadJson = .ok goClaim) :
    GoEvaluator.newFromExtensionValue (goReading reader) (publicKey sampleKey)
      (encodeDerOctetString (tokenBytes header payloadJson segment)) =
        .ok { claim := goClaim } := by
  obtain ⟨fixed, verifies⟩ :=
    signatureOf_verifies everything sampleKey (header ++ dot :: encode payloadJson) rfl
  have goVerifies : (goReading reader).goVerify (publicKey sampleKey)
      ((goReading reader).sha256 (header ++ dot :: encode payloadJson))
      (ofBigEndian ((signatureOf sampleKey).take 32))
      (ofBigEndian ((signatureOf sampleKey).drop 32)) = true := by
    simpa only [goReading, libraries] using verifies
  apply (GoEvaluator.newFromExtensionValue_eq_ok_iff _ _ _ _).mpr
  refine ⟨_, unmarshal_encodeDerOctetString _ short, ?_⟩
  exact (GoEvaluator.verifyJwt_eq_ok_iff _ _ _ _).mpr
    ⟨header, encode payloadJson, segment, signatureOf sampleKey, payloadJson, headerDot,
      dot_notMem_encode _, segmentDot, rfl, decoded, fixed, goVerifies, decodeLenient_encode _,
      read⟩

theorem rust_reads_tokenBytes {evaluator : Evaluator}
    (accepted : Evaluator.fromExtensionValue (goReading reader) (publicKey sampleKey)
      (encodeDerOctetString (tokenBytes header payloadJson segment)) = .ok evaluator) :
    (∃ jwt, tokenBytes header payloadJson segment = utf8 jwt) ∧
      decodeStrict segment ≠ none ∧
      claimCodec.fromSlice payloadJson = .ok evaluator.claim := by
  have unwrapped := unwrapOctetString_of_unmarshal _ _ (unmarshal_encodeDerOctetString _ short)
  obtain ⟨jwt, unwrappedText, verified⟩ :=
    (Evaluator.fromExtensionValue_eq_ok_iff _ _ _ _).mp accepted
  have textEq := Outcome.ok.inj (unwrapped.symm.trans unwrappedText)
  obtain ⟨header', payload', segment', sig, payloadJson', headerDot', payloadDot', jwtEq,
    sigDecoded, _, decoded, read⟩ := (verifyCapJwt_eq_ok_iff _ _ _ _).mp verified
  have cut := (splitOn_three_iff dot _ _ _ _).mpr
    ⟨headerDot', payloadDot', dot_notMem_of_decodeStrict sigDecoded, textEq.trans jwtEq⟩
  have own := (splitOn_three_iff dot (tokenBytes header payloadJson segment) _ _ _).mpr
    ⟨headerDot, dot_notMem_encode payloadJson, segmentDot, rfl⟩
  rw [own] at cut
  cases cut
  rw [decodeStrict_encode] at decoded
  rw [← Option.some.inj decoded] at read
  refine ⟨⟨jwt, textEq⟩, ?_, read⟩
  rw [sigDecoded]
  exact Option.some_ne_none sig

end Tokens

/-- The second evaluator skips the line break, the first one does not. -/
theorem lineBreak_disagree : DisagreeOn (libraries everything) (encodeDerOctetString
    (tokenBytes (encode (utf8 capJwtHeader)) sampleIssuance.payloadJson
      (encode (signatureOf sampleKey) ++ [10]))) := by
  have segmentDot : dot ∉ encode (signatureOf sampleKey) ++ [10] := by
    rw [List.mem_append, not_or]
    exact ⟨dot_notMem_encode _, by decide⟩
  have short : (tokenBytes (encode (utf8 capJwtHeader)) sampleIssuance.payloadJson
      (encode (signatureOf sampleKey) ++ [10])).length < 65536 := by
    decide +kernel
  obtain ⟨lenient, strict⟩ := decode_lineBreak (signatureOf sampleKey)
  apply disagreeOn_of_go (claimJsonLaw everything)
  · exact go_accepts_tokenBytes (dot_notMem_encode _) segmentDot short lenient
      ((claimJsonLaw everything).goReads (buildClaim sampleNow sampleRequest) _ rfl)
  · intro evaluator accepted
    exact (rust_reads_tokenBytes (dot_notMem_encode _) segmentDot short accepted).2.1 strict

/-- The second evaluator never looks at the header, the first one reads UTF-8. -/
theorem header_disagree : DisagreeOn (libraries everything) (encodeDerOctetString
    (tokenBytes [0xFF] sampleIssuance.payloadJson (encode (signatureOf sampleKey)))) := by
  have headerDot : dot ∉ [(0xFF : UInt8)] := by decide
  have short : (tokenBytes [0xFF] sampleIssuance.payloadJson
      (encode (signatureOf sampleKey))).length < 65536 := by
    decide +kernel
  apply disagreeOn_of_go (claimJsonLaw everything)
  · exact go_accepts_tokenBytes headerDot (dot_notMem_encode _) short (decodeLenient_encode _)
      ((claimJsonLaw everything).goReads (buildClaim sampleNow sampleRequest) _ rfl)
  · intro evaluator accepted
    obtain ⟨⟨jwt, textEq⟩, _⟩ :=
      rust_reads_tokenBytes headerDot (dot_notMem_encode _) short accepted
    have member : (0xFF : UInt8) ∈ utf8 jwt := by
      rw [← textEq]
      exact List.mem_cons_self
    have small := utf8_le jwt 0xFF member
    exact absurd small (by decide)

/-- The second evaluator reads a claim without members, the first one wants them all. -/
theorem zeroFilled_disagree : DisagreeOn (goReading readZeroFilled) (encodeDerOctetString
    (tokenBytes (encode (utf8 capJwtHeader)) (toBytes (.obj []))
      (encode (signatureOf sampleKey)))) := by
  have short : (tokenBytes (encode (utf8 capJwtHeader)) (toBytes (.obj []))
      (encode (signatureOf sampleKey))).length < 65536 := by
    decide +kernel
  have filled : ∃ claim, readZeroFilled (toBytes (.obj [])) = .ok claim := by
    rw [readZeroFilled, ofBytes_toBytes]
    exact ⟨_, rfl⟩
  obtain ⟨claim, read⟩ := filled
  apply disagreeOn_of_go zeroFilled_claimJsonLaw
  · exact go_accepts_tokenBytes (dot_notMem_encode _) (dot_notMem_encode _) short
      (decodeLenient_encode _) read
  · intro evaluator accepted
    obtain ⟨_, _, strictRead⟩ :=
      rust_reads_tokenBytes (dot_notMem_encode _) (dot_notMem_encode _) short accepted
    simp only [claimCodec, codec, ofBytes_toBytes] at strictRead
    cases strictRead

/-- The first evaluator reads the superfluous length byte, the second refuses it. -/
theorem padded_disagree :
    DisagreeOn (libraries everything) (padDerOctetString (utf8 sampleIssuance.jwt)) := by
  have valid := sampleIssuance_valid
    (admits_everything sampleKey sampleNow sampleRequest sampleCsr)
  have verified := valid.verifyCapJwt (claimJsonLaw everything) (signaturesVerify everything)
    (authority_matchesKey everything sampleKey).signer
  have unwrapped := unwrap_padDerOctetString _ (sample_short sampleIssuance valid)
  apply disagreeOn_of_rust (claimJsonLaw everything)
  · exact (Evaluator.fromExtensionValue_eq_ok_iff _ _ _ _).mpr ⟨_, unwrapped, verified⟩
  · intro goEvaluator goAccepted
    obtain ⟨jwt, unmarshalled, _⟩ :=
      (GoEvaluator.newFromExtensionValue_eq_ok_iff _ _ _ _).mp goAccepted
    rw [unmarshal_padDerOctetString] at unmarshalled
    cases unmarshalled

end Reference

open Reference in
/-- Each layer makes the evaluators disagree: a superfluous length byte, a line
break in the signature, a header that is not UTF-8, a claim without members. -/
theorem evaluators_disagree :
    DisagreeOn (libraries everything) (padDerOctetString (utf8 sampleIssuance.jwt)) ∧
    DisagreeOn (libraries everything) (encodeDerOctetString
      (tokenBytes (encode (utf8 capJwtHeader)) sampleIssuance.payloadJson
        (encode (signatureOf sampleKey) ++ [10]))) ∧
    DisagreeOn (libraries everything) (encodeDerOctetString
      (tokenBytes [0xFF] sampleIssuance.payloadJson (encode (signatureOf sampleKey)))) ∧
    DisagreeOn (goReading readZeroFilled) (encodeDerOctetString
      (tokenBytes (encode (utf8 capJwtHeader)) (CompactJson.toBytes (.obj []))
        (encode (signatureOf sampleKey)))) :=
  ⟨padded_disagree, lineBreak_disagree, header_disagree, zeroFilled_disagree⟩

end AuthScope
