/-
The second evaluator.

It follows the steps of the first one with the Go standard library.  Its ASN.1
reader wants definite minimal lengths and ignores what follows the first value;
its base64 reader skips line breaks and ignores trailing bits; its strings are
arbitrary bytes.
-/

import AuthScope.Ca.Jwt
import AuthScope.Evaluator.Grants

set_option autoImplicit false

namespace AuthScope

open ByteText EffectLog Base64Url

structure GoEvaluator where
  claim : CapClaim Bytes
  deriving DecidableEq, Repr

namespace GoEvaluator

/-- The bytes of a multi-byte length: no leading zero, less than 2³¹ and not
expressible in one byte. -/
def lengthBytes : Nat → Nat → Bytes → Option (Nat × Bytes)
  | 0, len, rest => if len < 0x80 then none else some (len, rest)
  | _ + 1, _, [] => none
  | count + 1, len, byte :: rest =>
      if 2 ^ 23 ≤ len then none
      else if len * 256 + byte.toNat = 0 then none
      else lengthBytes count (len * 256 + byte.toNat) rest

def sliceTo (len : Nat) (bytes : Bytes) : Option Bytes :=
  if len ≤ bytes.length then some (bytes.take len) else none

/-- `asn1.Unmarshal` into a byte slice. -/
def unmarshalOctetString : Bytes → Option Bytes
  | tag :: lenByte :: body =>
      if tag ≠ 0x04 then none
      else if lenByte &&& 0x80 = 0 then sliceTo lenByte.toNat body
      else if (lenByte &&& 0x7F).toNat = 0 then none
      else
        (lengthBytes (lenByte &&& 0x7F).toNat 0 body).bind fun found =>
          sliceTo found.1 found.2
  | _ => none

variable {κ : Type} (libs : Libraries κ)

def decodeSegment (label : String) (segment : Bytes) : Except String Bytes :=
  match decodeLenient segment with
  | some bytes => .ok bytes
  | none => .error (label ++ libs.goBase64Error segment)

def invalidLength (length : Nat) : String :=
  "invalid ES256 signature length: got " ++ toString length ++ ", expected 64"

def verifyJwt (point jwt : Bytes) : Except String (CapClaim Bytes) :=
  match jwt.splitOn dot with
  | [header, payload, signature] => do
      let sig ← decodeSegment libs "invalid JWT signature encoding: " signature
      if sig.length ≠ 64 then .error (invalidLength sig.length)
      else
        let hash := libs.sha256 (header ++ dot :: payload)
        let r := ofBigEndian (sig.take 32)
        let s := ofBigEndian (sig.drop 32)
        if libs.goVerify point hash r s then
          let payloadBytes ← decodeSegment libs "invalid JWT payload encoding: " payload
          (libs.goUnmarshalClaim payloadBytes).mapError fun error =>
            "failed to unmarshal JWT payload: " ++ error
        else .error "JWT verification failed: invalid signature"
  | _ => .error "invalid JWT structure"

def newFromExtensionValue (point value : Bytes) : Except String GoEvaluator :=
  match unmarshalOctetString value with
  | none =>
      .error ("failed to unwrap ASN.1 OCTET STRING: " ++ libs.goAsn1Error value)
  | some innerJwt => do
      let claim ← verifyJwt libs point innerJwt
      return { claim }

def findCapability (extensions : List Extension) : Option Bytes :=
  (extensions.find? fun extension => extension.oid = capExtensionOid).map Extension.value

def newFromExtensions (point : Bytes) (extensions : List Extension) :
    Except String GoEvaluator :=
  match findCapability extensions with
  | none =>
      .error "capability extension (OID 1.3.6.1.4.1.99999.1) not found in peer certificate"
  | some value => newFromExtensionValue libs point value

def decodePem (label : String) (certPem : Bytes) : Except String Bytes :=
  match libs.pemDecode certPem with
  | none => .error ("failed to decode " ++ label ++ " PEM")
  | some block => .ok block

def parseCert (label : String) (block : Bytes) : Except String GoCertificate :=
  (libs.goParseCertificate block).mapError fun error =>
    "failed to parse " ++ label ++ " cert: " ++ error

def newEvaluator (peerCertPem caCertPem : Bytes) : Except String GoEvaluator := do
  let caBlock ← decodePem libs "CA" caCertPem
  let caCert ← parseCert libs "CA" caBlock
  match caCert.publicKey with
  | .other _ => .error "CA public key is not ECDSA"
  | .ecdsa point => do
      let peerBlock ← decodePem libs "peer" peerCertPem
      let peerCert ← parseCert libs "peer" peerBlock
      newFromExtensions libs point peerCert.extensions

def canCallRpc (evaluator : GoEvaluator) (myVmName moduleName method : Bytes) : Bool :=
  grantsRpc evaluator.claim.caps myVmName moduleName (moduleName ++ utf8 "." ++ method)

def canAccessPath (evaluator : GoEvaluator) (myVmName path accessMode : Bytes) : Bool :=
  grantsPath evaluator.claim.caps myVmName path accessMode

/-! ### What is accepted -/

/-- The certificate in a PEM text, as this evaluator reads it. -/
def Reads (certPem : Bytes) (certificate : GoCertificate) : Prop :=
  ∃ block, libs.pemDecode certPem = some block ∧
    libs.goParseCertificate block = .ok certificate

theorem Reads.unique {libs : Libraries κ} {certPem : Bytes}
    {certificate other : GoCertificate} (reads : Reads libs certPem certificate)
    (readsOther : Reads libs certPem other) : certificate = other := by
  obtain ⟨block, armoured, parsed⟩ := reads
  obtain ⟨block', armoured', parsed'⟩ := readsOther
  rw [armoured, Option.some.injEq] at armoured'
  rw [← armoured', parsed, Except.ok.injEq] at parsed'
  exact parsed'

theorem decodePem_eq_ok_iff (label : String) (certPem block : Bytes) :
    decodePem libs label certPem = .ok block ↔ libs.pemDecode certPem = some block := by
  unfold decodePem
  cases libs.pemDecode certPem with
  | none => simp
  | some decoded => simp

theorem decodeSegment_eq_ok_iff (label : String) (segment bytes : Bytes) :
    decodeSegment libs label segment = .ok bytes ↔ decodeLenient segment = some bytes := by
  unfold decodeSegment
  cases decodeLenient segment with
  | none => simp
  | some decoded => simp

theorem newEvaluator_eq_ok_iff (peerCertPem caCertPem : Bytes) (evaluator : GoEvaluator) :
    newEvaluator libs peerCertPem caCertPem = .ok evaluator ↔
      ∃ caCert point peerCert, Reads libs caCertPem caCert ∧
        caCert.publicKey = .ecdsa point ∧ Reads libs peerCertPem peerCert ∧
        newFromExtensions libs point peerCert.extensions = .ok evaluator := by
  simp only [newEvaluator, parseCert, except_bind_eq_ok_iff, decodePem_eq_ok_iff,
    mapError_eq_ok_iff, Reads]
  constructor
  · rintro ⟨caBlock, caPemRead, caCert, caCertRead, accepted⟩
    cases keyEq : caCert.publicKey with
    | other key =>
        rw [keyEq] at accepted
        cases accepted
    | ecdsa point =>
        rw [keyEq] at accepted
        simp only [except_bind_eq_ok_iff, decodePem_eq_ok_iff, mapError_eq_ok_iff] at accepted
        obtain ⟨peerBlock, peerPemRead, peerCert, peerCertRead, accepted⟩ := accepted
        exact ⟨caCert, point, peerCert, ⟨caBlock, caPemRead, caCertRead⟩, keyEq,
          ⟨peerBlock, peerPemRead, peerCertRead⟩, accepted⟩
  · rintro ⟨caCert, point, peerCert, ⟨caBlock, caPemRead, caCertRead⟩, keyEq,
      ⟨peerBlock, peerPemRead, peerCertRead⟩, accepted⟩
    refine ⟨caBlock, caPemRead, caCert, caCertRead, ?_⟩
    rw [keyEq]
    simp only [except_bind_eq_ok_iff, decodePem_eq_ok_iff, mapError_eq_ok_iff]
    exact ⟨peerBlock, peerPemRead, peerCert, peerCertRead, accepted⟩

/-- Of a peer certificate only the extensions matter. -/
theorem newEvaluator_of_extensions {peerCertPem otherCertPem caCertPem : Bytes}
    {peerCert otherCert : GoCertificate} {evaluator : GoEvaluator}
    (peerReads : Reads libs peerCertPem peerCert)
    (otherReads : Reads libs otherCertPem otherCert)
    (sameExtensions : otherCert.extensions = peerCert.extensions)
    (accepted : newEvaluator libs peerCertPem caCertPem = .ok evaluator) :
    newEvaluator libs otherCertPem caCertPem = .ok evaluator := by
  obtain ⟨caCert, point, readCert, caReads, keyEq, reads, accepted⟩ :=
    (newEvaluator_eq_ok_iff libs _ _ _).mp accepted
  rw [reads.unique peerReads, ← sameExtensions] at accepted
  exact (newEvaluator_eq_ok_iff libs _ _ _).mpr
    ⟨caCert, point, otherCert, caReads, keyEq, otherReads, accepted⟩

theorem newFromExtensions_eq_ok_iff (point : Bytes) (extensions : List Extension)
    (evaluator : GoEvaluator) :
    newFromExtensions libs point extensions = .ok evaluator ↔
      ∃ value, findCapability extensions = some value ∧
        newFromExtensionValue libs point value = .ok evaluator := by
  unfold newFromExtensions
  cases findCapability extensions with
  | none => simp
  | some value => simp

theorem newFromExtensionValue_eq_ok_iff (point value : Bytes) (evaluator : GoEvaluator) :
    newFromExtensionValue libs point value = .ok evaluator ↔
      ∃ jwt, unmarshalOctetString value = some jwt ∧
        verifyJwt libs point jwt = .ok evaluator.claim := by
  unfold newFromExtensionValue
  obtain ⟨claim⟩ := evaluator
  cases unmarshalOctetString value with
  | none => simp
  | some innerJwt => simp [except_bind_eq_ok_iff, pure, Except.pure]

/-- What the verifier accepts: exactly three segments, a 64-byte signature over
the first two, a payload that decodes to the claim. -/
theorem verifyJwt_eq_ok_iff (point jwt : Bytes) (claim : CapClaim Bytes) :
    verifyJwt libs point jwt = .ok claim ↔
      ∃ header payload signature sig payloadBytes,
        dot ∉ header ∧ dot ∉ payload ∧ dot ∉ signature ∧
          jwt = header ++ dot :: (payload ++ dot :: signature) ∧
          decodeLenient signature = some sig ∧ sig.length = 64 ∧
          libs.goVerify point (libs.sha256 (header ++ dot :: payload))
            (ofBigEndian (sig.take 32)) (ofBigEndian (sig.drop 32)) = true ∧
          decodeLenient payload = some payloadBytes ∧
          libs.goUnmarshalClaim payloadBytes = .ok claim := by
  unfold verifyJwt
  constructor
  · intro accepted
    split at accepted
    · rename_i header payload signature cut
      obtain ⟨headerDot, payloadDot, signatureDot, jwtEq⟩ :=
        (splitOn_three_iff dot jwt header payload signature).mp cut
      obtain ⟨sig, sigDecoded, accepted⟩ := (except_bind_eq_ok_iff _ _ _).mp accepted
      split at accepted
      · cases accepted
      · rename_i fixed
        dsimp only at accepted
        split at accepted
        · rename_i verified
          obtain ⟨payloadBytes, payloadDecoded, read⟩ :=
            (except_bind_eq_ok_iff _ _ _).mp accepted
          exact ⟨header, payload, signature, sig, payloadBytes, headerDot, payloadDot,
            signatureDot, jwtEq, (decodeSegment_eq_ok_iff libs _ _ _).mp sigDecoded,
            not_not.mp fixed, verified, (decodeSegment_eq_ok_iff libs _ _ _).mp payloadDecoded,
            (mapError_eq_ok_iff _ _ _).mp read⟩
        · cases accepted
    · cases accepted
  · rintro ⟨header, payload, signature, sig, payloadBytes, headerDot, payloadDot,
      signatureDot, jwtEq, sigDecoded, fixed, verified, payloadDecoded, read⟩
    rw [(splitOn_three_iff dot jwt header payload signature).mpr
      ⟨headerDot, payloadDot, signatureDot, jwtEq⟩]
    apply (except_bind_eq_ok_iff _ _ _).mpr
    refine ⟨sig, (decodeSegment_eq_ok_iff libs _ _ _).mpr sigDecoded, ?_⟩
    rw [if_neg (not_not.mpr fixed)]
    simp only [verified, if_true]
    apply (except_bind_eq_ok_iff _ _ _).mpr
    exact ⟨payloadBytes, (decodeSegment_eq_ok_iff libs _ _ _).mpr payloadDecoded,
      (mapError_eq_ok_iff _ _ _).mpr read⟩

end GoEvaluator

end AuthScope
