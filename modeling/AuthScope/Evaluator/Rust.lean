/-
The first evaluator.

It reads two PEM certificates, takes the public key of the authority from one
and the capability extension from the other, unwraps the OCTET STRING by hand
and verifies the token.  Indexing past the end of the extension value aborts.
-/

import AuthScope.Ca.Jwt
import AuthScope.Evaluator.Grants

set_option autoImplicit false

namespace AuthScope

open ByteText EffectLog

inductive EvalError where
  | x509Parse (message : String)
  | missingCapabilityExtension
  | jwtVerification (error : CaError)
  deriving DecidableEq, Repr

def EvalError.display : EvalError → String
  | .x509Parse message => "X.509 parse error: " ++ message
  | .missingCapabilityExtension =>
      "Capability extension (OID 1.3.6.1.4.1.99999.1) not found in peer certificate"
  | .jwtVerification error => "JWT verification failed: " ++ error.display

structure Evaluator where
  claim : CapClaim String
  deriving DecidableEq, Repr

namespace Evaluator

variable {κ : Type} (libs : Libraries κ)

/-- The arcs of an identifier; one that cannot be iterated aborts. -/
def extOid (extension : X509Extension) : Outcome EvalError (List Nat) :=
  match libs.oidIter extension.oid with
  | some arcs => .ok arcs
  | none => .panic

def findCapability : List X509Extension → Outcome EvalError (Option Bytes)
  | [] => .ok none
  | extension :: rest => do
      let oid ← extOid libs extension
      if oid = capExtensionOid then return some extension.value
      else findCapability rest

/-- The bytes of a multi-byte length, most significant first, shifted into 64
bits. -/
def lengthBytes : Nat → UInt64 → Bytes → Outcome EvalError (UInt64 × Bytes)
  | 0, len, rest => .ok (len, rest)
  | _ + 1, _, [] => .panic
  | count + 1, len, byte :: rest => lengthBytes count ((len <<< 8) ||| byte.toUInt64) rest

/-- The first `len` bytes; too few, or an end that wraps around, aborts. -/
def sliceTo (len : Nat) (bytes : Bytes) : Outcome EvalError Bytes :=
  if len ≤ bytes.length then .ok (bytes.take len) else .panic

/-- Minimal unwrap of the DER tag and length of an OCTET STRING. -/
def unwrapOctetString : Bytes → Outcome EvalError Bytes
  | [] => .err (.x509Parse "Extension value is not an OCTET STRING")
  | tag :: rest =>
      if tag ≠ 0x04 then .err (.x509Parse "Extension value is not an OCTET STRING")
      else
        match rest with
        | [] => .panic
        | lenByte :: body =>
            if lenByte &&& 0x80 = 0 then sliceTo lenByte.toNat body
            else do
              let (len, content) ← lengthBytes (lenByte &&& 0x7F).toNat 0 body
              sliceTo len.toNat content

def fromExtensionValue (spki value : Bytes) : Outcome EvalError Evaluator := do
  let innerBytes ← unwrapOctetString value
  let jwtStr ← Outcome.ofOption (.x509Parse "JWT extension is not valid UTF-8")
    (fromUtf8 innerBytes)
  let claim ← Outcome.ofExcept ((verifyCapJwt libs jwtStr spki).mapError .jwtVerification)
  return { claim }

def fromExtensions (spki : Bytes) (extensions : List X509Extension) :
    Outcome EvalError Evaluator := do
  let found ← findCapability libs extensions
  let value ← Outcome.ofOption .missingCapabilityExtension found
  fromExtensionValue libs spki value

def parsePem (label : String) (certPem : String) : Outcome EvalError Bytes :=
  Outcome.ofExcept ((libs.parseX509Pem (utf8 certPem)).mapError fun error =>
    .x509Parse (label ++ " PEM parse failed: " ++ error))

def parseCert (label : String) (contents : Bytes) : Outcome EvalError X509Certificate :=
  Outcome.ofExcept ((libs.parseX509Certificate contents).mapError fun error =>
    .x509Parse (label ++ " cert parse failed: " ++ error))

def fromCertPem (peerCertPem caCertPem : String) : Outcome EvalError Evaluator := do
  let caPem ← parsePem libs "CA" caCertPem
  let caCert ← parseCert libs "CA" caPem
  let peerPem ← parsePem libs "Peer" peerCertPem
  let peerCert ← parseCert libs "Peer" peerPem
  fromExtensions libs caCert.subjectPublicKey peerCert.extensions

/-! ### Queries -/

def canCallRpc (evaluator : Evaluator) (myVmName moduleName method : String) : Bool :=
  grantsRpc evaluator.claim.caps myVmName moduleName (moduleName ++ "." ++ method)

def canAccessPath (evaluator : Evaluator) (myVmName path accessMode : String) : Bool :=
  grantsPath evaluator.claim.caps myVmName path accessMode

/-- The certificate in a PEM text, as this evaluator reads it. -/
def Reads (certPem : String) (certificate : X509Certificate) : Prop :=
  ∃ contents, libs.parseX509Pem (utf8 certPem) = .ok contents ∧
    libs.parseX509Certificate contents = .ok certificate

theorem Reads.unique {libs : Libraries κ} {certPem : String}
    {certificate other : X509Certificate} (reads : Reads libs certPem certificate)
    (readsOther : Reads libs certPem other) : certificate = other := by
  obtain ⟨contents, armoured, parsed⟩ := reads
  obtain ⟨contents', armoured', parsed'⟩ := readsOther
  rw [armoured, Except.ok.injEq] at armoured'
  rw [← armoured', parsed, Except.ok.injEq] at parsed'
  exact parsed'

theorem fromCertPem_eq_ok_iff (peerCertPem caCertPem : String) (evaluator : Evaluator) :
    fromCertPem libs peerCertPem caCertPem = .ok evaluator ↔
      ∃ caCert peerCert, Reads libs caCertPem caCert ∧ Reads libs peerCertPem peerCert ∧
        fromExtensions libs caCert.subjectPublicKey peerCert.extensions = .ok evaluator := by
  simp only [fromCertPem, parsePem, parseCert, Outcome.bind_eq_ok_iff,
    Outcome.ofExcept_eq_ok_iff, mapError_eq_ok_iff, Reads]
  constructor
  · rintro ⟨caPem, caPemRead, caCert, caCertRead, peerPem, peerPemRead, peerCert,
      peerCertRead, accepted⟩
    exact ⟨caCert, peerCert, ⟨caPem, caPemRead, caCertRead⟩,
      ⟨peerPem, peerPemRead, peerCertRead⟩, accepted⟩
  · rintro ⟨caCert, peerCert, ⟨caPem, caPemRead, caCertRead⟩,
      ⟨peerPem, peerPemRead, peerCertRead⟩, accepted⟩
    exact ⟨caPem, caPemRead, caCert, caCertRead, peerPem, peerPemRead, peerCert,
      peerCertRead, accepted⟩

theorem fromCertPem_of_extensions {peerCertPem otherCertPem caCertPem : String}
    {peerCert otherCert : X509Certificate} {evaluator : Evaluator}
    (peerReads : Reads libs peerCertPem peerCert)
    (otherReads : Reads libs otherCertPem otherCert)
    (sameExtensions : otherCert.extensions = peerCert.extensions)
    (accepted : fromCertPem libs peerCertPem caCertPem = .ok evaluator) :
    fromCertPem libs otherCertPem caCertPem = .ok evaluator := by
  obtain ⟨caCert, readCert, caReads, reads, accepted⟩ :=
    (fromCertPem_eq_ok_iff libs _ _ _).mp accepted
  rw [reads.unique peerReads, ← sameExtensions] at accepted
  exact (fromCertPem_eq_ok_iff libs _ _ _).mpr
    ⟨caCert, otherCert, caReads, otherReads, accepted⟩

theorem fromExtensions_eq_ok_iff (spki : Bytes) (extensions : List X509Extension)
    (evaluator : Evaluator) :
    fromExtensions libs spki extensions = .ok evaluator ↔
      ∃ value, findCapability libs extensions = .ok (some value) ∧
        fromExtensionValue libs spki value = .ok evaluator := by
  simp only [fromExtensions, Outcome.bind_eq_ok_iff, Outcome.ofOption_eq_ok_iff]
  constructor
  · rintro ⟨found, search, value, foundEq, accepted⟩
    exact ⟨value, by rw [search, foundEq], accepted⟩
  · rintro ⟨value, search, accepted⟩
    exact ⟨some value, search, value, rfl, accepted⟩

theorem fromExtensionValue_eq_ok_iff (spki value : Bytes) (evaluator : Evaluator) :
    fromExtensionValue libs spki value = .ok evaluator ↔
      ∃ jwt, unwrapOctetString value = .ok (utf8 jwt) ∧
        verifyCapJwt libs jwt spki = .ok evaluator.claim := by
  simp only [fromExtensionValue, Outcome.bind_eq_ok_iff, Outcome.ofOption_eq_ok_iff,
    Outcome.ofExcept_eq_ok_iff, mapError_eq_ok_iff, fromUtf8_eq_some_iff, Outcome.pure_eq,
    Outcome.ok.injEq]
  constructor
  · rintro ⟨inner, unwrapped, jwt, innerEq, claim, verified, same⟩
    rw [← innerEq] at unwrapped
    rw [← same]
    exact ⟨jwt, unwrapped, verified⟩
  · rintro ⟨jwt, unwrapped, verified⟩
    exact ⟨utf8 jwt, unwrapped, jwt, rfl, evaluator.claim, verified, rfl⟩

theorem findCapability_of_iterates {extensions : List X509Extension} {shown : List Extension}
    (iterates : List.Forall₂ libs.Iterates extensions shown) :
    findCapability libs extensions =
      .ok ((shown.find? fun extension => extension.oid = capExtensionOid).map
        Extension.value) := by
  induction iterates with
  | nil => rfl
  | @cons extension plain rest plainRest same _ ih =>
      obtain ⟨oid, value⟩ := same
      have arcs : extOid libs extension = .ok plain.oid := by rw [extOid, oid]
      rw [findCapability, arcs, Outcome.bind_ok]
      by_cases isCapability : plain.oid = capExtensionOid
      · rw [if_pos isCapability, List.find?_cons_of_pos (by simp [isCapability]), value]
        rfl
      · rw [if_neg isCapability, List.find?_cons_of_neg (by simp [isCapability])]
        exact ih

end Evaluator

end AuthScope
