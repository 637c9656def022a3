/-
The third-party libraries the program calls.

Signatures, certificate encoding and the JSON readers are not part of the
repository.  Each function the program uses is a field of `Libraries`, with the
display text of its error.  What the program relies on is stated as separate
laws, so that a result names the laws it needs.
-/

import AuthScope.Foundation.ObjectIdentifier
import AuthScope.Proto.Codec
import AuthScope.Proto.Messages

set_option autoImplicit false

namespace AuthScope

open ByteText

inductive DnType where
  | commonName
  | organizationName
  | other (oid : List Nat)
  deriving DecidableEq, Repr

abbrev DistinguishedName := List (DnType × String)

inductive IsCa where
  | noCa
  | explicitNoCa
  | unconstrained
  | constrained (pathLength : UInt8)
  deriving DecidableEq, Repr

inductive KeyUsagePurpose where
  | digitalSignature
  | contentCommitment
  | keyEncipherment
  | dataEncipherment
  | keyAgreement
  | keyCertSign
  | crlSign
  | encipherOnly
  | decipherOnly
  deriving DecidableEq, Repr

structure Date where
  year : Int
  month : Nat
  day : Nat
  deriving DecidableEq, Repr

structure CustomExtension where
  oid : List Nat
  critical : Bool
  content : Bytes
  deriving DecidableEq, Repr

structure CertificateParams where
  distinguishedName : DistinguishedName
  subjectAltNames : List String
  isCa : IsCa
  keyUsages : List KeyUsagePurpose
  extendedKeyUsages : List (List Nat)
  notBefore : Date
  notAfter : Date
  customExtensions : List CustomExtension
  deriving DecidableEq, Repr

/-- A parsed signing request: the parameters it asks for and the public key it
was signed with. -/
structure CertificateSigningRequestParams where
  params : CertificateParams
  publicKey : Bytes
  deriving DecidableEq, Repr

structure Extension where
  oid : List Nat
  value : Bytes
  deriving DecidableEq, Repr

structure X509Extension where
  oid : Bytes
  value : Bytes
  deriving DecidableEq, Repr

/-- The parts of an X.509 certificate that the first evaluator can see. -/
structure X509Certificate where
  subject : DistinguishedName
  subjectPublicKey : Bytes
  extensions : List X509Extension
  deriving DecidableEq, Repr

inductive GoPublicKey where
  | ecdsa (point : Bytes)
  | other (key : Bytes)
  deriving DecidableEq, Repr

structure GoCertificate where
  publicKey : GoPublicKey
  extensions : List Extension
  deriving DecidableEq, Repr

/-! ### Functions -/

/-- `κ` is the type of private keys.  Signing and key generation draw on a
random source, which is an argument here. -/
structure Libraries (κ : Type) where
  -- ring
  ecdsaFromPkcs8 : Bytes → Except String κ
  ecdsaSign : κ → Nat → Bytes → Except String Bytes
  ecdsaVerify : (publicKey message signature : Bytes) → Bool
  -- base64: the text of the error for an input that is refused
  base64Error : Bytes → String
  -- serde_json
  claimJson : JsonCodec (CapClaim String)
  requestJson : JsonCodec CertRequest
  responseJson : JsonCodec CertResponse
  -- rcgen
  generateKey : Nat → Except String κ
  publicKey : κ → Bytes
  serializePem : κ → String
  serializeDer : κ → Bytes
  keyPairFromPem : String → Except String κ
  csrFromPem : String → Except String CertificateSigningRequestParams
  caParamsFromPem : String → Except String CertificateParams
  tbsCertificate : (params : CertificateParams) → (subjectKey : Bytes) →
    (issuer : CertificateParams) → (issuerKey : Bytes) → Except String Bytes
  signTbs : κ → Nat → Bytes → Except String Bytes
  certificateDer : (tbs signature : Bytes) → Bytes
  certificatePem : Bytes → String
  -- x509-parser
  parseX509Pem : Bytes → Except String Bytes
  parseX509Certificate : Bytes → Except String X509Certificate
  oidIter : Bytes → Option (List Nat)
  -- the Go standard library, with the texts of its base64 and ASN.1 errors
  goBase64Error : Bytes → String
  goAsn1Error : Bytes → String
  pemDecode : Bytes → Option Bytes
  goParseCertificate : Bytes → Except String GoCertificate
  sha256 : Bytes → Bytes
  goVerify : (point hash : Bytes) → (r s : Nat) → Bool
  goUnmarshalClaim : Bytes → Except String (CapClaim Bytes)

namespace Libraries

variable {κ : Type} (libs : Libraries κ)

/-- The JSON of a claim is read back unchanged by both readers; the second one
holds the UTF-8 bytes of every string. -/
structure ClaimJsonLaw : Prop where
  roundTrips : libs.claimJson.RoundTrips
  goReads : ∀ claim text, libs.claimJson.toVec claim = .ok text →
    libs.goUnmarshalClaim text = .ok (claim.map utf8)

/-- The second verifier accepts the 64-byte signatures the first one does. -/
def SameVerifiers (point : Bytes) : Prop :=
  ∀ message signature, libs.ecdsaVerify point message signature = true ↔
    signature.length = 64 ∧
      libs.goVerify point (libs.sha256 message) (ofBigEndian (signature.take 32))
        (ofBigEndian (signature.drop 32)) = true

def SignaturesVerify : Prop :=
  ∀ key nonce message signature, libs.ecdsaSign key nonce message = .ok signature →
    libs.ecdsaVerify (libs.publicKey key) message signature = true

def FixedSignatures : Prop :=
  ∀ key nonce message signature, libs.ecdsaSign key nonce message = .ok signature →
    signature.length = 64

structure PemLaw : Prop where
  rust : ∀ der, libs.parseX509Pem (utf8 (libs.certificatePem der)) = .ok der
  go : ∀ der, libs.pemDecode (utf8 (libs.certificatePem der)) = some der

/-- What a certificate shows of the parameters and the key it was built from:
its own extensions, all under `id-ce`, and then the custom ones. -/
def ShowsExtensions (params : CertificateParams) (extensions : List Extension) : Prop :=
  ∃ standard : List Extension,
    (∀ extension ∈ standard, ∃ arc, arc < 128 ∧ extension.oid = [2, 5, 29, arc]) ∧
      extensions = standard ++ params.customExtensions.map fun custom =>
        { oid := custom.oid, value := custom.content }

/-- The extension, with the arcs of its identifier. -/
def Iterates (extension : X509Extension) (shown : Extension) : Prop :=
  libs.oidIter extension.oid = some shown.oid ∧ extension.value = shown.value

/-- An identifier can be iterated unless one of its arcs has more than 64 bits. -/
def OidLaw : Prop :=
  ∀ oid, libs.oidIter oid =
    if ∀ arc ∈ ObjectIdentifier.arcsOf oid, arc < 2 ^ 64 then
      some (ObjectIdentifier.arcsOf oid)
    else none

/-- A parser that accepts an issued certificate finds in it what was put in, and
well-formed identifiers can be iterated.  Parsers may refuse certificates, for
instance over the names they carry. -/
structure ReadBackLaw : Prop where
  rust : ∀ params subjectKey issuer issuerKey tbs signature certificate,
    libs.tbsCertificate params subjectKey issuer issuerKey = .ok tbs →
    libs.parseX509Certificate (libs.certificateDer tbs signature) = .ok certificate →
    certificate.subject = params.distinguishedName ∧
      certificate.subjectPublicKey = subjectKey ∧
      ((∀ custom ∈ params.customExtensions, ObjectIdentifier.WellFormed custom.oid) →
        ∃ shown, List.Forall₂ libs.Iterates certificate.extensions shown ∧
          ShowsExtensions params shown)
  go : ∀ params subjectKey issuer issuerKey tbs signature certificate,
    libs.tbsCertificate params subjectKey issuer issuerKey = .ok tbs →
    libs.goParseCertificate (libs.certificateDer tbs signature) = .ok certificate →
    ShowsExtensions params certificate.extensions

/-- A signing request carries no custom extensions: reading one with an
extension that is not understood is an error. -/
def RequestsCarryNoExtensions : Prop :=
  ∀ pem csr, libs.csrFromPem pem = .ok csr → csr.params.customExtensions = []

/-- The bytes that are signed contain every custom extension verbatim, and end
with the DER `TRUE` of the basic constraints when the certificate is that of an
unconstrained authority without custom extensions. -/
structure TbsLaw : Prop where
  extensions : ∀ params subjectKey issuer issuerKey tbs,
    libs.tbsCertificate params subjectKey issuer issuerKey = .ok tbs →
    ∀ custom ∈ params.customExtensions, custom.content <:+: tbs
  authority : ∀ params subjectKey issuer issuerKey tbs,
    libs.tbsCertificate params subjectKey issuer issuerKey = .ok tbs →
    params.isCa = .unconstrained → params.customExtensions = [] →
    tbs.getLast? = some 0xFF

/-- Importing the certificate of an authority recovers its basic constraints,
and no custom extensions. -/
def ImportLaw : Prop :=
  ∀ params subjectKey issuer issuerKey tbs signature imported,
    libs.tbsCertificate params subjectKey issuer issuerKey = .ok tbs →
    libs.caParamsFromPem (libs.certificatePem (libs.certificateDer tbs signature)) =
      .ok imported →
    imported.isCa = params.isCa ∧ imported.customExtensions = []

def KeyDerLaw : Prop :=
  ∀ key other, libs.ecdsaFromPkcs8 (libs.serializeDer key) = .ok other →
    libs.publicKey other = libs.publicKey key

/-- Of the signatures that are held, none verifies under the public key but for the
given messages. -/
structure Unforgeable (held : Bytes → Prop) (point : Bytes) (messages : List Bytes) : Prop where
  rust : ∀ message signature, held signature →
    libs.ecdsaVerify point message signature = true → message ∈ messages
  go : ∀ message signature, held signature →
    libs.goVerify point (libs.sha256 message) (ofBigEndian (signature.take 32))
      (ofBigEndian (signature.drop 32)) = true → message ∈ messages

end Libraries

end AuthScope
