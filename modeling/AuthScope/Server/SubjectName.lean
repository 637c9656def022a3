/-
The subject name of an issued certificate.

The policy checks the entity of a request; the certificate carries the subject
of the signing request in it.  Nothing compares the two, so the certificate
names the entity exactly when the guest put its name there.
-/

import AuthScope.Server.Issuance

set_option autoImplicit false

namespace AuthScope

open ByteText EffectLog ByteStream StateMachine

variable {κ : Type} {libs : Libraries κ} {config : HostConfig} {ca : CertificateAuthority}

/-- The first common name of a subject. -/
def commonName (name : DistinguishedName) : Option String :=
  (name.find? fun entry => entry.1 = .commonName).map Prod.snd

/-- The certificate that was signed has the subject of the signing request. -/
theorem Issuance.Valid.subject {issuance : Issuance κ} {env : SigningEnvironment}
    {req : SigningRequest} (valid : issuance.Valid libs env ca req) (pemLaw : libs.PemLaw)
    (readBack : libs.ReadBackLaw) {certificate : X509Certificate}
    (reads : Evaluator.Reads libs (issuance.pem libs) certificate)
    {csr : CertificateSigningRequestParams} (parsed : libs.csrFromPem req.csrPem = .ok csr) :
    certificate.subject = csr.params.distinguishedName := by
  have sameCsr := valid.csrParsed.symm.trans parsed
  rw [(valid.reads pemLaw readBack reads).1, Except.ok.inj sameCsr]

namespace Reference

end Reference

end AuthScope
