/-
Whether a loaded authority is coherent.

Loading reads the certificate and the key independently and compares nothing,
so whether what the authority issues can be verified rests on the two files
alone.
-/

import AuthScope.Ca.InitFailure
import AuthScope.Evaluator.Readability

set_option autoImplicit false

namespace AuthScope

open ByteText EffectLog FileSystem Base64Url

variable {κ : Type} (libs : Libraries κ) (certs : Bytes → List (Except String Bytes))
  (verifyTbs : (publicKey tbs signature : Bytes) → Bool)

/-- The certificate in one text has the public key of the key in the other. -/
def BelongTogether (certPem keyPem : String) : Prop :=
  ∃ certificate key, Evaluator.Reads libs certPem certificate ∧
    libs.keyPairFromPem keyPem = .ok key ∧
    certificate.subjectPublicKey = libs.publicKey key

def VerifiesUnder (certPem caCertPem : String) : Prop :=
  ∃ tbs signature caCert, certPem = libs.certificatePem (libs.certificateDer tbs signature) ∧
    Evaluator.Reads libs caCertPem caCert ∧
    verifyTbs caCert.subjectPublicKey tbs signature = true

/-- The certificate and the key belong together, and every certificate that is
issued with a token that fits is accepted next to the certificate of the
authority and verifies under it. -/
structure CertificateAuthority.Coherent (ca : CertificateAuthority) : Prop where
  belongTogether : BelongTogether libs ca.certPem ca.keyPem
  issues : ∀ env req certPem,
    ((signCsr libs env ca req : Prog SignEvent Unit CaError String).run ()).outcome =
      .ok certPem →
    (∀ jwt, SignedToken libs env ca req () jwt → (utf8 jwt).length < 65536) →
    (∃ evaluator, Evaluator.fromCertPem libs certPem ca.certPem = .ok evaluator) ∧
      VerifiesUnder libs verifyTbs certPem ca.certPem

def LoadsCoherently (certPath keyPath : Path) (disk : Disk) : Prop :=
  ∀ faults ca, ((CertificateAuthority.load libs certs certPath keyPath).run
      (disk.withFaults faults)).outcome = .ok ca →
    ca.Coherent libs verifyTbs

/-- Texts of the two files that are accepted each on its own belong together. -/
def FilesBelongTogether (certPath keyPath : Path) (files : Files) : Prop :=
  ∀ certPem keyPem key der, HoldsText files certPath certPem → HoldsText files keyPath keyPem →
    libs.keyPairFromPem keyPem = .ok key → pemToDer certs certPem = some der →
    BelongTogether libs certPem keyPem

def TbsSignaturesVerify : Prop :=
  ∀ key nonce tbs signature, libs.signTbs key nonce tbs = .ok signature →
    verifyTbs (libs.publicKey key) tbs signature = true

def IssuedParse : Prop :=
  ∀ env ca req (issuance : Issuance κ), issuance.Valid libs env ca req →
    ∃ certificate, Evaluator.Reads libs (issuance.pem libs) certificate

variable {libs certs verifyTbs} {certPath keyPath : Path} {disk : Disk}

theorem filesBelongTogether_of_loadsCoherently
    (coherent : LoadsCoherently libs certs verifyTbs certPath keyPath disk) :
    FilesBelongTogether libs certs certPath keyPath disk.files := by
  intro certPem keyPem key der certRead keyRead parsed found
  exact (coherent [] _
    (CertificateAuthority.load_of_texts certRead keyRead parsed found)).belongTogether

section Laws

variable (json : libs.ClaimJsonLaw) (signatures : libs.SignaturesVerify) (pemLaw : libs.PemLaw)
  (readBack : libs.ReadBackLaw) (noExtensions : libs.RequestsCarryNoExtensions)
  (keyDer : libs.KeyDerLaw) (tbsSignatures : TbsSignaturesVerify libs verifyTbs)
  (parses : IssuedParse libs)

include json signatures pemLaw readBack noExtensions keyDer tbsSignatures parses

/-- A key and a certificate that belong together make a coherent authority. -/
theorem CertificateAuthority.LoadedFrom.coherent {files : Files} {ca : CertificateAuthority}
    (loaded : LoadedFrom libs certs certPath keyPath files ca)
    (together : BelongTogether libs ca.certPem ca.keyPem) : ca.Coherent libs verifyTbs := by
  refine ⟨together, ?_⟩
  intro env req certPem issued short
  obtain ⟨issuance, valid, certPemEq⟩ := (signCsr_outcome () env ca req certPem).mp issued
  obtain ⟨caCert, key, caReads, keyParsed, caKey⟩ := together
  obtain ⟨keyPair, keyPairParsed, derEq⟩ := loaded.keyDer
  cases keyParsed.symm.trans keyPairParsed
  cases keyParsed.symm.trans valid.caKeyParsed
  have signerKey := valid.signerKey
  rw [derEq] at signerKey
  have sameKey := keyDer _ _ signerKey
  subst certPemEq
  constructor
  · exact ⟨_, valid.fromCertPem_of_key json signatures valid.signerKey pemLaw readBack
      noExtensions (short _ (valid.signedToken ())) caReads (caKey.trans sameKey.symm)
      (parses env ca req issuance valid)⟩
  · refine ⟨issuance.tbs, issuance.signature, caCert, rfl, caReads, ?_⟩
    rw [caKey]
    exact tbsSignatures _ _ _ _ valid.signed

/-- Loading compares nothing: what it returns is coherent exactly where the two
files belong together or one of them is refused. -/
theorem loadsCoherently_iff :
    LoadsCoherently libs certs verifyTbs certPath keyPath disk ↔
      FilesBelongTogether libs certs certPath keyPath disk.files := by
  constructor
  · exact filesBelongTogether_of_loadsCoherently
  · intro together faults ca returned
    have loaded := ((CertificateAuthority.load_triple libs certs certPath keyPath
      (disk.withFaults faults)).returned rfl returned).1
    obtain ⟨key, keyParsed, _⟩ := loaded.keyDer
    exact loaded.coherent json signatures pemLaw readBack noExtensions keyDer tbsSignatures parses
      (together ca.certPem ca.keyPem key ca.certDer loaded.cert loaded.key keyParsed loaded.certDer)

end Laws

/-! ### Files of two initialisations -/

namespace Reference

def armouredBlocks (text : Bytes) : List (Except String Bytes) :=
  match readArmour text with
  | some der => [.ok der]
  | none => []

def verifyTbsWith (point tbs signature : Bytes) : Bool :=
  (libraries everything).ecdsaVerify point tbs signature

def pairedDisk (certKey fileKey : Bytes) : Disk :=
  authorityDisk (authority certKey).certPem (authority fileKey).keyPem

theorem tbsSignaturesVerify : TbsSignaturesVerify (libraries everything) verifyTbsWith :=
  fun key nonce tbs signature signed => signaturesVerify everything key nonce tbs signature signed

theorem keyDerLaw : (libraries everything).KeyDerLaw := by
  intro key other read
  rw [libraries_serializeDer, libraries_ecdsaFromPkcs8, Except.ok.injEq] at read
  rw [read]

theorem issuedParse : IssuedParse (libraries everything) := by
  intro env ca req issuance valid
  have tbsEq := valid.built
  rw [libraries_tbsCertificate, Except.ok.injEq] at tbsEq
  unfold Issuance.pem
  rw [← tbsEq]
  exact ⟨_, reads_armour everything _ _ _⟩

section Paired

variable (certKey fileKey : Bytes)

theorem pairedDisk_cert :
    HoldsText (pairedDisk certKey fileKey).files caCertPath (authority certKey).certPem :=
  authorityFiles_cert _ _

theorem pairedDisk_key :
    HoldsText (pairedDisk certKey fileKey).files caKeyPath (authority fileKey).keyPem :=
  authorityFiles_key _ _

theorem authority_keyParsed :
    (libraries everything).keyPairFromPem (authority fileKey).keyPem = .ok fileKey := by
  rw [libraries_keyPairFromPem, authority, utf8_encodeText, decodeStrict_encode]
  rfl

theorem authority_certFound :
    pemToDer armouredBlocks (authority certKey).certPem = some (authority certKey).certDer := by
  unfold pemToDer armouredBlocks authority
  rw [readArmour_armour]

theorem authority_together_iff :
    BelongTogether (libraries everything) (authority certKey).certPem (authority fileKey).keyPem ↔
      publicKey certKey = publicKey fileKey := by
  have caReads := reads_armour everything CertificateAuthority.rootParams (publicKey certKey)
    (signatureOf certKey)
  constructor
  · rintro ⟨certificate, key, reads, parsed, same⟩
    cases (authority_keyParsed fileKey).symm.trans parsed
    rw [reads.unique caReads] at same
    exact same
  · intro same
    exact ⟨_, fileKey, caReads, authority_keyParsed fileKey, same⟩

end Paired

end Reference

open Reference in
theorem loadsCoherently_iff_sample :
    LoadsCoherently (libraries everything) armouredBlocks verifyTbsWith caCertPath caKeyPath
      (pairedDisk sampleKey sampleKey) := by
  refine (loadsCoherently_iff (claimJsonLaw everything) (signaturesVerify everything)
    (pemLaw everything) (readBackLaw everything) (requestsCarryNoExtensions everything) keyDerLaw
    tbsSignaturesVerify issuedParse).mpr ?_
  intro certPem keyPem key der certRead keyRead _ _
  have certEq := certRead.unique (pairedDisk_cert sampleKey sampleKey)
  have keyEq := keyRead.unique (pairedDisk_key sampleKey sampleKey)
  rw [certEq, keyEq]
  exact (authority_together_iff sampleKey sampleKey).mpr rfl

open Reference in
/-- The certificate of one key and another key are loaded without an error. -/
theorem mismatched_files_load :
    ¬LoadsCoherently (libraries everything) armouredBlocks verifyTbsWith caCertPath caKeyPath
      (pairedDisk sampleKey [9]) := by
  intro coherent
  have together := filesBelongTogether_of_loadsCoherently coherent _ _ _ _
    (pairedDisk_cert sampleKey [9]) (pairedDisk_key sampleKey [9]) (authority_keyParsed [9])
    (authority_certFound sampleKey)
  exact absurd ((authority_together_iff sampleKey [9]).mp together) (by decide)

end AuthScope
