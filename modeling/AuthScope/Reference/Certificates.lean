/-
A small certificate format.

The body of a certificate is a JSON object with the names, the key and the
extensions, a byte that no UTF-8 text contains, the values of the custom
extensions verbatim, and the DER `TRUE` of an authority.  Requests are JSON
objects too.  Armour is base64 between two marker lines.  Reading returns what
was written for every input.
-/

import AuthScope.Foundation.Base64Url
import AuthScope.Libraries
import AuthScope.Proto.JsonForms

set_option autoImplicit false

namespace AuthScope
namespace Reference

open ByteText Base64Url CompactJson JsonForms

def bytesForm (bytes : Bytes) : Json := .str (encodeText bytes)

def readBytes (form : Json) : Option Bytes :=
  (asString form).bind fun text => decodeStrict (utf8 text)

def arcForm (arc : Nat) : Json := .num arc

def arcsForm (arcs : List Nat) : Json := .arr (arcs.map arcForm)

def asNat : Json → Option Nat
  | .num (.ofNat value) => some value
  | _ => none

def readArcs (form : Json) : Option (List Nat) :=
  (asArray form).bind fun items => items.mapM asNat

def dnTypeForm : DnType → Json
  | .commonName => .bool true
  | .organizationName => .bool false
  | .other oid => arcsForm oid

def readDnType : Json → Option DnType
  | .bool true => some .commonName
  | .bool false => some .organizationName
  | form => (readArcs form).map DnType.other

def nameEntryForm (entry : DnType × String) : Json := .arr [dnTypeForm entry.1, .str entry.2]

def readNameEntry : Json → Option (DnType × String)
  | .arr [dnType, .str text] => (readDnType dnType).map fun dnType => (dnType, text)
  | _ => none

def nameForm (name : DistinguishedName) : Json := .arr (name.map nameEntryForm)

def readName (form : Json) : Option DistinguishedName :=
  (asArray form).bind fun items => items.mapM readNameEntry

def extensionForm (extension : Extension) : Json :=
  .arr [arcsForm extension.oid, bytesForm extension.value]

def readExtension : Json → Option Extension
  | .arr [oid, value] =>
      (readArcs oid).bind fun oid => (readBytes value).map fun value => { oid, value }
  | _ => none

def isCaForm : IsCa → Json
  | .noCa => .null
  | .explicitNoCa => .bool false
  | .unconstrained => .bool true
  | .constrained pathLength => .num pathLength.toNat

def readIsCa : Json → Option IsCa
  | .null => some .noCa
  | .bool false => some .explicitNoCa
  | .bool true => some .unconstrained
  | .num (.ofNat pathLength) => some (.constrained (UInt8.ofNat pathLength))
  | _ => none

theorem readBytes_form (bytes : Bytes) : readBytes (bytesForm bytes) = some bytes := by
  unfold readBytes bytesForm
  simp only [asString, Option.bind_some, utf8_encodeText, decodeStrict_encode]

theorem readArcs_form (arcs : List Nat) : readArcs (arcsForm arcs) = some arcs :=
  mapM_map_some arcForm asNat (fun _ => rfl) arcs

theorem readDnType_form (dnType : DnType) : readDnType (dnTypeForm dnType) = some dnType := by
  cases dnType with
  | commonName => rfl
  | organizationName => rfl
  | other oid =>
      change (readArcs (arcsForm oid)).map DnType.other = _
      rw [readArcs_form]
      rfl

theorem readName_form (name : DistinguishedName) : readName (nameForm name) = some name := by
  apply mapM_map_some nameEntryForm readNameEntry
  rintro ⟨dnType, text⟩
  simp only [nameEntryForm, readNameEntry, readDnType_form, Option.map_some]

theorem readExtension_form (extension : Extension) :
    readExtension (extensionForm extension) = some extension := by
  simp only [extensionForm, readExtension, readArcs_form, readBytes_form, Option.bind_some,
    Option.map_some]

theorem readIsCa_form (isCa : IsCa) : readIsCa (isCaForm isCa) = some isCa := by
  cases isCa with
  | noCa => rfl
  | explicitNoCa => rfl
  | unconstrained => rfl
  | constrained pathLength =>
      change some (IsCa.constrained (UInt8.ofNat pathLength.toNat)) = _
      rw [UInt8.ofNat_toNat]

/-! ### Certificate bodies -/

structure Body where
  subject : DistinguishedName
  subjectKey : Bytes
  isCa : IsCa
  extensions : List Extension
  deriving DecidableEq, Repr

def bodyForm (body : Body) : Json :=
  .obj [("subject", nameForm body.subject), ("key", bytesForm body.subjectKey),
    ("ca", isCaForm body.isCa), ("extensions", .arr (body.extensions.map extensionForm))]

def readBodyForm (form : Json) : Option Body := do
  let subject ← (member "subject" form).bind readName
  let subjectKey ← (member "key" form).bind readBytes
  let isCa ← (member "ca" form).bind readIsCa
  let extensions ← (← (member "extensions" form).bind asArray).mapM readExtension
  return { subject, subjectKey, isCa, extensions }

theorem readBodyForm_form (body : Body) : readBodyForm (bodyForm body) = some body := by
  have subject := readName_form body.subject
  have key := readBytes_form body.subjectKey
  have isCa := readIsCa_form body.isCa
  have extensions := mapM_map_some extensionForm readExtension readExtension_form
    body.extensions
  simp [readBodyForm, bodyForm, member, List.lookup_cons, subject, key, isCa, extensions]

/-- Key usages stand for the standard extensions of a certificate. -/
def keyUsageExtension : Extension := { oid := [2, 5, 29, 15], value := [3, 1, 7] }

def bodyOf (params : CertificateParams) (subjectKey : Bytes) : Body :=
  { subject := params.distinguishedName
    subjectKey
    isCa := params.isCa
    extensions := keyUsageExtension :: params.customExtensions.map fun custom =>
      { oid := custom.oid, value := custom.content } }

def tbsOf (params : CertificateParams) (subjectKey : Bytes) : Bytes :=
  toBytes (bodyForm (bodyOf params subjectKey)) ++
    0xFF :: (params.customExtensions.flatMap CustomExtension.content ++
      if params.isCa = .unconstrained then [0x01, 0x01, 0xFF] else [])

def readBody (der : Bytes) : Option Body :=
  (ofBytes (der.takeWhile fun byte => byte ≠ 0xFF)).bind readBodyForm

theorem readBody_tbsOf (params : CertificateParams) (subjectKey signature : Bytes) :
    readBody (tbsOf params subjectKey ++ signature) = some (bodyOf params subjectKey) := by
  have absent : (0xFF : UInt8) ∉ toBytes (bodyForm (bodyOf params subjectKey)) := by
    intro member
    have small := utf8_le _ _ member
    exact absurd small (by decide)
  unfold readBody tbsOf
  rw [List.append_assoc, List.cons_append, takeWhile_append_separator 0xFF _ _ absent,
    ofBytes_toBytes, Option.bind_some, readBodyForm_form]

theorem content_infix_tbsOf (params : CertificateParams) (subjectKey : Bytes)
    (custom : CustomExtension) (member : custom ∈ params.customExtensions) :
    custom.content <:+: tbsOf params subjectKey := by
  obtain ⟨before, after, same⟩ := List.append_of_mem member
  unfold tbsOf
  rw [same, List.flatMap_append, List.flatMap_cons]
  refine ⟨toBytes (bodyForm (bodyOf params subjectKey)) ++
    0xFF :: before.flatMap CustomExtension.content,
    after.flatMap CustomExtension.content ++
      if params.isCa = .unconstrained then [0x01, 0x01, 0xFF] else [], ?_⟩
  simp only [List.append_assoc, List.cons_append]

theorem getLast_tbsOf (params : CertificateParams) (subjectKey : Bytes)
    (authority : params.isCa = .unconstrained) :
    (tbsOf params subjectKey).getLast? = some 0xFF := by
  have ending : tbsOf params subjectKey =
      toBytes (bodyForm (bodyOf params subjectKey)) ++
        0xFF :: (params.customExtensions.flatMap CustomExtension.content ++ [0x01, 0x01]) ++
          [0xFF] := by
    unfold tbsOf
    rw [if_pos authority]
    simp only [List.append_assoc, List.cons_append, List.nil_append]
  rw [ending, List.getLast?_concat]

def requestForm (subject : DistinguishedName) (publicKey : Bytes) : Json :=
  .obj [("subject", nameForm subject), ("key", bytesForm publicKey)]

def certificateRequest (subject : DistinguishedName) (publicKey : Bytes) : String :=
  encodeText (toBytes (requestForm subject publicKey))

def defaultParams (subject : DistinguishedName) (isCa : IsCa) : CertificateParams :=
  { distinguishedName := subject
    subjectAltNames := []
    isCa
    keyUsages := []
    extendedKeyUsages := []
    notBefore := { year := 1975, month := 1, day := 1 }
    notAfter := { year := 4096, month := 1, day := 1 }
    customExtensions := [] }

def readRequest (text : String) : Option CertificateSigningRequestParams := do
  let form ← (decodeStrict (utf8 text)).bind ofBytes
  let subject ← (member "subject" form).bind readName
  let publicKey ← (member "key" form).bind readBytes
  return { params := defaultParams subject .noCa, publicKey }

theorem readRequest_certificateRequest (subject : DistinguishedName) (publicKey : Bytes) :
    readRequest (certificateRequest subject publicKey) =
      some { params := defaultParams subject .noCa, publicKey } := by
  have name := readName_form subject
  have key := readBytes_form publicKey
  simp [readRequest, certificateRequest, decodeStrict_encode, ofBytes_toBytes, requestForm,
    member, List.lookup_cons, name, key]

theorem readRequest_customExtensions (text : String) (csr : CertificateSigningRequestParams)
    (read : readRequest text = some csr) : csr.params.customExtensions = [] := by
  simp only [readRequest, bind, Option.bind_eq_some_iff, pure, Option.some.injEq] at read
  obtain ⟨form, _, subject, _, publicKey, _, same⟩ := read
  rw [← same]
  rfl

def beginMarker : String := "-----BEGIN CERTIFICATE-----\n"

def endMarker : String := "\n-----END CERTIFICATE-----\n"

def armour (der : Bytes) : String := beginMarker ++ encodeText der ++ endMarker

def readArmour (text : Bytes) : Option Bytes :=
  if utf8 beginMarker <+: text then
    decodeStrict ((text.drop (utf8 beginMarker).length).takeWhile fun byte => byte ≠ 10)
  else none

theorem readArmour_armour (der : Bytes) : readArmour (utf8 (armour der)) = some der := by
  have markerEnd : utf8 endMarker = 10 :: utf8 "-----END CERTIFICATE-----\n" := by
    decide +kernel
  have noBreak : (10 : UInt8) ∉ encode der := notMem_encode der 10 rfl
  unfold readArmour armour
  rw [utf8_append, utf8_append, List.append_assoc, if_pos (List.prefix_append _ _),
    List.drop_left, utf8_encodeText, markerEnd, takeWhile_append_separator 10 _ _ noBreak,
    decodeStrict_encode]

end Reference
end AuthScope
