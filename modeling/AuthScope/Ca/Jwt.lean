/-
Capability tokens.

A token is `header.payload.signature`, three base64url texts joined by dots.
The signer signs the first two with their dot.  The verifier cuts a text at its
first two dots, checks the signature over what stands before the second one,
and only then reads the payload; it never reads the header.
-/

import AuthScope.Foundation.Base64Url
import AuthScope.Ca.Authority

set_option autoImplicit false

namespace AuthScope

open ByteText EffectLog Base64Url

def capJwtHeader : String := "\x7b\"alg\":\"ES256\",\"typ\":\"CAP\"\x7d"

/-- 1.3.6.1.4.1.99999.1 -/
def capExtensionOid : List Nat := [1, 3, 6, 1, 4, 1, 99999, 1]

def dot : UInt8 := 46

structure CapJwtSigner (κ : Type) where
  keyPair : κ

def signingInput (payloadJson : Bytes) : String :=
  encodeText (utf8 capJwtHeader) ++ "." ++ encodeText payloadJson

variable {κ σ : Type} (libs : Libraries κ)

namespace CapJwtSigner

def fromPkcs8Der (keyDer : Bytes) : Except CaError (CapJwtSigner κ) :=
  ((libs.ecdsaFromPkcs8 keyDer).map CapJwtSigner.mk).mapError .ringError

def sign (signer : CapJwtSigner κ) (nonce : Nat) (claim : CapClaim String) :
    Prog SignEvent σ CaError String := do
  let payloadJson ← Prog.liftExcept ((libs.claimJson.toVec claim).mapError CaError.serdeError)
  let message := utf8 (signingInput payloadJson)
  let signature ← Prog.perform (.capJwt claim message)
    ((libs.ecdsaSign signer.keyPair nonce message).mapError CaError.jwtError)
  return signingInput payloadJson ++ "." ++ encodeText signature

end CapJwtSigner

def decodeSegment (label : String) (segment : Bytes) : Except CaError Bytes :=
  match decodeStrict segment with
  | some bytes => .ok bytes
  | none => .error (.jwtError (label ++ libs.base64Error segment))

/-- Verify a capability JWT and return the decoded claim.  A dot is a byte of its
own in UTF-8, so cutting the bytes cuts the text. -/
def verifyCapJwt (jwt : String) (publicKey : Bytes) : Except CaError (CapClaim String) :=
  match splitN dot 3 (utf8 jwt) with
  | [header, payload, signature] => do
      let sig ← decodeSegment libs "bad signature base64: " signature
      if libs.ecdsaVerify publicKey (header ++ dot :: payload) sig then
        let payloadBytes ← decodeSegment libs "bad payload base64: " payload
        (libs.claimJson.fromSlice payloadBytes).mapError .serdeError
      else .error (.jwtError "JWT signature verification failed")
  | _ => .error (.jwtError "invalid JWT structure")

theorem utf8_dot : utf8 "." = [dot] := by decide +kernel

@[simp] theorem utf8_signingInput (payloadJson : Bytes) :
    utf8 (signingInput payloadJson) =
      encode (utf8 capJwtHeader) ++ dot :: encode payloadJson := by
  simp only [signingInput, utf8_append, utf8_encodeText, utf8_dot, List.append_assoc,
    List.cons_append, List.nil_append]

theorem capJwtHeader_length : (utf8 capJwtHeader).length = 27 := by decide +kernel

def tokenText (payloadJson signature : Bytes) : String :=
  signingInput payloadJson ++ "." ++ encodeText signature

theorem utf8_tokenText (payloadJson signature : Bytes) :
    utf8 (tokenText payloadJson signature) =
      encode (utf8 capJwtHeader) ++ dot :: (encode payloadJson ++ dot :: encode signature) := by
  simp only [tokenText, utf8_append, utf8_signingInput, utf8_encodeText, utf8_dot,
    List.append_assoc, List.cons_append, List.nil_append]

theorem utf8_tokenText_length (payloadJson signature : Bytes) (fixed : signature.length = 64) :
    (utf8 (tokenText payloadJson signature)).length =
      124 + (4 * payloadJson.length + 2) / 3 := by
  rw [utf8_tokenText]
  simp only [List.length_append, List.length_cons, encode_length, capJwtHeader_length, fixed]
  omega

/-- A token is shorter than 65536 bytes exactly up to 49058 bytes of JSON. -/
theorem utf8_tokenText_length_lt (payloadJson signature : Bytes)
    (fixed : signature.length = 64) :
    (utf8 (tokenText payloadJson signature)).length < 65536 ↔ payloadJson.length ≤ 49058 := by
  rw [utf8_tokenText_length payloadJson signature fixed]
  omega

/-! ### Signing -/

section Signing

variable (state : σ) (signer : CapJwtSigner κ) (nonce : Nat) (claim : CapClaim String)

theorem CapJwtSigner.sign_outcome (jwt : String) :
    ((signer.sign libs nonce claim : Prog SignEvent σ CaError String).run state).outcome =
        .ok jwt ↔
      ∃ payloadJson signature,
        libs.claimJson.toVec claim = .ok payloadJson ∧
          libs.ecdsaSign signer.keyPair nonce (utf8 (signingInput payloadJson)) =
            .ok signature ∧
          jwt = tokenText payloadJson signature := by
  simp only [CapJwtSigner.sign, Prog.bind_outcome_eq_ok_iff, Prog.liftExcept, Prog.lift_run,
    Prog.perform_outcome, Outcome.ofExcept_eq_ok_iff, Prog.pure_run, Outcome.ok.injEq,
    mapError_eq_ok_iff]
  constructor
  · rintro ⟨payloadJson, written, signature, signed, same⟩
    exact ⟨payloadJson, signature, written, signed, same.symm⟩
  · rintro ⟨payloadJson, signature, written, signed, same⟩
    exact ⟨payloadJson, written, signature, signed, same.symm⟩

theorem CapJwtSigner.sign_ne_panic :
    ((signer.sign libs nonce claim : Prog SignEvent σ CaError String).run state).outcome ≠
      .panic := by
  intro aborts
  simp only [CapJwtSigner.sign, Prog.bind_outcome_eq_panic_iff, Prog.liftExcept,
    Prog.lift_run, Prog.perform_outcome, Outcome.ofExcept_ne_panic, Prog.pure_run,
    reduceCtorEq, and_false, exists_false, or_false] at aborts

theorem CapJwtSigner.mem_sign_log (event : SignEvent)
    (member : event ∈
      ((signer.sign libs nonce claim : Prog SignEvent σ CaError String).run state).log) :
    ∃ payloadJson, libs.claimJson.toVec claim = .ok payloadJson ∧
      event = .capJwt claim (utf8 (signingInput payloadJson)) := by
  simp only [CapJwtSigner.sign, Prog.mem_bind_log, Prog.liftExcept, Prog.lift_run,
    List.not_mem_nil, false_or, Outcome.ofExcept_eq_ok_iff, Prog.pure_run, and_false,
    exists_false, or_false, mapError_eq_ok_iff] at member
  obtain ⟨payloadJson, written, signed⟩ := member
  exact ⟨payloadJson, written, (Prog.mem_perform_log _ _ _ _ signed).1⟩

theorem CapJwtSigner.sign_log (payloadJson signature : Bytes)
    (serialised : libs.claimJson.toVec claim = .ok payloadJson)
    (signed : libs.ecdsaSign signer.keyPair nonce (utf8 (signingInput payloadJson)) =
      .ok signature) :
    ((signer.sign libs nonce claim : Prog SignEvent σ CaError String).run state).log =
      [.capJwt claim (utf8 (signingInput payloadJson))] := by
  unfold CapJwtSigner.sign
  rw [serialised, Prog.bind_log_of_ok state _ _ payloadJson rfl rfl]
  dsimp only
  rw [signed, Prog.bind_log_of_ok state _ _ signature rfl rfl]
  rfl

theorem CapJwtSigner.sign_state :
    ((signer.sign libs nonce claim : Prog SignEvent σ CaError String).run state).state =
      state := by
  apply Prog.bind_state_eq
  · rfl
  · intro payloadJson
    apply Prog.bind_state_eq
    · exact Prog.perform_state _ _ _
    · intro signature
      rfl

end Signing

theorem decodeSegment_eq_ok_iff (label : String) (segment bytes : Bytes) :
    decodeSegment libs label segment = .ok bytes ↔ decodeStrict segment = some bytes := by
  unfold decodeSegment
  cases decodeStrict segment with
  | none => simp
  | some decoded => simp

/-- What the verifier accepts: three segments, a signature over the first two,
a payload that decodes to the claim. -/
theorem verifyCapJwt_eq_ok_iff (jwt : String) (publicKey : Bytes) (claim : CapClaim String) :
    verifyCapJwt libs jwt publicKey = .ok claim ↔
      ∃ header payload signature sig payloadJson,
        dot ∉ header ∧ dot ∉ payload ∧
          utf8 jwt = header ++ dot :: (payload ++ dot :: signature) ∧
          decodeStrict signature = some sig ∧
          libs.ecdsaVerify publicKey (header ++ dot :: payload) sig = true ∧
          decodeStrict payload = some payloadJson ∧
          libs.claimJson.fromSlice payloadJson = .ok claim := by
  unfold verifyCapJwt
  constructor
  · intro accepted
    split at accepted
    · rename_i header payload signature cut
      obtain ⟨headerDot, payloadDot, jwtEq⟩ :=
        (splitN_three_iff dot (utf8 jwt) header payload signature).mp cut
      obtain ⟨sig, sigDecoded, accepted⟩ := (except_bind_eq_ok_iff _ _ _).mp accepted
      split at accepted
      · rename_i verified
        obtain ⟨payloadJson, payloadDecoded, read⟩ := (except_bind_eq_ok_iff _ _ _).mp accepted
        exact ⟨header, payload, signature, sig, payloadJson, headerDot, payloadDot, jwtEq,
          (decodeSegment_eq_ok_iff libs _ _ _).mp sigDecoded, verified,
          (decodeSegment_eq_ok_iff libs _ _ _).mp payloadDecoded,
          (mapError_eq_ok_iff _ _ _).mp read⟩
      · cases accepted
    · cases accepted
  · rintro ⟨header, payload, signature, sig, payloadJson, headerDot, payloadDot, jwtEq,
      sigDecoded, verified, payloadDecoded, read⟩
    rw [(splitN_three_iff dot (utf8 jwt) header payload signature).mpr
      ⟨headerDot, payloadDot, jwtEq⟩]
    apply (except_bind_eq_ok_iff _ _ _).mpr
    refine ⟨sig, (decodeSegment_eq_ok_iff libs _ _ _).mpr sigDecoded, ?_⟩
    rw [if_pos verified]
    apply (except_bind_eq_ok_iff _ _ _).mpr
    exact ⟨payloadJson, (decodeSegment_eq_ok_iff libs _ _ _).mpr payloadDecoded,
      (mapError_eq_ok_iff _ _ _).mpr read⟩

theorem verifyCapJwt_tokenText (publicKey payloadJson signature : Bytes)
    (claim : CapClaim String)
    (verifies : libs.ecdsaVerify publicKey (utf8 (signingInput payloadJson)) signature = true)
    (reads : libs.claimJson.fromSlice payloadJson = .ok claim) :
    verifyCapJwt libs (tokenText payloadJson signature) publicKey = .ok claim := by
  rw [utf8_signingInput] at verifies
  exact (verifyCapJwt_eq_ok_iff libs _ _ _).mpr
    ⟨_, _, _, signature, payloadJson, dot_notMem_encode _, dot_notMem_encode _,
      utf8_tokenText payloadJson signature, decodeStrict_encode signature, verifies,
      decodeStrict_encode payloadJson, reads⟩

end AuthScope
