/-
What fits in a frame.

Only the receiver knows the limit.  A sender puts a larger payload on the stream
under a truncated length and reports success, so the two agree exactly on the
payloads within the limit.
-/

import AuthScope.Proto.Framing

set_option autoImplicit false

namespace AuthScope

open ByteText EffectLog ByteStream

variable {ω α : Type}

/-- What a sender and a receiver of one value agree on: a frame that is sent is
read back, and a payload beyond the limit is refused before anything is
written. -/
structure FramesAlike (codec : JsonCodec α) (value : α) (payload : Bytes)
    (sent : Run ω Stream String Unit) (sender : Stream) : Prop where
  readable : sent.outcome = .ok () → ∀ (written : Bytes) (receiver : Stream),
    sent.state.outgoing = sender.outgoing ++ written → receiver.incoming.flatten = written →
    ((recvJson codec : Prog ω Stream String α).run receiver).outcome = .ok value
  refused : maxMsgBytes < payload.length →
    (∃ message, sent.outcome = .err message) ∧ sent.state.outgoing = sender.outgoing

theorem readable_of_fits (codec : JsonCodec α) (value : α) (payload : Bytes)
    (serialised : codec.toVec value = .ok payload) (readBack : codec.fromSlice payload = .ok value)
    (fits : payload.length ≤ maxMsgBytes) (sender : Stream)
    (sent : ((sendJson codec value : Prog ω Stream String Unit).run sender).outcome = .ok ())
    (written : Bytes) (receiver : Stream)
    (writtenEq : ((sendJson codec value : Prog ω Stream String Unit).run sender).state.outgoing =
      sender.outgoing ++ written)
    (arrived : receiver.incoming.flatten = written) :
    ((recvJson codec : Prog ω Stream String α).run receiver).outcome = .ok value := by
  obtain ⟨other, later, otherSerialised, after⟩ := sendJson_of_ok codec value sender sent
  have samePayload : payload = other := Except.ok.inj (serialised.symm.trans otherSerialised)
  subst samePayload
  rw [after] at writtenEq
  have frameEq : frame payload = written := List.append_cancel_left writtenEq
  refine (recvJson_outcome_eq_ok_iff codec receiver value).mpr
    ⟨payload, [], ?_, fits, readBack⟩
  rw [arrived, frameEq, List.append_nil]

/-- Sender and receiver agree on a value exactly when its JSON is within the
limit. -/
theorem framesAlike_iff (codec : JsonCodec α) (value : α) (payload : Bytes)
    (serialised : codec.toVec value = .ok payload)
    (readBack : codec.fromSlice payload = .ok value) :
    (∀ sender : Stream, FramesAlike codec value payload
        ((sendJson codec value : Prog ω Stream String Unit).run sender) sender) ↔
      payload.length ≤ maxMsgBytes := by
  constructor
  · intro alike
    apply Nat.le_of_not_lt
    intro tooLarge
    have reliable := sendJson_run_reliable (ω := ω) codec value payload serialised
      { incoming := [], endMessage := "", writeResults := [], outgoing := [] } rfl
    obtain ⟨⟨message, failed⟩, _⟩ := (alike _).refused tooLarge
    rw [reliable] at failed
    cases failed
  · intro fits sender
    constructor
    · exact readable_of_fits codec value payload serialised readBack fits sender
    · intro tooLarge
      exact absurd fits (Nat.not_le_of_lt tooLarge)

theorem framesAlike_iff_sample :
    FramesAlike JsonForms.responseCodec (.error "refused")
      (CompactJson.toBytes (JsonForms.ofCertResponse (.error "refused")))
      ((sendJson JsonForms.responseCodec (.error "refused") :
        Prog Unit Stream String Unit).run
          { incoming := [], endMessage := "", writeResults := [], outgoing := [] })
      { incoming := [], endMessage := "", writeResults := [], outgoing := [] } :=
  (framesAlike_iff JsonForms.responseCodec (.error "refused") _ rfl
    (JsonForms.responseCodec_roundTrips.fromSlice rfl)).mpr (by decide +kernel) _

theorem exists_text (count : Nat) : ∃ text : String, text.toList.length = count :=
  ⟨String.ofList (List.replicate count 'A'), by rw [String.toList_ofList, List.length_replicate]⟩

theorem response_length (certPem caCertPem : String) :
    certPem.toList.length ≤
        (CompactJson.toBytes (JsonForms.ofCertResponse (.ok certPem caCertPem))).length ∧
      (CompactJson.toBytes (JsonForms.ofCertResponse (.ok certPem caCertPem))).length ≤
        24 * (certPem.toList.length + caCertPem.toList.length) + 400 := by
  have asBytes := CompactJson.length_le_toBytes (JsonForms.ofCertResponse (.ok certPem caCertPem))
  have ofBytes := CompactJson.toBytes_length_le (JsonForms.ofCertResponse (.ok certPem caCertPem))
  have certAtLeast := CompactJson.length_le_renderString certPem
  have certAtMost := CompactJson.renderString_length_le certPem
  have caAtMost := CompactJson.renderString_length_le caCertPem
  have rendered : (CompactJson.render (JsonForms.ofCertResponse (.ok certPem caCertPem))).length =
      (CompactJson.renderString certPem).length + (CompactJson.renderString caCertPem).length +
        42 := by
    have status : (CompactJson.renderString "status").length = 8 := by decide
    have okText : (CompactJson.renderString "ok").length = 4 := by decide
    have certName : (CompactJson.renderString "cert_pem").length = 10 := by decide
    have caName : (CompactJson.renderString "ca_cert_pem").length = 13 := by decide
    simp only [JsonForms.ofCertResponse, CompactJson.render, CompactJson.renderMembers,
      CompactJson.comma, List.length_cons, List.length_append, List.length_nil, if_true,
      reduceCtorEq, if_false, status, okText, certName, caName]
    omega
  rw [rendered] at asBytes ofBytes
  constructor
  · omega
  · omega

/-- A response beyond the limit is reported as sent, and no receiver takes it. -/
theorem oversizedResponse_lost :
    ∃ (response : CertResponse) (payload written : Bytes),
      JsonForms.responseCodec.toVec response = .ok payload ∧ maxMsgBytes < payload.length ∧
      ((sendJson JsonForms.responseCodec response : Prog Unit Stream String Unit).run
          { incoming := [], endMessage := "", writeResults := [], outgoing := [] }).outcome =
        .ok () ∧
      ((sendJson JsonForms.responseCodec response : Prog Unit Stream String Unit).run
          { incoming := [], endMessage := "", writeResults := [],
            outgoing := [] }).state.outgoing = written ∧
      ∃ message, ((recvJson JsonForms.responseCodec : Prog Unit Stream String CertResponse).run
          { incoming := [written], endMessage := "eof", writeResults := [],
            outgoing := [] }).outcome = .err message := by
  obtain ⟨certPem, certLength⟩ := exists_text (maxMsgBytes + 1)
  obtain ⟨large, small⟩ := response_length certPem ""
  have sent := sendJson_run_reliable (ω := Unit) JsonForms.responseCodec (.ok certPem "") _ rfl
    { incoming := [], endMessage := "", writeResults := [], outgoing := [] } rfl
  refine ⟨.ok certPem "", _, _, rfl, by omega, by rw [sent], by rw [sent], ?_⟩
  generalize CompactJson.toBytes (JsonForms.ofCertResponse (.ok certPem "")) = payload
    at large small
  apply recvJson_fails
  rintro ⟨_, within, _⟩
  have header : ofBigEndian (([frame payload] : List Bytes).flatten.take 4) = payload.length := by
    have inHeader : payload.length % 2 ^ 32 % 256 ^ 4 = payload.length := by
      rw [String.toList_empty, List.length_nil] at small
      unfold maxMsgBytes at certLength
      omega
    rw [List.flatten_singleton, frame, List.take_left' (bigEndian_length 4 _),
      ofBigEndian_bigEndian, inHeader]
  change ofBigEndian (([frame payload] : List Bytes).flatten.take 4) ≤ maxMsgBytes at within
  rw [header] at within
  omega

end AuthScope
