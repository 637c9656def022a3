/-
Whether a connection carries one response.

A response whose frame was begun and not completed is followed by the report of
that failure, as far as the stream takes it.  The peer then gets the beginning of
one frame and a part of another one.
-/

import AuthScope.Server.Issuance
import AuthScope.Server.Replies

set_option autoImplicit false

namespace AuthScope

open ByteText EffectLog ByteStream

/-- The frame of a response is begun and stops at its header, its payload or the
flush; how the writes after that end. -/
def interrupted : List WriteResult → Option (List WriteResult)
  | .failsAfter (_ + 1) _ :: later => some later
  | .done :: .failsAfter _ _ :: later => some later
  | .done :: .done :: .failsAfter _ _ :: later => some later
  | _ => none

/-- The next write puts nothing on the stream. -/
def silent : List WriteResult → Bool
  | .failsAfter 0 _ :: _ => true
  | _ => false

section Frames

variable {ω α : Type} (codec : JsonCodec α) (value : α) {payload : Bytes}

theorem header_ne_nil (payload : Bytes) : bigEndian 4 (payload.length % 2 ^ 32) ≠ [] := by
  apply List.ne_nil_of_length_pos
  rw [bigEndian_length]
  decide

theorem frame_ne_nil (payload : Bytes) : frame payload ≠ [] :=
  List.append_ne_nil_of_left_ne_nil (header_ne_nil payload) _

theorem sendJson_eq (serialised : codec.toVec value = .ok payload) (stream : Stream) :
    ((sendJson codec value : Prog ω Stream String Unit).run stream).outcome =
        ((writeAll (bigEndian 4 (payload.length % 2 ^ 32)) >>= fun _ =>
          writeAll payload >>= fun _ => flush : Prog ω Stream String Unit).run stream).outcome ∧
      ((sendJson codec value : Prog ω Stream String Unit).run stream).state =
        ((writeAll (bigEndian 4 (payload.length % 2 ^ 32)) >>= fun _ =>
          writeAll payload >>= fun _ => flush : Prog ω Stream String Unit).run stream).state := by
  have returned : ((Prog.liftExcept (codec.toVec value) :
      Prog ω Stream String Bytes).run stream).outcome = .ok payload := by
    rw [serialised]
    rfl
  unfold sendJson
  rw [Prog.bind_run_of_ok stream _ _ payload returned]
  exact ⟨rfl, rfl⟩

/-- A frame that is interrupted leaves a beginning of it that is not empty. -/
theorem sendJson_interrupted (serialised : codec.toVec value = .ok payload) {stream : Stream}
    {later : List WriteResult} (stops : interrupted stream.writeResults = some later) :
    ∃ message start, start ≠ [] ∧ start <+: frame payload ∧
      ((sendJson codec value : Prog ω Stream String Unit).run stream).outcome = .err message ∧
      ((sendJson codec value : Prog ω Stream String Unit).run stream).state =
        { stream with writeResults := later, outgoing := stream.outgoing ++ start } := by
  obtain ⟨outcome, state⟩ := sendJson_eq (ω := ω) codec value serialised stream
  rw [outcome, state]
  obtain ⟨incoming, endMessage, writeResults, outgoing⟩ := stream
  have header := header_ne_nil payload
  match writeResults, stops with
  | .failsAfter (count + 1) message :: rest, stops =>
      cases stops
      refine ⟨message, (bigEndian 4 (payload.length % 2 ^ 32)).take (count + 1), ?_, ?_, rfl, rfl⟩
      · simpa using header
      · exact (List.take_prefix _ _).trans (List.prefix_append _ _)
  | .done :: .failsAfter count message :: rest, stops =>
      cases stops
      refine ⟨message, bigEndian 4 (payload.length % 2 ^ 32) ++ payload.take count, ?_, ?_, rfl, ?_⟩
      · exact List.append_ne_nil_of_left_ne_nil header _
      · exact (List.prefix_append_right_inj _).mpr (List.take_prefix _ _)
      · rw [← List.append_assoc]
        rfl
  | .done :: .done :: .failsAfter count message :: rest, stops =>
      cases stops
      refine ⟨message, frame payload, List.append_ne_nil_of_left_ne_nil header _,
        List.prefix_refl _, rfl, ?_⟩
      rw [frame, ← List.append_assoc]
      rfl

theorem sendJson_uninterrupted (serialised : codec.toVec value = .ok payload) {stream : Stream}
    (goesOn : interrupted stream.writeResults = none) :
    (silent stream.writeResults = false ∧
        ((sendJson codec value : Prog ω Stream String Unit).run stream).outcome = .ok () ∧
        ((sendJson codec value : Prog ω Stream String Unit).run stream).state.outgoing =
          stream.outgoing ++ frame payload) ∨
      silent stream.writeResults = true ∧ ∃ message,
        ((sendJson codec value : Prog ω Stream String Unit).run stream).outcome = .err message ∧
        ((sendJson codec value : Prog ω Stream String Unit).run stream).state.outgoing =
          stream.outgoing := by
  obtain ⟨outcome, state⟩ := sendJson_eq (ω := ω) codec value serialised stream
  rw [outcome, state, frame, ← List.append_assoc]
  obtain ⟨incoming, endMessage, writeResults, outgoing⟩ := stream
  -- The results of the header, of the payload and of the flush, one at a time.
  cases writeResults with
  | nil => exact Or.inl ⟨rfl, rfl, rfl⟩
  | cons first results =>
      cases first with
      | failsAfter count message =>
          cases count with
          | zero => exact Or.inr ⟨rfl, message, rfl, List.append_nil _⟩
          | succ count => cases goesOn
      | done =>
          cases results with
          | nil => exact Or.inl ⟨rfl, rfl, rfl⟩
          | cons second results =>
              cases second with
              | failsAfter count message => cases goesOn
              | done =>
                  cases results with
                  | nil => exact Or.inl ⟨rfl, rfl, rfl⟩
                  | cons third results =>
                      cases third with
                      | failsAfter count message => cases goesOn
                      | done => exact Or.inl ⟨rfl, rfl, rfl⟩

theorem sendJson_begins (serialised : codec.toVec value = .ok payload) (stream : Stream) :
    ∃ written, written <+: frame payload ∧
      ((sendJson codec value : Prog ω Stream String Unit).run stream).state.outgoing =
        stream.outgoing ++ written := by
  cases stops : interrupted stream.writeResults with
  | some later =>
      obtain ⟨message, start, _, isStart, _, state⟩ :=
        sendJson_interrupted (ω := ω) codec value serialised stops
      exact ⟨start, isStart, by rw [state]⟩
  | none =>
      rcases sendJson_uninterrupted (ω := ω) codec value serialised stops with
        ⟨_, _, sent⟩ | ⟨_, message, _, same⟩
      · exact ⟨_, List.prefix_refl _, sent⟩
      · exact ⟨[], List.nil_prefix, by rw [same, List.append_nil]⟩

/-- A send puts nothing on a stream exactly when its first write does not. -/
theorem sendJson_silent_iff (serialised : codec.toVec value = .ok payload) (stream : Stream) :
    ((sendJson codec value : Prog ω Stream String Unit).run stream).state.outgoing =
        stream.outgoing ↔
      silent stream.writeResults = true := by
  cases stops : interrupted stream.writeResults with
  | some later =>
      obtain ⟨message, start, nonempty, _, _, state⟩ :=
        sendJson_interrupted (ω := ω) codec value serialised stops
      rw [state]
      constructor
      · intro same
        exact absurd (List.append_right_eq_self.mp same) nonempty
      · intro quiet
        unfold silent at quiet
        split at quiet
        · rename_i results
          rw [results] at stops
          cases stops
        · cases quiet
  | none =>
      rcases sendJson_uninterrupted (ω := ω) codec value serialised stops with
        ⟨loud, _, sent⟩ | ⟨quiet, message, _, same⟩
      · rw [sent, loud]
        simp [frame_ne_nil]
      · rw [same, quiet]
        simp

end Frames

/-! ### Connections -/

section Connection

variable {κ : Type} (libs : Libraries κ) (env : SigningEnvironment) (config : HostConfig)
  (ca : CertificateAuthority) (peerCid : UInt32)

/-- A request that gets a response of its own: one of another version, one that
the policy does not know, or an authorised one that can be signed. -/
def Answerable (req : CertRequest) : Prop :=
  req.version ≠ protocolVersion ∨ resolve config req.vmName req.entity = none ∨
    ∃ vmEntry policy, Authorised config peerCid req vmEntry policy ∧
      ∃ issuance : Issuance κ, issuance.Valid libs env ca
        (signingRequest peerCid req (decisionOf config req.vmName vmEntry policy))

/-- What the handler writes is the beginning of the frame of a response, and the
outer handler adds nothing to what the inner one wrote. -/
def OneResponse (stream : Stream) : Prop :=
  (∃ response payload written, libs.responseJson.toVec response = .ok payload ∧
    written <+: frame payload ∧
    ((handleConnection libs env config ca peerCid).run stream).state.outgoing =
      stream.outgoing ++ written) ∧
    (((handleInner libs env config ca peerCid).run stream).state.outgoing = stream.outgoing ∨
      ((handleConnection libs env config ca peerCid).run stream).state.outgoing =
        ((handleInner libs env config ca peerCid).run stream).state.outgoing)

variable {libs env config ca peerCid}

/-- A request is answerable exactly when the handler decides on a response. -/
theorem respond_ok_iff (state : Stream) (req : CertRequest) :
    (∃ response, ((respond libs env config ca peerCid req :
        Prog SignEvent Stream String CertResponse).run state).outcome = .ok response) ↔
      Answerable libs env config ca peerCid req := by
  unfold Answerable
  by_cases version : req.version = protocolVersion
  · cases resolved : resolve config req.vmName req.entity with
    | none =>
        have unknown : (respond libs env config ca peerCid req :
            Prog SignEvent Stream String CertResponse) =
              pure (.error (notAuthorised req.vmName req.entity)) := by
          unfold respond
          rw [if_neg (not_not.mpr version), resolved]
        rw [unknown]
        simp
    | some decision =>
        by_cases granted : ∃ vmEntry policy, Authorised config peerCid req vmEntry policy
        · constructor
          · rintro ⟨response, answered⟩
            obtain ⟨vmEntry, policy, authorised⟩ := granted
            rw [respond_of_authorised req authorised] at answered
            simp only [Prog.bind_outcome_eq_ok_iff, Prog.mapErr_run, Outcome.mapErr_eq_ok_iff]
              at answered
            obtain ⟨certPem, signed, _⟩ := answered
            obtain ⟨issuance, valid, _⟩ := (signCsr_outcome state env ca _ certPem).mp signed
            exact Or.inr (Or.inr ⟨vmEntry, policy, authorised, issuance, valid⟩)
          · rintro (other | impossible | ⟨vmEntry, policy, authorised, issuance, valid⟩)
            · exact absurd version other
            · cases impossible
            · exact ⟨_, (respond_eq_ok_iff state req _ _).mpr
                ⟨vmEntry, policy, authorised, rfl, issuance, valid, rfl⟩⟩
        · have foreign : decision.vmCid ≠ peerCid := by
            intro same
            obtain ⟨vmEntry, policy, vm, entity, decisionEq⟩ :=
              (resolve_eq_some_iff config _ _ _).mp resolved
            rw [decisionEq] at same
            exact granted ⟨vmEntry, policy, version, vm, entity, same⟩
          have refused : (respond libs env config ca peerCid req :
              Prog SignEvent Stream String CertResponse) = Prog.throw cidVerificationFailed := by
            unfold respond
            rw [if_neg (not_not.mpr version), resolved]
            dsimp only
            rw [if_pos foreign]
          rw [refused]
          constructor
          · rintro ⟨response, impossible⟩
            cases impossible
          · rintro (other | impossible | ⟨vmEntry, policy, authorised, _⟩)
            · exact absurd version other
            · cases impossible
            · exact absurd ⟨vmEntry, policy, authorised⟩ granted
  · have unsupported : (respond libs env config ca peerCid req :
        Prog SignEvent Stream String CertResponse) =
          pure (.error (unsupportedVersion req.version)) := by
      unfold respond
      rw [if_pos version]
    rw [unsupported]
    simp [version]

variable (roundTrips : libs.responseJson.RoundTrips) {stream : Stream}

include roundTrips

theorem oneResponse_of_err {message : String}
    (failed : ((handleInner libs env config ca peerCid).run stream).outcome = .err message)
    (unwritten : ((handleInner libs env config ca peerCid).run stream).state.outgoing =
      stream.outgoing) : OneResponse libs env config ca peerCid stream := by
  obtain ⟨payload, serialised, _⟩ := roundTrips (.error message)
  obtain ⟨written, isStart, sent⟩ := sendJson_begins (ω := SignEvent) libs.responseJson
    (.error message) serialised ((handleInner libs env config ca peerCid).run stream).state
  refine ⟨⟨_, payload, written, serialised, isStart, ?_⟩, Or.inl unwritten⟩
  rw [(handleConnection_run_of_err stream failed).2, sent, unwritten]

/-- A response whose send is interrupted stays alone exactly when the stream
does not take the report. -/
theorem oneResponse_of_interrupted {req : CertRequest} (received : Received stream libs req)
    {response : CertResponse}
    (answer : ((respond libs env config ca peerCid req :
      Prog SignEvent Stream String CertResponse).run (afterRequest stream libs)).outcome =
        .ok response)
    {later : List WriteResult} (stops : interrupted stream.writeResults = some later) :
    OneResponse libs env config ca peerCid stream ↔ silent later = true := by
  obtain ⟨payload, serialised, _⟩ := roundTrips response
  obtain ⟨left, afterRead⟩ := afterRequest_eq stream libs
  have unread : (afterRequest stream libs).outgoing = stream.outgoing := by rw [afterRead]
  have results : (afterRequest stream libs).writeResults = stream.writeResults := by
    rw [afterRead]
  rw [← results] at stops
  obtain ⟨message, start, nonempty, isStart, failed, state⟩ :=
    sendJson_interrupted (ω := SignEvent) libs.responseJson response serialised stops
  obtain ⟨innerOutcome, innerState⟩ := handleInner_of_answer received answer
  rw [failed] at innerOutcome
  rw [state] at innerState
  have begun : ((handleInner libs env config ca peerCid).run stream).state.outgoing =
      stream.outgoing ++ start := by rw [innerState, unread]
  have remaining : ((handleInner libs env config ca peerCid).run stream).state.writeResults =
      later := by rw [innerState]
  obtain ⟨report, reportSerialised, _⟩ := roundTrips (.error message)
  have unreported := sendJson_silent_iff (ω := SignEvent) libs.responseJson (.error message)
    reportSerialised ((handleInner libs env config ca peerCid).run stream).state
  rw [remaining, ← (handleConnection_run_of_err stream innerOutcome).2] at unreported
  constructor
  · rintro ⟨_, unwritten | alone⟩
    · rw [begun] at unwritten
      exact absurd (List.append_right_eq_self.mp unwritten) nonempty
    · exact unreported.mp alone
  · intro quiet
    have alone := unreported.mpr quiet
    refine ⟨⟨response, payload, start, serialised, isStart, ?_⟩, Or.inr alone⟩
    rw [alone, begun]

theorem oneResponse_of_uninterrupted {req : CertRequest} (received : Received stream libs req)
    {response : CertResponse}
    (answer : ((respond libs env config ca peerCid req :
      Prog SignEvent Stream String CertResponse).run (afterRequest stream libs)).outcome =
        .ok response)
    (goesOn : interrupted stream.writeResults = none) :
    OneResponse libs env config ca peerCid stream := by
  obtain ⟨payload, serialised, _⟩ := roundTrips response
  obtain ⟨left, afterRead⟩ := afterRequest_eq stream libs
  have unread : (afterRequest stream libs).outgoing = stream.outgoing := by rw [afterRead]
  have results : (afterRequest stream libs).writeResults = stream.writeResults := by
    rw [afterRead]
  rw [← results] at goesOn
  obtain ⟨innerOutcome, innerState⟩ := handleInner_of_answer received answer
  rcases sendJson_uninterrupted (ω := SignEvent) libs.responseJson response serialised goesOn with
    ⟨_, returned, sent⟩ | ⟨_, message, failed, same⟩
  · rw [returned] at innerOutcome
    have state := (handleConnection_run_of_ok stream innerOutcome).2
    refine ⟨⟨response, payload, _, serialised, List.prefix_refl _, ?_⟩, Or.inr (by rw [state])⟩
    rw [state, innerState, sent, unread]
  · rw [failed] at innerOutcome
    apply oneResponse_of_err roundTrips innerOutcome
    rw [innerState, same, unread]

/-- The condition under which a connection carries one response: a send that is
interrupted is followed by a write that puts nothing on the stream. -/
theorem oneResponse_iff :
    OneResponse libs env config ca peerCid stream ↔
      ∀ req, Received stream libs req → Answerable libs env config ca peerCid req →
        ∀ later, interrupted stream.writeResults = some later → silent later = true := by
  obtain ⟨left, afterRead⟩ := afterRequest_eq stream libs
  have unread : (afterRequest stream libs).outgoing = stream.outgoing := by rw [afterRead]
  constructor
  · intro alone req received answerable later stops
    obtain ⟨response, answer⟩ := (respond_ok_iff (afterRequest stream libs) req).mpr answerable
    exact (oneResponse_of_interrupted roundTrips received answer stops).mp alone
  · intro quiet
    cases read : ((recvJson libs.requestJson :
        Prog SignEvent Stream String CertRequest).run stream).outcome with
    | ok req =>
        have received : Received stream libs req := read
        cases decided : ((respond libs env config ca peerCid req :
            Prog SignEvent Stream String CertResponse).run (afterRequest stream libs)).outcome with
        | ok response =>
            have answerable := (respond_ok_iff (afterRequest stream libs) req).mp ⟨_, decided⟩
            cases stops : interrupted stream.writeResults with
            | some later =>
                exact (oneResponse_of_interrupted roundTrips received decided stops).mpr
                  (quiet req received answerable later stops)
            | none => exact oneResponse_of_uninterrupted roundTrips received decided stops
        | err message =>
            obtain ⟨outcome, state⟩ := handleInner_of_refusal received decided
            exact oneResponse_of_err roundTrips outcome (by rw [state, unread])
        | panic =>
            obtain ⟨outcome, state⟩ := handleInner_of_abort received decided
            have outer := (handleConnection_run_of_panic stream outcome).2
            obtain ⟨payload, serialised, _⟩ := roundTrips (.error "")
            refine ⟨⟨_, payload, [], serialised, List.nil_prefix, ?_⟩, Or.inr (by rw [outer])⟩
            rw [outer, state, unread, List.append_nil]
    | err message =>
        obtain ⟨outcome, state⟩ := @handleInner_of_not_received κ libs env config ca peerCid stream
          message read
        exact oneResponse_of_err roundTrips outcome (by rw [state, unread])
    | panic => exact absurd read (recvJson_ne_panic _ _)

end Connection

namespace Reference

def streamWith (writeResults : List WriteResult) : Stream :=
  { streamOf sampleCertRequest with writeResults }

theorem received_streamWith (writeResults : List WriteResult) :
    Received (streamWith writeResults) (libraries everything) sampleCertRequest :=
  received_of_frame everything sampleCertRequest (by decide +kernel) rfl

theorem sample_answer (state : Stream) :
    ((respond (libraries everything) sampleEnv sampleConfig (authority sampleKey) 3
      sampleCertRequest : Prog SignEvent Stream String CertResponse).run state).outcome =
        .ok (.ok (sampleIssuance.pem (libraries everything)) (authority sampleKey).certPem) := by
  refine (respond_eq_ok_iff state sampleCertRequest _ _).mpr
    ⟨sampleVmEntry, samplePolicy, sampleCertRequest_authorised, rfl, sampleIssuance, ?_, rfl⟩
  rw [sampleSigningRequest]
  exact sampleIssuance_valid (admits_everything _ _ _ _)

end Reference

open Reference in
theorem oneResponse_iff_sample :
    OneResponse (libraries everything) sampleEnv sampleConfig (authority sampleKey) 3
      (streamWith [.done, .failsAfter 2 "broken pipe", .failsAfter 0 "broken pipe"]) := by
  refine (oneResponse_iff JsonForms.responseCodec_roundTrips).mpr ?_
  intro req _ _ later stops
  cases stops
  rfl

open Reference in
/-- The flush behind a certificate fails and the stream goes on: the peer gets
the certificate and an error. -/
theorem error_after_certificate :
    ¬OneResponse (libraries everything) sampleEnv sampleConfig (authority sampleKey) 3
      (streamWith [.done, .done, .failsAfter 0 "interrupted"]) := by
  intro alone
  have stops : interrupted [.done, .done, .failsAfter 0 "interrupted"] = some [] := rfl
  have quiet := (oneResponse_of_interrupted JsonForms.responseCodec_roundTrips
    (received_streamWith _) (sample_answer _) stops).mp alone
  cases quiet

end AuthScope
