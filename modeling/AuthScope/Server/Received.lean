/-
What the peer of a handler can read.

A response that could not be sent whole is followed by the report of that error,
so a peer may get the beginning of one frame and behind it a part of another.
Whatever writes fail, in whatever chunks the rest arrives, and however early the
connection ends: a response that the peer reads is one that the handler decided
on.
-/

import AuthScope.Proto.Splices
import AuthScope.Server.SingleResponse

set_option autoImplicit false

namespace AuthScope

open ByteText EffectLog ByteStream StateMachine

def FailsWith (stream : Stream) (message : String) : Prop :=
  ∃ count, .failsAfter count message ∈ stream.writeResults

theorem sendJson_failsWith {ω α : Type} (codec : JsonCodec α) (value : α) {payload : Bytes}
    (serialised : codec.toVec value = .ok payload) {stream : Stream} {message : String}
    (failed : ((sendJson codec value : Prog ω Stream String Unit).run stream).outcome =
      .err message) : FailsWith stream message := by
  rw [(sendJson_eq (ω := ω) codec value serialised stream).1] at failed
  obtain ⟨incoming, endMessage, writeResults, outgoing⟩ := stream
  -- The results of the header, of the payload and of the flush, one at a time.
  cases writeResults with
  | nil => cases failed
  | cons first results =>
      cases first with
      | failsAfter count error =>
          cases failed
          exact ⟨count, List.mem_cons_self⟩
      | done =>
          cases results with
          | nil => cases failed
          | cons second results =>
              cases second with
              | failsAfter count error =>
                  cases failed
                  exact ⟨count, by simp⟩
              | done =>
                  cases results with
                  | nil => cases failed
                  | cons third results =>
                      cases third with
                      | failsAfter count error =>
                          cases failed
                          exact ⟨count, by simp⟩
                      | done => cases failed

/-- A send whose flush fails has put its whole frame on the stream. -/
theorem sendJson_unflushed {ω α : Type} (codec : JsonCodec α) (value : α) {payload : Bytes}
    (serialised : codec.toVec value = .ok payload) {stream : Stream} {message : String}
    (results : stream.writeResults = [.done, .done, .failsAfter 0 message]) :
    ((sendJson codec value : Prog ω Stream String Unit).run stream).outcome = .err message ∧
      ((sendJson codec value : Prog ω Stream String Unit).run stream).state.outgoing =
        stream.outgoing ++ frame payload := by
  obtain ⟨outcome, state⟩ := sendJson_eq (ω := ω) codec value serialised stream
  obtain ⟨incoming, endMessage, writeResults, outgoing⟩ := stream
  cases results
  rw [outcome, state, frame, ← List.append_assoc]
  exact ⟨rfl, rfl⟩

variable {κ : Type} (libs : Libraries κ) (config : HostConfig) (ca : CertificateAuthority)

/-- The response that reports an error takes less than 256 bytes. -/
def ShortReport (message : String) : Prop :=
  ∀ payload, libs.responseJson.toVec (.error message) = .ok payload → payload.length < 256

def BeginsAnswer (answers : List CertResponse) (bytes : Bytes) : Prop :=
  bytes = [] ∨ ∃ response ∈ answers, ∃ payload, libs.responseJson.toVec response = .ok payload ∧
    bytes <+: frame payload

/-- The beginning of the frame of an answer, and behind one that was cut off the
beginning of a short frame. -/
def WritesAnswers (conn : Connection) : Prop :=
  ∃ first second, conn.stream.outgoing = first ++ second ∧
    BeginsAnswer libs conn.answers first ∧
    (second = [] ∨ first ≠ [] ∧ ∃ report, report.length < 256 ∧ second <+: frame report)

/-- Nothing was written yet, and whatever fails has a short report. -/
structure Unwritten (stream : Stream) : Prop where
  outgoing : stream.outgoing = []
  short : ∀ message, FailsWith stream message → ShortReport libs message

structure OutputInv (conn : Connection) : Prop where
  written : WritesAnswers libs conn
  reading : conn.phase = .reading → Unwritten libs conn.stream
  deciding : ∀ req, conn.phase = .deciding req → Unwritten libs conn.stream
  answering : ∀ response, conn.phase = .answering response → Unwritten libs conn.stream
  reporting : ∀ message, conn.phase = .reporting message →
    BeginsAnswer libs conn.answers conn.stream.outgoing ∧
      (conn.stream.outgoing = [] ∨ ShortReport libs message)

variable {libs}

theorem BeginsAnswer.mono {answers more : List CertResponse} {bytes : Bytes}
    (begins : BeginsAnswer libs answers bytes) (within : answers ⊆ more) :
    BeginsAnswer libs more bytes := by
  rcases begins with nothing | ⟨response, member, payload, serialised, isStart⟩
  · exact Or.inl nothing
  · exact Or.inr ⟨response, within member, payload, serialised, isStart⟩

theorem WritesAnswers.of_begins {conn : Connection}
    (begins : BeginsAnswer libs conn.answers conn.stream.outgoing) : WritesAnswers libs conn :=
  ⟨_, [], (List.append_nil _).symm, begins, Or.inl rfl⟩

theorem OutputInv.of_unwritten {conn : Connection} (unwritten : Unwritten libs conn.stream) :
    OutputInv libs conn where
  written := .of_begins (Or.inl unwritten.outgoing)
  reading := fun _ => unwritten
  deciding := fun _ _ => unwritten
  answering := fun _ _ => unwritten
  reporting := fun _ _ => ⟨Or.inl unwritten.outgoing, Or.inl unwritten.outgoing⟩

theorem unwritten_recvJson {α : Type} (codec : JsonCodec α) {stream : Stream}
    (unwritten : Unwritten libs stream) :
    Unwritten libs ((recvJson codec : Prog SignEvent Stream String α).run stream).state := by
  obtain ⟨left, state⟩ := recvJson_state (ω := SignEvent) codec stream
  rw [state]
  exact ⟨unwritten.outgoing, unwritten.short⟩

theorem WritesAnswers.report {conn : Connection} {message : String} {start : Bytes}
    (begins : BeginsAnswer libs conn.answers conn.stream.outgoing)
    (short : conn.stream.outgoing = [] ∨ ShortReport libs message)
    (reports : BeginsAnswer libs [.error message] start) {later : Connection}
    (answers : later.answers = conn.answers ++ [.error message])
    (written : later.stream.outgoing = conn.stream.outgoing ++ start) :
    WritesAnswers libs later := by
  by_cases nothing : conn.stream.outgoing = []
  · apply WritesAnswers.of_begins
    rw [written, nothing, List.nil_append, answers]
    exact reports.mono (List.subset_append_right _ _)
  · refine ⟨_, start, written, answers ▸ begins.mono (List.subset_append_left _ _), ?_⟩
    rcases reports with silent | ⟨response, member, payload, serialised, isStart⟩
    · exact Or.inl silent
    · rw [List.mem_singleton.mp member] at serialised
      exact Or.inr ⟨nothing, payload, short.resolve_left nothing payload serialised, isStart⟩

/-- A handler reports only what a part of it failed with. -/
theorem outcome_of_reporting {α : Type} {next : α → Phase} {outcome : Outcome String α}
    {message : String} (notNext : ∀ value, next value ≠ .reporting message)
    (reported : Phase.after next outcome = .reporting message) : outcome = .err message := by
  cases outcome with
  | ok value => exact absurd reported (notNext value)
  | err error =>
      cases reported
      rfl
  | panic => cases reported

section Sends

variable (roundTrips : libs.responseJson.RoundTrips)

include roundTrips

theorem send_begins (response : CertResponse) (stream : Stream) :
    ∃ start, ((sendJson libs.responseJson response :
        Prog SignEvent Stream String Unit).run stream).state.outgoing =
          stream.outgoing ++ start ∧
      BeginsAnswer libs [response] start := by
  obtain ⟨payload, serialised, _⟩ := roundTrips response
  obtain ⟨start, isStart, written⟩ :=
    sendJson_begins (ω := SignEvent) libs.responseJson response serialised stream
  exact ⟨start, written, Or.inr ⟨response, List.mem_singleton_self _, payload, serialised,
    isStart⟩⟩

theorem OutputInv.advance {conn : Connection} (inv : OutputInv libs conn)
    (env : SigningEnvironment) : OutputInv libs (conn.advance libs config ca env).1 := by
  unfold Connection.advance
  cases phase : conn.phase with
  | reading => exact .of_unwritten (unwritten_recvJson libs.requestJson (inv.reading phase))
  | deciding req =>
      have unwritten : Unwritten libs
          ((respond libs env config ca conn.peerCid req).run conn.stream).state := by
        rw [respond_state]
        exact inv.deciding req phase
      exact .of_unwritten unwritten
  | answering response =>
      have unwritten := inv.answering response phase
      obtain ⟨start, written, begins⟩ := send_begins roundTrips response conn.stream
      rw [unwritten.outgoing, List.nil_append] at written
      have answered : BeginsAnswer libs (conn.answers ++ [response])
          ((sendJson libs.responseJson response :
            Prog SignEvent Stream String Unit).run conn.stream).state.outgoing := by
        rw [written]
        exact begins.mono (List.subset_append_right _ _)
      constructor
      · exact .of_begins answered
      · intro reading
        exact absurd reading (after_ne (by simp) (by simp) (by simp))
      · intro req deciding
        exact absurd deciding (after_ne (by simp) (by simp) (by simp))
      · intro other answering
        exact absurd answering (after_ne (by simp) (by simp) (by simp))
      · intro message reporting
        refine ⟨answered, Or.inr (unwritten.short message ?_)⟩
        obtain ⟨payload, serialised, _⟩ := roundTrips response
        apply sendJson_failsWith (ω := SignEvent) libs.responseJson response serialised
        have reported : Phase.after (fun _ => .closed) ((sendJson libs.responseJson response :
            Prog SignEvent Stream String Unit).run conn.stream).outcome = .reporting message :=
          reporting
        exact outcome_of_reporting (by simp) reported
  | reporting message =>
      obtain ⟨begins, short⟩ := inv.reporting message phase
      obtain ⟨start, written, reports⟩ := send_begins roundTrips (.error message) conn.stream
      refine ⟨?_, by simp, by simp, by simp, by simp⟩
      exact WritesAnswers.report begins short reports rfl written
  | closed => exact inv

end Sends

/-! ### What is read -/

/-- What is read from a beginning of what was written is an answer. -/
theorem WritesAnswers.reads {conn : Connection} (writes : WritesAnswers libs conn)
    (faithful : libs.responseJson.Faithful) (textual : libs.responseJson.Textual) {ω : Type}
    {stream : Stream} {received : CertResponse}
    (arrived : stream.incoming.flatten <+: conn.stream.outgoing)
    (read : ((recvJson libs.responseJson : Prog ω Stream String CertResponse).run
      stream).outcome = .ok received) : received ∈ conn.answers := by
  obtain ⟨first, second, written, begins, behind⟩ := writes
  rw [written] at arrived
  rcases begins with nothing | ⟨response, member, payload, serialised, isStart⟩
  · have silent : second = [] := behind.resolve_right fun cut => cut.1 nothing
    rw [nothing, silent, List.append_nil, List.prefix_nil] at arrived
    obtain ⟨inner, rest, arrivedEq, _, _⟩ := (recvJson_outcome_eq_ok_iff _ stream received).mp read
    rw [arrived] at arrivedEq
    exact absurd arrivedEq.symm (List.append_ne_nil_of_left_ne_nil (frame_ne_nil inner) rest)
  · have same : received = response := by
      rcases behind with silent | ⟨inhabited, report, short, isReport⟩
      · rw [silent, List.append_nil] at arrived
        exact recvJson_of_start _ faithful serialised stream (arrived.trans isStart) read
      · exact recvJson_of_splice _ faithful textual serialised isStart inhabited isReport short
          stream arrived read
    rw [same]
    exact member

variable {config ca}

/-- Whatever the server does, the output of a handler keeps its form. -/
theorem server_output (roundTrips : libs.responseJson.RoundTrips) {state : ServerState}
    (reached : (server libs config ca).Reachable state) :
    ∀ conn ∈ state.connections, Unwritten libs conn.arrival → OutputInv libs conn := by
  induction reached with
  | start initial =>
      intro conn member
      rw [initial] at member
      cases member
  | @step earlier _ action ih =>
      cases action with
      | accept peerPort peerCid stream =>
          intro conn member unwritten
          rcases List.mem_append.mp member with before | now
          · exact ih conn before unwritten
          · rw [List.mem_singleton.mp now] at unwritten ⊢
            exact .of_unwritten unwritten
      | acceptFailed => exact ih
      | advance index env =>
          cases present : earlier.connections[index]? with
          | none =>
              simp only [server, serverNext, present]
              exact ih
          | some stepped =>
              simp only [server, serverNext, present]
              intro conn member unwritten
              rcases List.mem_or_eq_of_mem_set member with before | same
              · exact ih conn before unwritten
              · subst same
                rw [(advance_samePeer libs config ca env stepped).arrival] at unwritten
                exact (ih stepped (List.mem_of_getElem? present) unwritten).advance config ca
                  roundTrips env

/-- A response that the peer of a connection reads was decided on by its handler,
and a certificate among them is one that the policy grants. -/
theorem response_read_was_decided (faithful : libs.responseJson.Faithful)
    (textual : libs.responseJson.Textual) (state : ServerState)
    (reached : (server libs config ca).Reachable state) (conn : Connection)
    (member : conn ∈ state.connections) (fresh : conn.arrival.outgoing = [])
    (short : ∀ count message, .failsAfter count message ∈ conn.arrival.writeResults →
      ShortReport libs message) (ω : Type) (stream : Stream)
    (arrived : stream.incoming.flatten <+: conn.stream.outgoing) (received : CertResponse)
    (read : ((recvJson libs.responseJson : Prog ω Stream String CertResponse).run
      stream).outcome = .ok received) :
    received ∈ conn.answers ∧ Justified libs config ca conn received := by
  have unwritten : Unwritten libs conn.arrival := by
    refine ⟨fresh, ?_⟩
    intro message failure
    obtain ⟨count, fails⟩ := failure
    exact short count message fails
  have output := server_output faithful.roundTrips reached conn member unwritten
  have answered := output.written.reads faithful textual arrived read
  obtain ⟨index, present⟩ := List.mem_iff_getElem?.mp member
  exact ⟨answered, ((server_inv reached).connections index conn present).answered _ answered⟩

namespace Reference

def foreignRequest : CertRequest := { sampleCertRequest with version := 2 }

def foreignStream : Stream :=
  { streamOf foreignRequest with writeResults := [.done, .done, .failsAfter 0 "interrupted"] }

def foreignAnswer : CertResponse := .error (unsupportedVersion 2)

theorem response_written (response : CertResponse) :
    (libraries everything).responseJson.toVec response =
      .ok (CompactJson.toBytes (JsonForms.ofCertResponse response)) := rfl

theorem foreign_outgoing :
    ∃ rest, ((handleConnection (libraries everything) sampleEnv sampleConfig (authority sampleKey)
        3).run foreignStream).state.outgoing =
      frame (CompactJson.toBytes (JsonForms.ofCertResponse foreignAnswer)) ++ rest := by
  have received : Received foreignStream (libraries everything) foreignRequest :=
    received_of_frame everything foreignRequest (by decide +kernel) rfl
  have answer (state : Stream) : ((respond (libraries everything) sampleEnv sampleConfig
      (authority sampleKey) 3 foreignRequest :
        Prog SignEvent Stream String CertResponse).run state).outcome = .ok foreignAnswer := by
    unfold respond
    rw [if_pos (by decide)]
    rfl
  obtain ⟨left, afterRead⟩ := afterRequest_eq foreignStream (libraries everything)
  obtain ⟨outcome, state⟩ := handleInner_of_answer received (answer _)
  have results : (afterRequest foreignStream (libraries everything)).writeResults =
      [.done, .done, .failsAfter 0 "interrupted"] := by
    rw [afterRead]
    rfl
  obtain ⟨failed, sent⟩ := sendJson_unflushed (ω := SignEvent)
    (libraries everything).responseJson foreignAnswer (response_written foreignAnswer) results
  rw [failed] at outcome
  obtain ⟨rest, _, written⟩ := sendJson_begins (ω := SignEvent) (libraries everything).responseJson
    (.error "interrupted") (response_written (.error "interrupted"))
    ((handleInner (libraries everything) sampleEnv sampleConfig (authority sampleKey) 3).run
      foreignStream).state
  have unread : (afterRequest foreignStream (libraries everything)).outgoing = [] := by
    rw [afterRead]
    rfl
  refine ⟨rest, ?_⟩
  rw [(handleConnection_run_of_err foreignStream outcome).2, written, state, sent, unread,
    List.nil_append]

theorem foreign_short (count : Nat) (message : String)
    (fails : .failsAfter count message ∈ foreignStream.writeResults) :
    ShortReport (libraries everything) message := by
  have interrupted : message = "interrupted" := by
    rcases List.mem_cons.mp fails with impossible | fails
    · cases impossible
    · rcases List.mem_cons.mp fails with impossible | fails
      · cases impossible
      · cases List.mem_singleton.mp fails
        rfl
  intro payload serialised
  rw [response_written, interrupted] at serialised
  rw [← Except.ok.inj serialised]
  decide +kernel

def endOf (bytes : Bytes) : Stream :=
  { incoming := [bytes], endMessage := "", writeResults := [], outgoing := [] }

theorem endOf_incoming (bytes : Bytes) : (endOf bytes).incoming.flatten = bytes :=
  List.flatten_singleton

/-- What comes behind a response does not matter to its reader. -/
theorem response_read (ω : Type) (response : CertResponse)
    (fits : (CompactJson.toBytes (JsonForms.ofCertResponse response)).length ≤ maxMsgBytes)
    (rest : Bytes) :
    ((recvJson (libraries everything).responseJson :
      Prog ω Stream String CertResponse).run
        (endOf (frame (CompactJson.toBytes (JsonForms.ofCertResponse response)) ++
          rest))).outcome = .ok response :=
  (recvJson_outcome_eq_ok_iff _ _ _).mpr ⟨_, rest, endOf_incoming _, fits,
    JsonForms.responseCodec_roundTrips.fromSlice (response_written response)⟩

end Reference

open Reference in
theorem response_read_was_decided_sample :
    ∃ (state : ServerState) (conn : Connection),
      (server (libraries everything) sampleConfig (authority sampleKey)).Reachable state ∧
      conn ∈ state.connections ∧ conn.arrival = foreignStream ∧ foreignAnswer ∈ conn.answers := by
  obtain ⟨state, conn, reached, connections, same⟩ := reachable_accept
    (.start rfl : (server (libraries everything) sampleConfig (authority sampleKey)).Reachable
      { connections := [], signatures := [] }) sampleEnv 4 901 3 foreignStream
  have finishes := @finishes_handleConnection _ (libraries everything) sampleConfig
    (authority sampleKey) sampleEnv (acceptConnection sampleConfig 901 3 foreignStream)
    (acceptConnection_phase 901 3 _ rfl)
  obtain ⟨rest, outgoing⟩ := foreign_outgoing
  have written : conn.stream.outgoing =
      frame (CompactJson.toBytes (JsonForms.ofCertResponse foreignAnswer)) ++ rest := by
    rw [same, finishes.stream, acceptConnection_peerCid, acceptConnection_stream]
    exact outgoing
  have arrival : conn.arrival = foreignStream := by
    rw [same]
    exact (advanceMany_samePeer _ _ _).arrival
  have member : conn ∈ state.connections := by
    rw [connections]
    exact List.mem_append_right _ (List.mem_singleton_self _)
  have short : ∀ count message, .failsAfter count message ∈ conn.arrival.writeResults →
      ShortReport (libraries everything) message := by
    intro count message fails
    rw [arrival] at fails
    exact foreign_short count message fails
  have read := response_read SignEvent foreignAnswer (by decide +kernel) rest
  rw [← written] at read
  have decided := response_read_was_decided JsonForms.responseCodec_faithful
    JsonForms.responseCodec_textual state reached conn member (by rw [arrival]; rfl) short
    SignEvent (endOf conn.stream.outgoing) (endOf_incoming _ ▸ List.prefix_refl _) foreignAnswer
    read
  exact ⟨state, conn, reached, member, arrival, decided.1⟩

end AuthScope
