/-
Exactness of the framing.

The receiver accepts a byte stream exactly when it starts with a frame within
the limit whose payload deserialises, and it consumes exactly that frame.  A
conversation that mixes requests and responses, each sent with the codec of its
own type, is therefore read back message by message, however its bytes are cut
into chunks and whatever follows them.
-/

import AuthScope.Proto.JsonForms

set_option autoImplicit false

namespace AuthScope

open ByteText EffectLog ByteStream

variable {ω : Type}

/-- The accepted streams and what a receive leaves of them. -/
theorem recvJson_exact {α : Type} (codec : JsonCodec α) (stream : Stream) (value : α)
    (rest : Bytes) :
    (((recvJson codec : Prog ω Stream String α).run stream).outcome = .ok value ∧
        ((recvJson codec : Prog ω Stream String α).run stream).state.incoming.flatten = rest) ↔
      ∃ payload : Bytes,
        stream.incoming.flatten = bigEndian 4 payload.length ++ payload ++ rest ∧
          payload.length ≤ maxMsgBytes ∧ codec.fromSlice payload = .ok value := by
  constructor
  · rintro ⟨returned, restEq⟩
    obtain ⟨payload, after, arrived, fits, read⟩ :=
      (recvJson_outcome_eq_ok_iff codec stream value).mp returned
    obtain ⟨left, leftEq, run⟩ :=
      recvJson_run_of_frame (ω := ω) codec stream payload after arrived fits
    rw [run] at restEq
    change left.flatten = rest at restEq
    rw [leftEq] at restEq
    subst restEq
    rw [frame_of_fits payload fits] at arrived
    exact ⟨payload, arrived, fits, read⟩
  · rintro ⟨payload, arrived, fits, read⟩
    rw [← frame_of_fits payload fits] at arrived
    obtain ⟨left, leftEq, run⟩ :=
      recvJson_run_of_frame (ω := ω) codec stream payload rest arrived fits
    rw [run, read]
    exact ⟨rfl, leftEq⟩

theorem not_holdsFrame_of_start (payload start : Bytes) (stream : Stream)
    (fits : payload.length ≤ maxMsgBytes) (arrived : stream.incoming.flatten = start)
    (isStart : start <+: bigEndian 4 payload.length ++ payload)
    (proper : start ≠ bigEndian 4 payload.length ++ payload) : ¬HoldsFrame stream := by
  rintro ⟨header, _within, whole⟩
  rw [arrived] at header whole
  obtain ⟨missing, startEq⟩ := isStart
  have small : payload.length < 256 ^ 4 := by
    unfold maxMsgBytes at fits
    omega
  have headerEq : start.take 4 = bigEndian 4 payload.length := by
    have sameTake := congrArg (List.take 4) startEq
    rw [List.take_append_of_le_length header,
      List.take_left' (bigEndian_length 4 payload.length)] at sameTake
    exact sameTake
  have lengthEq : ofBigEndian (start.take 4) = payload.length := by
    rw [headerEq, ofBigEndian_bigEndian, Nat.mod_eq_of_lt small]
  have lengths := congrArg List.length startEq
  rw [List.length_append, List.length_append, bigEndian_length] at lengths
  rw [lengthEq] at whole
  have nothingMissing : missing = [] := List.length_eq_zero_iff.mp (by omega)
  rw [nothingMissing, List.append_nil] at startEq
  exact proper startEq

inductive WireKind where
  | request
  | response
  deriving DecidableEq, Repr

inductive WireMessage where
  | request (message : CertRequest)
  | response (message : CertResponse)
  deriving DecidableEq, Repr

def WireMessage.kind : WireMessage → WireKind
  | .request _ => .request
  | .response _ => .response

structure WireCodecs where
  request : JsonCodec CertRequest
  response : JsonCodec CertResponse

namespace WireCodecs

variable (codecs : WireCodecs)

def sendMessage : WireMessage → Prog ω Stream String Unit
  | .request message => sendJson codecs.request message
  | .response message => sendJson codecs.response message

def recvMessage : WireKind → Prog ω Stream String WireMessage
  | .request => do return .request (← recvJson codecs.request)
  | .response => do return .response (← recvJson codecs.response)

def sendAll : List WireMessage → Prog ω Stream String Unit
  | [] => pure ()
  | message :: rest => do
      codecs.sendMessage message
      sendAll rest

def recvAll : List WireKind → Prog ω Stream String (List WireMessage)
  | [] => pure []
  | kind :: rest => do
      let message ← codecs.recvMessage kind
      let messages ← recvAll rest
      return message :: messages

def payloadOf : WireMessage → Except String Bytes
  | .request message => codecs.request.toVec message
  | .response message => codecs.response.toVec message

def RoundTrips : Prop := codecs.request.RoundTrips ∧ codecs.response.RoundTrips

def Fits (message : WireMessage) : Prop :=
  ∀ payload, codecs.payloadOf message = .ok payload → payload.length ≤ maxMsgBytes

variable {codecs}

theorem RoundTrips.payload (roundTrips : codecs.RoundTrips) (message : WireMessage) :
    ∃ payload, codecs.payloadOf message = .ok payload := by
  cases message with
  | request message =>
      obtain ⟨payload, written, _⟩ := roundTrips.1 message
      exact ⟨payload, written⟩
  | response message =>
      obtain ⟨payload, written, _⟩ := roundTrips.2 message
      exact ⟨payload, written⟩

theorem sendMessage_of_ok (message : WireMessage) (stream : Stream)
    (sent : ((codecs.sendMessage message : Prog ω Stream String Unit).run stream).outcome =
      .ok ()) :
    ∃ payload later, codecs.payloadOf message = .ok payload ∧
      ((codecs.sendMessage message : Prog ω Stream String Unit).run stream).state =
        { stream with
          writeResults := later
          outgoing := stream.outgoing ++ frame payload } := by
  cases message with
  | request message => exact sendJson_of_ok codecs.request message stream sent
  | response message => exact sendJson_of_ok codecs.response message stream sent

theorem sendMessage_run_reliable (message : WireMessage) (payload : Bytes)
    (written : codecs.payloadOf message = .ok payload) (stream : Stream)
    (reliable : stream.Reliable) :
    (codecs.sendMessage message : Prog ω Stream String Unit).run stream =
      { outcome := .ok ()
        state := { stream with outgoing := stream.outgoing ++ frame payload }
        log := [] } := by
  cases message with
  | request message =>
      exact sendJson_run_reliable codecs.request message payload written stream reliable
  | response message =>
      exact sendJson_run_reliable codecs.response message payload written stream reliable

theorem recvMessage_run (roundTrips : codecs.RoundTrips) (message : WireMessage)
    (payload rest : Bytes) (written : codecs.payloadOf message = .ok payload)
    (fits : payload.length ≤ maxMsgBytes) (stream : Stream)
    (arrived : stream.incoming.flatten = frame payload ++ rest) :
    ∃ left, left.flatten = rest ∧
      (codecs.recvMessage message.kind : Prog ω Stream String WireMessage).run stream =
        { outcome := .ok message, state := { stream with incoming := left }, log := [] } := by
  cases message with
  | request message =>
      obtain ⟨left, leftEq, run⟩ :=
        recvJson_run_of_frame (ω := ω) codecs.request stream payload rest arrived fits
      refine ⟨left, leftEq, ?_⟩
      rw [roundTrips.1.fromSlice written] at run
      simp only [WireMessage.kind, recvMessage]
      rw [Prog.bind_run_of_ok stream _ _ message (by rw [run]; rfl), run]
      rfl
  | response message =>
      obtain ⟨left, leftEq, run⟩ :=
        recvJson_run_of_frame (ω := ω) codecs.response stream payload rest arrived fits
      refine ⟨left, leftEq, ?_⟩
      rw [roundTrips.2.fromSlice written] at run
      simp only [WireMessage.kind, recvMessage]
      rw [Prog.bind_run_of_ok stream _ _ message (by rw [run]; rfl), run]
      rfl

theorem sendAll_reliable (roundTrips : codecs.RoundTrips) (messages : List WireMessage)
    (sender : Stream) (reliable : sender.Reliable) :
    ((codecs.sendAll messages : Prog ω Stream String Unit).run sender).outcome = .ok () := by
  induction messages generalizing sender with
  | nil => rfl
  | cons message rest ih =>
      obtain ⟨payload, written⟩ := roundTrips.payload message
      have first := sendMessage_run_reliable (ω := ω) message payload written sender reliable
      simp only [sendAll]
      rw [Prog.bind_run_of_ok sender _ _ () (by rw [first]), first]
      exact ih _ reliable

theorem sendAll_outgoing (messages : List WireMessage) (sender : Stream)
    (sent : ((codecs.sendAll messages : Prog ω Stream String Unit).run sender).outcome = .ok ()) :
    ∃ written, ((codecs.sendAll messages : Prog ω Stream String Unit).run
      sender).state.outgoing = sender.outgoing ++ written := by
  induction messages generalizing sender with
  | nil => exact ⟨[], (List.append_nil _).symm⟩
  | cons message rest ih =>
      simp only [sendAll, Prog.bind_outcome_eq_ok_iff] at sent
      obtain ⟨_, firstSent, restSent⟩ := sent
      obtain ⟨payload, later, _, senderAfter⟩ := sendMessage_of_ok message sender firstSent
      rw [senderAfter] at restSent
      obtain ⟨more, moreEq⟩ := ih _ restSent
      refine ⟨frame payload ++ more, ?_⟩
      simp only [sendAll]
      rw [Prog.bind_run_of_ok sender _ _ () firstSent, senderAfter]
      change _ = (sender.outgoing ++ frame payload) ++ more at moreEq
      rw [moreEq, List.append_assoc]

/-- What a conversation writes is what a conversation of the same kinds reads. -/
theorem recvAll_sendAll (roundTrips : codecs.RoundTrips) (messages : List WireMessage)
    (fits : ∀ message ∈ messages, codecs.Fits message) (sender receiver : Stream)
    (sent : ((codecs.sendAll messages : Prog ω Stream String Unit).run sender).outcome = .ok ())
    (written trailing : Bytes)
    (writtenEq : ((codecs.sendAll messages : Prog ω Stream String Unit).run
      sender).state.outgoing = sender.outgoing ++ written)
    (arrived : receiver.incoming.flatten = written ++ trailing) :
    ((codecs.recvAll (messages.map WireMessage.kind) :
        Prog ω Stream String (List WireMessage)).run receiver).outcome = .ok messages ∧
      ((codecs.recvAll (messages.map WireMessage.kind) :
        Prog ω Stream String (List WireMessage)).run receiver).state.incoming.flatten =
          trailing := by
  induction messages generalizing sender receiver written with
  | nil =>
      have nothing : written = [] := by
        change sender.outgoing = sender.outgoing ++ written at writtenEq
        exact List.append_right_eq_self.mp writtenEq.symm
      rw [nothing, List.nil_append] at arrived
      exact ⟨rfl, arrived⟩
  | cons message rest ih =>
      simp only [sendAll, Prog.bind_outcome_eq_ok_iff] at sent
      obtain ⟨_, firstSent, restSent⟩ := sent
      obtain ⟨payload, later, payloadWritten, senderAfter⟩ :=
        sendMessage_of_ok message sender firstSent
      simp only [sendAll] at writtenEq
      rw [Prog.bind_run_of_ok sender _ _ () firstSent] at writtenEq
      rw [senderAfter] at restSent writtenEq
      obtain ⟨more, moreEq⟩ : ∃ more, written = frame payload ++ more := by
        obtain ⟨more, moreEq⟩ := sendAll_outgoing rest _ restSent
        change _ = (sender.outgoing ++ frame payload) ++ more at moreEq
        rw [writtenEq, List.append_assoc] at moreEq
        exact ⟨more, List.append_cancel_left moreEq⟩
      subst moreEq
      rw [List.append_assoc] at arrived
      obtain ⟨left, leftEq, run⟩ := recvMessage_run (ω := ω) roundTrips message payload
        (more ++ trailing) payloadWritten (fits message List.mem_cons_self payload payloadWritten)
        receiver arrived
      have tail := ih (fun other member => fits other (List.mem_cons_of_mem _ member))
        _ { receiver with incoming := left } restSent more
        (by rw [writtenEq, List.append_assoc]) leftEq
      simp only [List.map_cons, recvAll]
      rw [Prog.bind_run_of_ok receiver _ _ message (by rw [run]), run,
        Prog.bind_run_of_ok _ _ _ rest tail.1]
      exact ⟨rfl, tail.2⟩

end WireCodecs

/-! ### Exactness -/

/-- Framing is exact: the accepted streams are the ones that start with a frame
within the limit, a stream that ends inside a frame is an error, and a
conversation is read back in order whatever the chunks and the bytes behind it. -/
theorem framing_exact (codecs : WireCodecs) (roundTrips : codecs.RoundTrips) :
    (∀ (α : Type) (codec : JsonCodec α) (stream : Stream) (value : α) (rest : Bytes),
      (((recvJson codec : Prog ω Stream String α).run stream).outcome = .ok value ∧
          ((recvJson codec : Prog ω Stream String α).run stream).state.incoming.flatten =
            rest) ↔
        ∃ payload : Bytes,
          stream.incoming.flatten = bigEndian 4 payload.length ++ payload ++ rest ∧
            payload.length ≤ maxMsgBytes ∧ codec.fromSlice payload = .ok value) ∧
    (∀ (α : Type) (codec : JsonCodec α) (payload start : Bytes) (stream : Stream),
      payload.length ≤ maxMsgBytes →
      start <+: bigEndian 4 payload.length ++ payload →
      start ≠ bigEndian 4 payload.length ++ payload →
      stream.incoming.flatten = start →
      ∃ message,
        ((recvJson codec : Prog ω Stream String α).run stream).outcome = .err message) ∧
    (∀ (messages : List WireMessage) (sender : Stream),
      (∀ message ∈ messages, codecs.Fits message) →
      (sender.Reliable →
        ((codecs.sendAll messages : Prog ω Stream String Unit).run sender).outcome = .ok ()) ∧
      (((codecs.sendAll messages : Prog ω Stream String Unit).run sender).outcome = .ok () →
        ∃ written,
          ((codecs.sendAll messages : Prog ω Stream String Unit).run sender).state.outgoing =
            sender.outgoing ++ written ∧
          ∀ (receiver : Stream) (trailing : Bytes),
            receiver.incoming.flatten = written ++ trailing →
            ((codecs.recvAll (messages.map WireMessage.kind) :
                Prog ω Stream String (List WireMessage)).run receiver).outcome =
              .ok messages ∧
            ((codecs.recvAll (messages.map WireMessage.kind) :
                Prog ω Stream String (List WireMessage)).run
                  receiver).state.incoming.flatten = trailing)) := by
  refine ⟨?_, ?_, ?_⟩
  · intro α codec stream value rest
    exact recvJson_exact codec stream value rest
  · intro α codec payload start stream fits isStart proper arrived
    exact recvJson_fails codec stream
      (not_holdsFrame_of_start payload start stream fits arrived isStart proper)
  · intro messages sender fits
    refine ⟨WireCodecs.sendAll_reliable roundTrips messages sender, ?_⟩
    intro sent
    obtain ⟨written, writtenEq⟩ := WireCodecs.sendAll_outgoing messages sender sent
    refine ⟨written, writtenEq, ?_⟩
    intro receiver trailing arrived
    exact WireCodecs.recvAll_sendAll roundTrips messages fits sender receiver sent written
      trailing writtenEq arrived

def jsonCodecs : WireCodecs :=
  { request := JsonForms.requestCodec
    response := JsonForms.responseCodec }

def sampleConversation : List WireMessage :=
  [.request { version := 1, vmName := "vm", entity := "svc", csrPem := "csr" },
    .response (.ok "cert" "ca"), .response (.error "refused")]

theorem framing_exact_sample :
    ∃ written : Bytes,
      ((jsonCodecs.recvAll [.request, .response, .response] :
          Prog Unit Stream String (List WireMessage)).run
        { incoming := (written ++ [7]).map fun byte => [byte]
          endMessage := "eof", writeResults := [], outgoing := [] }).outcome =
        .ok sampleConversation := by
  have exact := framing_exact (ω := Unit) jsonCodecs
    ⟨JsonForms.requestCodec_roundTrips, JsonForms.responseCodec_roundTrips⟩
  have fits : ∀ message ∈ sampleConversation, jsonCodecs.Fits message := by
    intro message member payload written
    simp only [sampleConversation, List.mem_cons, List.not_mem_nil, or_false] at member
    rcases member with rfl | rfl | rfl
    · cases written
      decide +kernel
    · cases written
      decide +kernel
    · cases written
      decide +kernel
  obtain ⟨succeeds, readBack⟩ := exact.2.2 sampleConversation
    { incoming := [], endMessage := "eof", writeResults := [], outgoing := [] } fits
  obtain ⟨written, _writtenEq, received⟩ := readBack (succeeds rfl)
  refine ⟨written, ?_⟩
  apply (received _ [7] _).1
  change ((written ++ [7]).map fun byte => [byte]).flatten = written ++ [7]
  rw [← List.flatMap_def, List.flatMap_singleton']

end AuthScope
