/-
Length-prefixed framing for JSON messages over a byte stream.

A frame is a four-byte big-endian length and a payload.  The sender writes the
two and flushes; the receiver refuses a length above the limit before it reads
any payload byte.  How a message becomes a payload is a parameter.
-/

import AuthScope.Foundation.ByteStream

set_option autoImplicit false

namespace AuthScope

open ByteText EffectLog ByteStream

/-- A serialiser and a deserialiser for one message type, with the texts of
their errors. -/
structure JsonCodec (α : Type) where
  toVec : α → Except String Bytes
  fromSlice : Bytes → Except String α

def JsonCodec.RoundTrips {α : Type} (codec : JsonCodec α) : Prop :=
  ∀ value, ∃ text, codec.toVec value = .ok text ∧ codec.fromSlice text = .ok value

theorem JsonCodec.RoundTrips.fromSlice {α : Type} {codec : JsonCodec α}
    (roundTrips : codec.RoundTrips) {value : α} {text : Bytes}
    (written : codec.toVec value = .ok text) : codec.fromSlice text = .ok value := by
  obtain ⟨other, otherWritten, read⟩ := roundTrips value
  rw [written] at otherWritten
  cases otherWritten
  exact read

theorem JsonCodec.RoundTrips.toVec_injective {α : Type} {codec : JsonCodec α}
    (roundTrips : codec.RoundTrips) {left right : α} {text : Bytes}
    (leftWritten : codec.toVec left = .ok text) (rightWritten : codec.toVec right = .ok text) :
    left = right := by
  have readLeft := roundTrips.fromSlice leftWritten
  rw [roundTrips.fromSlice rightWritten] at readLeft
  exact (Except.ok.inj readLeft).symm

def maxMsgBytes : Nat := 4 * 1024 * 1024

def oversizedMessage (len : Nat) : String :=
  "incoming frame too large: " ++ toString len ++ " bytes (max " ++ toString maxMsgBytes ++ ")"

variable {ω α : Type}

/-- Serialise `value` and send it as a length-prefixed frame.  The length goes
through a 32-bit cast. -/
def sendJson (codec : JsonCodec α) (value : α) : Prog ω Stream String Unit := do
  let payload ← Prog.liftExcept (codec.toVec value)
  let len := payload.length % 2 ^ 32
  writeAll (bigEndian 4 len)
  writeAll payload
  flush

def recvJson (codec : JsonCodec α) : Prog ω Stream String α := do
  let lenBuf ← readExact 4
  let len := ofBigEndian lenBuf
  if maxMsgBytes < len then Prog.throw (oversizedMessage len)
  else
    let buf ← readExact len
    Prog.liftExcept (codec.fromSlice buf)

def frame (payload : Bytes) : Bytes := bigEndian 4 (payload.length % 2 ^ 32) ++ payload

theorem frame_of_fits (payload : Bytes) (fits : payload.length ≤ maxMsgBytes) :
    frame payload = bigEndian 4 payload.length ++ payload := by
  have small : payload.length < 2 ^ 32 := by
    unfold maxMsgBytes at fits
    omega
  rw [frame, Nat.mod_eq_of_lt small]

theorem frame_injective {left right : Bytes} (same : frame left = frame right) :
    left = right := by
  unfold frame at same
  exact (List.append_inj same (by rw [bigEndian_length, bigEndian_length])).2

/-! ### Receiving -/

def HoldsFrame (stream : Stream) : Prop :=
  4 ≤ stream.incoming.flatten.length ∧
    ofBigEndian (stream.incoming.flatten.take 4) ≤ maxMsgBytes ∧
    4 + ofBigEndian (stream.incoming.flatten.take 4) ≤ stream.incoming.flatten.length

theorem recvJson_run_of_holds (codec : JsonCodec α) (stream : Stream)
    (holds : HoldsFrame stream) :
    ∃ left, left.flatten =
        stream.incoming.flatten.drop (4 + ofBigEndian (stream.incoming.flatten.take 4)) ∧
      (recvJson codec : Prog ω Stream String α).run stream =
        { outcome := Outcome.ofExcept (codec.fromSlice
            ((stream.incoming.flatten.drop 4).take
              (ofBigEndian (stream.incoming.flatten.take 4))))
          state := { stream with incoming := left }
          log := [] } := by
  obtain ⟨header, within, whole⟩ := holds
  obtain ⟨afterHeader, afterHeaderEq, headerRun⟩ :=
    readExact_run_of_enough (ω := ω) 4 stream header
  obtain ⟨left, leftEq, payloadRun⟩ :=
    readExact_run_of_enough (ω := ω) (ofBigEndian (stream.incoming.flatten.take 4))
      { stream with incoming := afterHeader }
      (by
        change _ ≤ afterHeader.flatten.length
        rw [afterHeaderEq, List.length_drop]
        omega)
  refine ⟨left, ?_, ?_⟩
  · rw [leftEq]
    change afterHeader.flatten.drop _ = _
    rw [afterHeaderEq, List.drop_drop]
  · have payloadEq : afterHeader.flatten = stream.incoming.flatten.drop 4 := afterHeaderEq
    simp only [recvJson]
    rw [Prog.bind_run_of_ok stream _ _ _ (by rw [headerRun]), headerRun]
    simp only [if_neg (Nat.not_lt.mpr within)]
    rw [Prog.bind_run_of_ok _ _ _ _ (by rw [payloadRun]), payloadRun]
    simp only [Prog.liftExcept, Prog.lift_run, List.append_nil, payloadEq]

theorem recvJson_fails (codec : JsonCodec α) (stream : Stream) (lacks : ¬HoldsFrame stream) :
    ∃ message,
      ((recvJson codec : Prog ω Stream String α).run stream).outcome = .err message := by
  by_cases header : 4 ≤ stream.incoming.flatten.length
  · obtain ⟨afterHeader, afterHeaderEq, headerRun⟩ :=
      readExact_run_of_enough (ω := ω) 4 stream header
    simp only [recvJson]
    rw [Prog.bind_run_of_ok stream _ _ _ (by rw [headerRun]), headerRun]
    by_cases within : ofBigEndian (stream.incoming.flatten.take 4) ≤ maxMsgBytes
    · have short : afterHeader.flatten.length <
          ofBigEndian (stream.incoming.flatten.take 4) := by
        rw [afterHeaderEq, List.length_drop]
        apply Nat.lt_of_not_le
        intro enough
        exact lacks ⟨header, within, by omega⟩
      have payloadRun := readExact_run_of_short (ω := ω)
        (ofBigEndian (stream.incoming.flatten.take 4)) { stream with incoming := afterHeader } short
      simp only [if_neg (Nat.not_lt.mpr within)]
      rw [Prog.bind_run_of_err _ _ _ _ (by rw [payloadRun])]
      exact ⟨_, rfl⟩
    · simp only [if_pos (Nat.lt_of_not_le within)]
      exact ⟨_, rfl⟩
  · have headerRun := readExact_run_of_short (ω := ω) 4 stream (Nat.lt_of_not_le header)
    simp only [recvJson]
    rw [Prog.bind_run_of_err stream _ _ _ (by rw [headerRun])]
    exact ⟨_, rfl⟩

theorem recvJson_run_of_frame (codec : JsonCodec α) (stream : Stream) (payload rest : Bytes)
    (arrived : stream.incoming.flatten = frame payload ++ rest)
    (fits : payload.length ≤ maxMsgBytes) :
    ∃ left, left.flatten = rest ∧
      (recvJson codec : Prog ω Stream String α).run stream =
        { outcome := Outcome.ofExcept (codec.fromSlice payload)
          state := { stream with incoming := left }
          log := [] } := by
  rw [frame_of_fits payload fits, List.append_assoc] at arrived
  have small : payload.length < 256 ^ 4 := by
    unfold maxMsgBytes at fits
    omega
  have header : stream.incoming.flatten.take 4 = bigEndian 4 payload.length := by
    rw [arrived, List.take_left' (bigEndian_length 4 _)]
  have length : ofBigEndian (stream.incoming.flatten.take 4) = payload.length := by
    rw [header, ofBigEndian_bigEndian, Nat.mod_eq_of_lt small]
  have afterHeader : stream.incoming.flatten.drop 4 = payload ++ rest := by
    rw [arrived, List.drop_left' (bigEndian_length 4 _)]
  have total : stream.incoming.flatten.length = 4 + (payload.length + rest.length) := by
    rw [arrived, List.length_append, List.length_append, bigEndian_length]
  have holds : HoldsFrame stream := by
    unfold HoldsFrame
    rw [length]
    exact ⟨by omega, fits, by omega⟩
  obtain ⟨left, leftEq, run⟩ := recvJson_run_of_holds (ω := ω) codec stream holds
  refine ⟨left, ?_, ?_⟩
  · rw [leftEq, length, ← List.drop_drop, afterHeader, List.drop_left]
  · rw [run, length, afterHeader, List.take_left]

theorem HoldsFrame.split {stream : Stream} (holds : HoldsFrame stream) :
    stream.incoming.flatten =
      frame ((stream.incoming.flatten.drop 4).take
          (ofBigEndian (stream.incoming.flatten.take 4))) ++
        stream.incoming.flatten.drop (4 + ofBigEndian (stream.incoming.flatten.take 4)) ∧
    ((stream.incoming.flatten.drop 4).take
      (ofBigEndian (stream.incoming.flatten.take 4))).length ≤ maxMsgBytes := by
  obtain ⟨header, within, whole⟩ := holds
  have payloadLength : ((stream.incoming.flatten.drop 4).take
      (ofBigEndian (stream.incoming.flatten.take 4))).length =
        ofBigEndian (stream.incoming.flatten.take 4) := by
    rw [List.length_take, List.length_drop]
    omega
  have fits : ((stream.incoming.flatten.drop 4).take
      (ofBigEndian (stream.incoming.flatten.take 4))).length ≤ maxMsgBytes := by
    rw [payloadLength]
    exact within
  refine ⟨?_, fits⟩
  have headerEq : bigEndian 4 (ofBigEndian (stream.incoming.flatten.take 4)) =
      stream.incoming.flatten.take 4 := by
    have inverse := bigEndian_ofBigEndian (stream.incoming.flatten.take 4)
    rw [List.length_take, Nat.min_eq_left header] at inverse
    exact inverse
  rw [frame_of_fits _ fits, payloadLength, headerEq, List.append_assoc, ← List.drop_drop,
    List.take_append_drop, List.take_append_drop]

theorem recvJson_outcome_eq_ok_iff (codec : JsonCodec α) (stream : Stream) (value : α) :
    ((recvJson codec : Prog ω Stream String α).run stream).outcome = .ok value ↔
      ∃ payload rest, stream.incoming.flatten = frame payload ++ rest ∧
        payload.length ≤ maxMsgBytes ∧ codec.fromSlice payload = .ok value := by
  constructor
  · intro returned
    by_cases holds : HoldsFrame stream
    · obtain ⟨left, _leftEq, run⟩ := recvJson_run_of_holds (ω := ω) codec stream holds
      rw [run] at returned
      exact ⟨_, _, holds.split.1, holds.split.2, (Outcome.ofExcept_eq_ok_iff _ _).mp returned⟩
    · obtain ⟨message, failed⟩ := recvJson_fails (ω := ω) codec stream holds
      rw [failed] at returned
      cases returned
  · rintro ⟨payload, rest, arrived, fits, read⟩
    obtain ⟨left, _leftEq, run⟩ :=
      recvJson_run_of_frame (ω := ω) codec stream payload rest arrived fits
    rw [run, read]
    rfl

theorem recvJson_ne_panic (codec : JsonCodec α) (stream : Stream) :
    ((recvJson codec : Prog ω Stream String α).run stream).outcome ≠ .panic := by
  by_cases holds : HoldsFrame stream
  · obtain ⟨left, _leftEq, run⟩ := recvJson_run_of_holds (ω := ω) codec stream holds
    rw [run]
    exact Outcome.ofExcept_ne_panic _
  · obtain ⟨message, failed⟩ := recvJson_fails (ω := ω) codec stream holds
    rw [failed]
    intro impossible
    cases impossible

theorem recvJson_state (codec : JsonCodec α) (stream : Stream) :
    ∃ left, ((recvJson codec : Prog ω Stream String α).run stream).state =
      { stream with incoming := left } := by
  obtain ⟨afterHeader, headerState⟩ := readExact_state (ω := ω) 4 stream
  simp only [recvJson]
  cases exit : ((readExact 4 : Prog ω Stream String Bytes).run stream).outcome with
  | ok lenBuf =>
      rw [Prog.bind_run_of_ok _ _ _ lenBuf exit, headerState]
      dsimp only
      split
      · exact ⟨afterHeader, rfl⟩
      · obtain ⟨left, payloadState⟩ := readExact_state (ω := ω) (ofBigEndian lenBuf)
          { stream with incoming := afterHeader }
        refine ⟨left, ?_⟩
        rw [← payloadState]
        exact Prog.bind_lift_state _ _ _
  | err message =>
      rw [Prog.bind_run_of_err _ _ _ message exit]
      exact ⟨afterHeader, headerState⟩
  | panic =>
      rw [Prog.bind_run_of_panic _ _ _ exit]
      exact ⟨afterHeader, headerState⟩

theorem recvJson_log (codec : JsonCodec α) (stream : Stream) :
    ((recvJson codec : Prog ω Stream String α).run stream).log = [] := by
  apply List.eq_nil_iff_forall_not_mem.mpr
  intro event member
  simp only [recvJson, Prog.mem_bind_log, readExact_log, List.not_mem_nil, false_or] at member
  obtain ⟨lenBuf, _, inside⟩ := member
  split at inside
  · cases inside
  · rw [Prog.mem_bind_log, readExact_log] at inside
    rcases inside with impossible | ⟨buf, _, impossible⟩
    · cases impossible
    · cases impossible

theorem sendJson_run_reliable (codec : JsonCodec α) (value : α) (payload : Bytes)
    (written : codec.toVec value = .ok payload) (stream : Stream) (reliable : stream.Reliable) :
    (sendJson codec value : Prog ω Stream String Unit).run stream =
      { outcome := .ok ()
        state := { stream with outgoing := stream.outgoing ++ frame payload }
        log := [] } := by
  obtain ⟨incoming, endMessage, writeResults, outgoing⟩ := stream
  have allSucceed : writeResults = [] := reliable
  subst allSucceed
  simp only [sendJson, written]
  rw [Prog.bind_run_of_ok _ _ _ payload rfl, Prog.bind_run_of_ok _ _ _ () rfl,
    Prog.bind_run_of_ok _ _ _ () rfl]
  simp only [Prog.liftExcept, Prog.lift_run, writeAll, flush, frame, List.append_assoc,
    List.append_nil]

/-- A send that returns has put exactly one frame on the stream. -/
theorem sendJson_of_ok (codec : JsonCodec α) (value : α) (stream : Stream)
    (sent : ((sendJson codec value : Prog ω Stream String Unit).run stream).outcome = .ok ()) :
    ∃ payload later, codec.toVec value = .ok payload ∧
      ((sendJson codec value : Prog ω Stream String Unit).run stream).state =
        { stream with
          writeResults := later
          outgoing := stream.outgoing ++ frame payload } := by
  cases written : codec.toVec value with
  | error message =>
      simp only [sendJson, written, Prog.bind_outcome_eq_ok_iff, Prog.liftExcept,
        Prog.lift_run, Outcome.ofExcept_eq_ok_iff] at sent
      obtain ⟨payload, impossible, _⟩ := sent
      cases impossible
  | ok payload =>
      have serialised : ((Prog.liftExcept (codec.toVec value) :
          Prog ω Stream String Bytes).run stream).outcome = .ok payload := by
        rw [written]
        rfl
      simp only [sendJson] at sent ⊢
      rw [Prog.bind_run_of_ok _ _ _ payload serialised] at sent ⊢
      simp only [Prog.liftExcept, Prog.lift_run, Prog.bind_outcome_eq_ok_iff] at sent
      obtain ⟨_, headerOk, _, payloadOk, _flushOk⟩ := sent
      obtain ⟨afterHeader, headerState⟩ := writeAll_of_ok _ _ headerOk
      rw [headerState] at payloadOk
      obtain ⟨afterPayload, payloadState⟩ := writeAll_of_ok _ _ payloadOk
      obtain ⟨later, flushState⟩ := flush_state (ω := ω) _
      refine ⟨payload, later, rfl, ?_⟩
      simp only [Prog.liftExcept, Prog.lift_run]
      rw [Prog.bind_run_of_ok _ _ _ () headerOk, headerState,
        Prog.bind_run_of_ok _ _ _ () payloadOk, payloadState]
      change ((flush : Prog ω Stream String Unit).run _).state = _
      rw [flushState]
      simp only [frame, List.append_assoc]

theorem sendJson_log (codec : JsonCodec α) (value : α) (stream : Stream) :
    ((sendJson codec value : Prog ω Stream String Unit).run stream).log = [] := by
  apply List.eq_nil_iff_forall_not_mem.mpr
  intro event member
  simp only [sendJson, Prog.mem_bind_log, writeAll_log, flush_log, List.not_mem_nil,
    and_false, exists_false, or_false] at member
  cases member

end AuthScope
