/-
Streams that end inside a frame.

A connection may break anywhere, so a receiver sees some beginning of what was
sent.  JSON objects are self-delimiting: no proper beginning of one can be read.
A receiver that reads a message from the beginning of a frame therefore reads
the message the frame was made for, also where the length of the frame was cut
to 32 bits.
-/

import AuthScope.Foundation.JsonPrefix
import AuthScope.Foundation.Triple
import AuthScope.Proto.JsonForms

set_option autoImplicit false

namespace AuthScope

open ByteText EffectLog ByteStream

/-- No proper beginning of a serialised message can be read. -/
def JsonCodec.SelfDelimiting {α : Type} (codec : JsonCodec α) : Prop :=
  ∀ value payload start rest, codec.toVec value = .ok payload → start ++ rest = payload →
    rest ≠ [] → ∀ other, codec.fromSlice start ≠ .ok other

/-- What the program relies on of the serialiser of a message type. -/
structure JsonCodec.Faithful {α : Type} (codec : JsonCodec α) : Prop where
  roundTrips : codec.RoundTrips
  selfDelimiting : codec.SelfDelimiting

variable {ω α : Type}

/-- A frame inside the beginning of another frame has a beginning of its
payload. -/
theorem frame_start {inner outer rest after : Bytes}
    (inside : frame inner ++ rest ++ after = frame outer) :
    ∃ missing, inner ++ missing = outer := by
  unfold frame at inside
  rw [List.append_assoc, List.append_assoc] at inside
  have payloads := (List.append_inj inside (by rw [bigEndian_length, bigEndian_length])).2
  exact ⟨rest ++ after, payloads⟩

/-- Whatever beginning of a frame arrives, the message that is read from it is
the one that was sent. -/
theorem recvJson_of_start (codec : JsonCodec α) (faithful : codec.Faithful) {sent received : α}
    {payload : Bytes} (serialised : codec.toVec sent = .ok payload) (stream : Stream)
    (arrived : stream.incoming.flatten <+: frame payload)
    (read : ((recvJson codec : Prog ω Stream String α).run stream).outcome = .ok received) :
    received = sent := by
  obtain ⟨inner, rest, arrivedEq, _, innerRead⟩ :=
    (recvJson_outcome_eq_ok_iff codec stream received).mp read
  obtain ⟨after, whole⟩ := arrived
  rw [arrivedEq] at whole
  obtain ⟨missing, payloadEq⟩ := frame_start whole
  by_cases complete : missing = []
  · rw [complete, List.append_nil] at payloadEq
    rw [payloadEq, faithful.roundTrips.fromSlice serialised] at innerRead
    exact (Except.ok.inj innerRead).symm
  · exact absurd innerRead
      (faithful.selfDelimiting sent payload inner missing serialised payloadEq complete received)

structure Sent (before : Stream) (bytes : Bytes) (after : Stream) : Prop where
  incoming : after.incoming = before.incoming
  endMessage : after.endMessage = before.endMessage
  outgoing : after.outgoing = before.outgoing ++ bytes

theorem Sent.trans {first middle last : Stream} {early late : Bytes}
    (head : Sent first early middle) (tail : Sent middle late last) :
    Sent first (early ++ late) last := by
  refine ⟨tail.incoming.trans head.incoming, tail.endMessage.trans head.endMessage, ?_⟩
  rw [tail.outgoing, head.outgoing, List.append_assoc]

theorem writeAll_triple (stream : Stream) (bytes : Bytes) :
    Triple (fun before => before = stream) (writeAll bytes : Prog ω Stream String Unit)
      { during := fun _ => True
        returns := fun _ after => Sent stream bytes after
        fails := fun _ after => ∃ start, start <+: bytes ∧ Sent stream start after } := by
  rintro before rfl
  obtain ⟨incoming, endMessage, writeResults, outgoing⟩ := before
  refine ⟨fun _ _ => trivial, ?_⟩
  cases writeResults with
  | nil => exact ⟨rfl, rfl, rfl⟩
  | cons result later =>
      cases result with
      | done => exact ⟨rfl, rfl, rfl⟩
      | failsAfter count message =>
          exact ⟨bytes.take count, List.take_prefix _ _, rfl, rfl, rfl⟩

theorem flush_triple (stream : Stream) :
    Triple (fun before => before = stream) (flush : Prog ω Stream String Unit)
      { during := fun _ => True
        returns := fun _ after => Sent stream [] after
        fails := fun _ after => Sent stream [] after } := by
  rintro before rfl
  obtain ⟨incoming, endMessage, writeResults, outgoing⟩ := before
  refine ⟨fun _ _ => trivial, ?_⟩
  have nothing : outgoing = outgoing ++ [] := (List.append_nil _).symm
  cases writeResults with
  | nil => exact ⟨rfl, rfl, nothing⟩
  | cons result later =>
      cases result with
      | done => exact ⟨rfl, rfl, nothing⟩
      | failsAfter count message => exact ⟨rfl, rfl, nothing⟩

/-- A send puts its frame on the stream or, if it fails, some beginning of it. -/
theorem sendJson_triple (codec : JsonCodec α) (value : α) (stream : Stream) :
    Triple (fun before => before = stream) (sendJson codec value : Prog ω Stream String Unit)
      { during := fun _ => True
        returns := fun _ after => ∃ payload, codec.toVec value = .ok payload ∧
          Sent stream (frame payload) after
        fails := fun _ after => after = stream ∨
          ∃ payload start, codec.toVec value = .ok payload ∧ start <+: frame payload ∧
            Sent stream start after } := by
  unfold sendJson
  refine @Triple.bind _ _ _ _ _ _ _ _ _ (fun payload after =>
    codec.toVec value = .ok payload ∧ after = stream) _ _ ?_ fun payload => ?_
  · apply Triple.lift _ (Outcome.ofExcept_ne_panic _)
    · rintro payload serialised _ rfl
      exact ⟨(Outcome.ofExcept_eq_ok_iff _ _).mp serialised, rfl⟩
    · rintro error _ _ rfl
      exact Or.inl rfl
  dsimp only
  refine @Triple.bind _ _ _ _ _ _ _ _ _ (fun _ after => codec.toVec value = .ok payload ∧
    Sent stream (bigEndian 4 (payload.length % 2 ^ 32)) after) _ _ ?_ fun _ => ?_
  · rintro _ ⟨serialised, rfl⟩
    refine (writeAll_triple _ _ _ rfl).weaken (fun _ _ => trivial)
      (fun _ _ written => ⟨serialised, written⟩) ?_
    rintro _ after ⟨start, isStart, sent⟩
    exact Or.inr ⟨payload, start, serialised, isStart.trans (List.prefix_append _ _), sent⟩
  refine @Triple.bind _ _ _ _ _ _ _ _ _ (fun _ after => codec.toVec value = .ok payload ∧
    Sent stream (frame payload) after) _ _ ?_ fun _ => ?_
  · rintro state ⟨serialised, header⟩
    refine (writeAll_triple state _ state rfl).weaken (fun _ _ => trivial) ?_ ?_
    · intro _ after sent
      exact ⟨serialised, header.trans sent⟩
    · rintro _ after ⟨start, isStart, sent⟩
      refine Or.inr ⟨payload, _, serialised, ?_, header.trans sent⟩
      exact (List.prefix_append_right_inj _).mpr isStart
  · rintro state ⟨serialised, whole⟩
    have flushed {after : Stream} (sent : Sent state [] after) :
        Sent stream (frame payload) after := by
      have both := whole.trans sent
      rw [List.append_nil] at both
      exact both
    refine (flush_triple state state rfl).weaken (fun _ _ => trivial) ?_ ?_
    · intro _ after sent
      exact ⟨payload, serialised, flushed sent⟩
    · intro _ after sent
      exact Or.inr ⟨payload, _, serialised, List.prefix_refl _, flushed sent⟩

/-! ### Programs that only write -/

def arriving (chunks : List Bytes) (endMessage : String) (stream : Stream) : Stream :=
  { stream with incoming := chunks, endMessage := endMessage }

/-- What the program does does not depend on what arrives. -/
def WritesOnly {ε β : Type} (program : Prog ω Stream ε β) : Prop :=
  ∀ (chunks : List Bytes) (endMessage : String) (stream : Stream),
    program.run (arriving chunks endMessage stream) =
      { outcome := (program.run stream).outcome
        state := arriving chunks endMessage (program.run stream).state
        log := (program.run stream).log }

theorem WritesOnly.bind {ε β γ : Type} {first : Prog ω Stream ε β}
    {next : β → Prog ω Stream ε γ} (head : WritesOnly first)
    (tail : ∀ value, WritesOnly (next value)) : WritesOnly (first >>= next) := by
  intro chunks endMessage stream
  have same := head chunks endMessage stream
  cases exit : (first.run stream).outcome with
  | ok value =>
      rw [Prog.bind_run_of_ok stream first next value exit,
        Prog.bind_run_of_ok _ first next value (by rw [same]; exact exit), same,
        tail value chunks endMessage]
  | err message =>
      rw [Prog.bind_run_of_err stream first next message exit,
        Prog.bind_run_of_err _ first next message (by rw [same]; exact exit), same]
  | panic =>
      rw [Prog.bind_run_of_panic stream first next exit,
        Prog.bind_run_of_panic _ first next (by rw [same]; exact exit), same]

theorem WritesOnly.mapErr {ε ε' β : Type} {program : Prog ω Stream ε β} (convert : ε → ε')
    (writes : WritesOnly program) : WritesOnly (program.mapErr convert) := by
  intro chunks endMessage stream
  simp only [Prog.mapErr_run, writes chunks endMessage stream]

theorem writesOnly_writeAll (bytes : Bytes) :
    WritesOnly (writeAll bytes : Prog ω Stream String Unit) := by
  intro chunks endMessage stream
  obtain ⟨incoming, other, writeResults, outgoing⟩ := stream
  cases writeResults with
  | nil => rfl
  | cons result later => cases result <;> rfl

theorem writesOnly_flush : WritesOnly (flush : Prog ω Stream String Unit) := by
  intro chunks endMessage stream
  obtain ⟨incoming, other, writeResults, outgoing⟩ := stream
  cases writeResults with
  | nil => rfl
  | cons result later => cases result <;> rfl

theorem writesOnly_sendJson (codec : JsonCodec α) (value : α) :
    WritesOnly (sendJson codec value : Prog ω Stream String Unit) := by
  unfold sendJson
  apply WritesOnly.bind
  · intro chunks endMessage stream
    rfl
  · intro payload
    exact (writesOnly_writeAll _).bind fun _ => (writesOnly_writeAll _).bind fun _ =>
      writesOnly_flush

namespace JsonForms

open CompactJson

theorem codec_faithful {α : Type} (write : α → Json) (read : Json → Option α)
    (inverse : ∀ value, read (write value) = some value)
    (objects : ∀ value, ∃ members, write value = .obj members) :
    (codec write read).Faithful := by
  constructor
  · exact codec_roundTrips write read inverse
  · intro value payload start rest serialised whole proper other
    obtain ⟨members, form⟩ := objects value
    have payloadEq : toBytes (write value) = payload := Except.ok.inj serialised
    rw [← payloadEq, form] at whole
    simp only [codec, ofBytes_start members start rest whole proper, Option.bind_none]
    intro impossible
    cases impossible

theorem requestCodec_faithful : requestCodec.Faithful :=
  codec_faithful ofCertRequest CertRequest.deserialize CertRequest.deserialize_of fun _ => ⟨_, rfl⟩

theorem responseCodec_faithful : responseCodec.Faithful := by
  apply codec_faithful ofCertResponse CertResponse.deserialize CertResponse.deserialize_of
  intro response
  cases response with
  | ok certPem caCertPem => exact ⟨_, rfl⟩
  | error message => exact ⟨_, rfl⟩

end JsonForms
end AuthScope
