/-
A frame that was cut off, and a short one behind it.

A write may fail and the next one go through, so behind the beginning of a frame
there may be the report of the failure.  The header of a short frame has zeros,
which no JSON text has.  So a receiver that takes a message across the cut, with
bytes of the report for those that are missing, cannot read it.
-/

import AuthScope.Foundation.JsonPrintable
import AuthScope.Proto.PartialFrames

set_option autoImplicit false

namespace AuthScope

open ByteText EffectLog ByteStream

/-- Only text is read: it is not empty and no byte of it is zero. -/
def JsonCodec.Textual {α : Type} (codec : JsonCodec α) : Prop :=
  ∀ text value, codec.fromSlice text = .ok value → text ≠ [] ∧ (0 : UInt8) ∉ text

variable {ω α : Type}

theorem JsonCodec.Faithful.fromSlice_of_start {codec : JsonCodec α} (faithful : codec.Faithful)
    {sent received : α} {payload inner : Bytes} (serialised : codec.toVec sent = .ok payload)
    (inside : frame inner <+: frame payload) (read : codec.fromSlice inner = .ok received) :
    received = sent := by
  obtain ⟨after, whole⟩ := inside
  rw [← List.append_nil (frame inner)] at whole
  obtain ⟨missing, payloadEq⟩ := frame_start whole
  by_cases complete : missing = []
  · rw [complete, List.append_nil] at payloadEq
    rw [payloadEq, faithful.roundTrips.fromSlice serialised] at read
    exact (Except.ok.inj read).symm
  · exact absurd read
      (faithful.selfDelimiting sent payload inner missing serialised payloadEq complete received)

theorem frame_short {report : Bytes} (short : report.length < 256) :
    frame report = 0 :: 0 :: 0 :: UInt8.ofNat report.length :: report := by
  have small : report.length % 2 ^ 32 = report.length := Nat.mod_eq_of_lt (by omega)
  have high : report.length / 256 = 0 := Nat.div_eq_of_lt short
  rw [frame, small]
  simp only [bigEndian, high, Nat.zero_div, List.nil_append, List.cons_append]
  rfl

theorem zero_mem_of_start {bytes after more : Bytes} (start : bytes ++ after = 0 :: more) :
    bytes = [] ∨ (0 : UInt8) ∈ bytes := by
  cases bytes with
  | nil => exact Or.inl rfl
  | cons byte rest =>
      rw [(List.cons.inj start).1]
      exact Or.inr List.mem_cons_self

/-- A payload that reaches into the frame of a short report has a zero of its
header, or is empty. -/
theorem zero_mem_of_splice {first inside inner report : Bytes}
    (whole : frame inner = first ++ inside) (nonempty : first ≠ []) (reaches : inside ≠ [])
    (behind : inside <+: frame report) (short : report.length < 256)
    (fits : inner.length ≤ maxMsgBytes) : inner = [] ∨ (0 : UInt8) ∈ inner := by
  obtain ⟨h0, h1, h2, h3, header⟩ : ∃ h0 h1 h2 h3, bigEndian 4 inner.length = [h0, h1, h2, h3] :=
    ⟨_, _, _, _, rfl⟩
  have length : ofBigEndian [h0, h1, h2, h3] = inner.length := by
    rw [← header, ofBigEndian_bigEndian]
    unfold maxMsgBytes at fits
    omega
  rw [frame_of_fits inner fits, header] at whole
  rw [frame_short short] at behind
  obtain ⟨after, behind⟩ := behind
  -- How many bytes of the header were written before the report.
  rcases first with _ | ⟨_, _ | ⟨_, _ | ⟨_, _ | ⟨_, start⟩⟩⟩⟩
  · exact absurd rfl nonempty
  · obtain ⟨_, rfl⟩ := List.cons.inj whole
    obtain ⟨second, behind⟩ := List.cons.inj behind
    obtain ⟨third, behind⟩ := List.cons.inj behind
    obtain ⟨fourth, _⟩ := List.cons.inj behind
    left
    apply List.length_eq_zero_iff.mp
    rw [← length, second, third, fourth] at fits ⊢
    simp only [ofBigEndian, List.foldl_cons, List.foldl_nil, UInt8.toNat_zero] at fits ⊢
    unfold maxMsgBytes at fits
    omega
  · obtain ⟨_, rest⟩ := List.cons.inj whole
    obtain ⟨_, rfl⟩ := List.cons.inj rest
    obtain ⟨_, behind⟩ := List.cons.inj behind
    obtain ⟨_, behind⟩ := List.cons.inj behind
    exact zero_mem_of_start behind
  · obtain ⟨_, rest⟩ := List.cons.inj whole
    obtain ⟨_, rest⟩ := List.cons.inj rest
    obtain ⟨_, rfl⟩ := List.cons.inj rest
    obtain ⟨_, behind⟩ := List.cons.inj behind
    exact zero_mem_of_start behind
  · obtain ⟨_, rest⟩ := List.cons.inj whole
    obtain ⟨_, rest⟩ := List.cons.inj rest
    obtain ⟨_, rest⟩ := List.cons.inj rest
    obtain ⟨_, rfl⟩ := List.cons.inj rest
    rcases zero_mem_of_start behind with nothing | zero
    · exact absurd nothing reaches
    · exact Or.inr (List.mem_append_right _ zero)

/-- A frame that was cut off and a short frame behind it: the message that is
read from them is the first one. -/
theorem recvJson_of_splice (codec : JsonCodec α) (faithful : codec.Faithful)
    (textual : codec.Textual) {sent received : α} {payload report first second : Bytes}
    (serialised : codec.toVec sent = .ok payload) (isStart : first <+: frame payload)
    (nonempty : first ≠ []) (behind : second <+: frame report) (short : report.length < 256)
    (stream : Stream) (arrived : stream.incoming.flatten <+: first ++ second)
    (read : ((recvJson codec : Prog ω Stream String α).run stream).outcome = .ok received) :
    received = sent := by
  obtain ⟨inner, rest, arrivedEq, fits, innerRead⟩ :=
    (recvJson_outcome_eq_ok_iff codec stream received).mp read
  obtain ⟨after, whole⟩ := arrived
  rw [arrivedEq, List.append_assoc] at whole
  rcases List.append_eq_append_iff.mp whole with ⟨more, firstEq, _⟩ | ⟨inside, frameEq, secondEq⟩
  · rw [firstEq] at isStart
    exact faithful.fromSlice_of_start serialised ((List.prefix_append _ _).trans isStart) innerRead
  · by_cases reaches : inside = []
    · rw [reaches, List.append_nil] at frameEq
      rw [← frameEq] at isStart
      exact faithful.fromSlice_of_start serialised isStart innerRead
    · rw [secondEq] at behind
      obtain ⟨inhabited, noZero⟩ := textual inner received innerRead
      rcases zero_mem_of_splice frameEq nonempty reaches ((List.prefix_append _ _).trans behind)
          short fits with nothing | zero
      · exact absurd nothing inhabited
      · exact absurd zero noZero

namespace JsonForms

open CompactJson

theorem codec_textual {α : Type} (write : α → Json) (read : Json → Option α) :
    (codec write read).Textual := by
  intro text value accepted
  simp only [codec] at accepted
  split at accepted
  · rename_i result found
    obtain ⟨doc, parsed, _⟩ := Option.bind_eq_some_iff.mp found
    exact ⟨ofBytes_ne_nil parsed, ofBytes_no_zero parsed⟩
  · cases accepted

theorem responseCodec_textual : responseCodec.Textual := codec_textual _ _

end JsonForms

end AuthScope
