/-
A byte stream with a peer on the other side.

Arriving bytes come in chunks of any sizes, one per successful read; an exact
read gathers as many chunks as it needs and fails when they run out.  Each write
or flush may succeed or stop after any number of bytes with an error, and a
later one may succeed again.
-/

import AuthScope.Foundation.ByteText
import AuthScope.Foundation.EffectLog

set_option autoImplicit false

namespace ByteStream

open ByteText EffectLog

inductive WriteResult where
  | done
  | failsAfter (count : Nat) (message : String)
  deriving DecidableEq, Repr

structure Stream where
  incoming : List Bytes
  /-- The error of a read past the last chunk. -/
  endMessage : String
  /-- How the coming writes and flushes end; those beyond the list succeed. -/
  writeResults : List WriteResult
  outgoing : Bytes
  deriving DecidableEq, Repr

variable {ω : Type}

def takeExact : Nat → List Bytes → Option (Bytes × List Bytes)
  | count, [] => if count = 0 then some ([], []) else none
  | count, chunk :: rest =>
      if count ≤ chunk.length then some (chunk.take count, chunk.drop count :: rest)
      else
        match takeExact (count - chunk.length) rest with
        | some (bytes, left) => some (chunk ++ bytes, left)
        | none => none

/-- Only the concatenation of the chunks matters. -/
theorem takeExact_spec (count : Nat) (chunks : List Bytes)
    (enough : count ≤ chunks.flatten.length) :
    ∃ left, takeExact count chunks = some (chunks.flatten.take count, left) ∧
      left.flatten = chunks.flatten.drop count := by
  induction chunks generalizing count with
  | nil =>
      have zero : count = 0 := Nat.le_zero.mp enough
      subst zero
      exact ⟨[], rfl, rfl⟩
  | cons chunk rest ih =>
      simp only [takeExact, List.flatten_cons]
      by_cases within : count ≤ chunk.length
      · rw [if_pos within]
        refine ⟨chunk.drop count :: rest, ?_, ?_⟩
        · rw [List.take_append_of_le_length within]
        · rw [List.flatten_cons, List.drop_append_of_le_length within]
      · have beyond : chunk.length ≤ count := Nat.le_of_not_le within
        have remaining : count - chunk.length ≤ rest.flatten.length := by
          rw [List.flatten_cons, List.length_append] at enough
          omega
        obtain ⟨left, found, leftEq⟩ := ih (count - chunk.length) remaining
        rw [if_neg within, found]
        refine ⟨left, ?_, ?_⟩
        · rw [List.take_append, List.take_of_length_le beyond]
        · rw [leftEq, List.drop_append, List.drop_of_length_le beyond, List.nil_append]

theorem takeExact_none (count : Nat) (chunks : List Bytes)
    (short : chunks.flatten.length < count) : takeExact count chunks = none := by
  induction chunks generalizing count with
  | nil =>
      have nonzero : count ≠ 0 := Nat.ne_of_gt short
      simp only [takeExact, if_neg nonzero]
  | cons chunk rest ih =>
      rw [List.flatten_cons, List.length_append] at short
      have beyond : ¬count ≤ chunk.length := by omega
      have remaining : rest.flatten.length < count - chunk.length := by omega
      simp only [takeExact, if_neg beyond, ih (count - chunk.length) remaining]

def readExact (count : Nat) : Prog ω Stream String Bytes :=
  ⟨fun stream =>
    match takeExact count stream.incoming with
    | some (bytes, left) =>
        { outcome := .ok bytes, state := { stream with incoming := left }, log := [] }
    | none =>
        { outcome := .err stream.endMessage
          state := { stream with incoming := [] }
          log := [] }⟩

theorem readExact_run_of_enough (count : Nat) (stream : Stream)
    (enough : count ≤ stream.incoming.flatten.length) :
    ∃ left, left.flatten = stream.incoming.flatten.drop count ∧
      (readExact count : Prog ω Stream String Bytes).run stream =
        { outcome := .ok (stream.incoming.flatten.take count)
          state := { stream with incoming := left }
          log := [] } := by
  obtain ⟨left, found, leftEq⟩ := takeExact_spec count stream.incoming enough
  refine ⟨left, leftEq, ?_⟩
  simp only [readExact, found]

theorem readExact_run_of_short (count : Nat) (stream : Stream)
    (short : stream.incoming.flatten.length < count) :
    (readExact count : Prog ω Stream String Bytes).run stream =
      { outcome := .err stream.endMessage
        state := { stream with incoming := [] }
        log := [] } := by
  simp only [readExact, takeExact_none count stream.incoming short]

theorem readExact_state (count : Nat) (stream : Stream) :
    ∃ left, ((readExact count : Prog ω Stream String Bytes).run stream).state =
      { stream with incoming := left } := by
  simp only [readExact]
  split
  · exact ⟨_, rfl⟩
  · exact ⟨_, rfl⟩

/-! ### Writing -/

def writeAll (bytes : Bytes) : Prog ω Stream String Unit :=
  ⟨fun stream =>
    match stream.writeResults with
    | [] =>
        { outcome := .ok ()
          state := { stream with outgoing := stream.outgoing ++ bytes }
          log := [] }
    | .done :: later =>
        { outcome := .ok ()
          state := { stream with
            writeResults := later
            outgoing := stream.outgoing ++ bytes }
          log := [] }
    | .failsAfter count message :: later =>
        { outcome := .err message
          state := { stream with
            writeResults := later
            outgoing := stream.outgoing ++ bytes.take count }
          log := [] }⟩

def flush : Prog ω Stream String Unit :=
  ⟨fun stream =>
    match stream.writeResults with
    | [] => { outcome := .ok (), state := stream, log := [] }
    | .done :: later =>
        { outcome := .ok (), state := { stream with writeResults := later }, log := [] }
    | .failsAfter _ message :: later =>
        { outcome := .err message, state := { stream with writeResults := later }, log := [] }⟩

/-- A stream whose writes and flushes all succeed. -/
def Stream.Reliable (stream : Stream) : Prop := stream.writeResults = []

theorem writeAll_of_ok (bytes : Bytes) (stream : Stream)
    (written : ((writeAll bytes : Prog ω Stream String Unit).run stream).outcome = .ok ()) :
    ∃ later, ((writeAll bytes : Prog ω Stream String Unit).run stream).state =
      { stream with writeResults := later, outgoing := stream.outgoing ++ bytes } := by
  unfold writeAll at written ⊢
  cases results : stream.writeResults with
  | nil => exact ⟨stream.writeResults, by simp only [results]⟩
  | cons result later =>
      cases result with
      | done => exact ⟨later, by simp only [results]⟩
      | failsAfter count message =>
          simp only [results] at written
          cases written

theorem flush_state (stream : Stream) :
    ∃ later, ((flush : Prog ω Stream String Unit).run stream).state =
      { stream with writeResults := later } := by
  obtain ⟨incoming, endMessage, writeResults, outgoing⟩ := stream
  cases writeResults with
  | nil => exact ⟨[], rfl⟩
  | cons result later =>
      cases result with
      | done => exact ⟨later, rfl⟩
      | failsAfter count message => exact ⟨later, rfl⟩

theorem writeAll_log (bytes : Bytes) (stream : Stream) :
    ((writeAll bytes : Prog ω Stream String Unit).run stream).log = [] := by
  simp only [writeAll]
  split <;> rfl

theorem flush_log (stream : Stream) :
    ((flush : Prog ω Stream String Unit).run stream).log = [] := by
  simp only [flush]
  split <;> rfl

theorem readExact_log (count : Nat) (stream : Stream) :
    ((readExact count : Prog ω Stream String Bytes).run stream).log = [] := by
  simp only [readExact]
  split <;> rfl

end ByteStream
