/-
Issuance safety of the server.

Whatever connections arrive and however their handlers interleave, a
certificate is answered, and the key of the authority is used, only for a
connection from the expected port whose request the policy grants to the peer
the kernel reports.  The invariant says this of every answer and signature made
so far and remembers, for a handler in the middle of its work, what it has
already checked.
-/

import AuthScope.Reference.Scenario
import AuthScope.Server.Listener

set_option autoImplicit false

namespace AuthScope

open ByteText EffectLog ByteStream StateMachine

variable {κ : Type} (libs : Libraries κ) (config : HostConfig) (ca : CertificateAuthority)

/-- What a connection must have shown before the key is used for it. -/
structure Admitted (conn : Connection) (req : CertRequest) (vmEntry : VmEntry)
    (policy : EntityPolicy) : Prop where
  port : conn.peerPort = config.peerPort
  received : ((recvJson libs.requestJson : Prog SignEvent Stream String CertRequest).run
    conn.arrival).outcome = .ok req
  authorised : Authorised config conn.peerCid req vmEntry policy

/-- A certificate in an answer was signed for a request that was admitted. -/
def Justified (conn : Connection) (response : CertResponse) : Prop :=
  ∀ certPem caCertPem, response = .ok certPem caCertPem →
    caCertPem = ca.certPem ∧
      ∃ req vmEntry policy env, Admitted libs config conn req vmEntry policy ∧
        ∃ issuance : Issuance κ,
          issuance.Valid libs env ca (signingRequest conn.peerCid req
            (decisionOf config req.vmName vmEntry policy)) ∧
          certPem = issuance.pem libs

structure ConnectionInv (index : Nat) (conn : Connection)
    (signatures : List (Nat × SignEvent)) : Prop where
  reading : conn.phase = .reading →
    conn.stream = conn.arrival ∧ conn.peerPort = config.peerPort
  deciding : ∀ req, conn.phase = .deciding req →
    conn.peerPort = config.peerPort ∧
      ((recvJson libs.requestJson : Prog SignEvent Stream String CertRequest).run
        conn.arrival).outcome = .ok req
  answering : ∀ response, conn.phase = .answering response → Justified libs config ca conn response
  answered : ∀ response ∈ conn.answers, Justified libs config ca conn response
  signed : ∀ event, (index, event) ∈ signatures →
    ∃ req vmEntry policy, Admitted libs config conn req vmEntry policy

structure ServerInv (state : ServerState) : Prop where
  connections : ∀ index conn, state.connections[index]? = some conn →
    ConnectionInv libs config ca index conn state.signatures
  signatures : ∀ index event, (index, event) ∈ state.signatures →
    index < state.connections.length

variable {libs config ca}

structure SamePeer (conn later : Connection) : Prop where
  port : later.peerPort = conn.peerPort
  cid : later.peerCid = conn.peerCid
  arrival : later.arrival = conn.arrival

variable (libs config ca) in
theorem advance_samePeer (env : SigningEnvironment) (conn : Connection) :
    SamePeer conn (conn.advance libs config ca env).1 := by
  unfold Connection.advance
  cases conn.phase with
  | reading => exact ⟨rfl, rfl, rfl⟩
  | deciding req => exact ⟨rfl, rfl, rfl⟩
  | answering response => exact ⟨rfl, rfl, rfl⟩
  | reporting message => exact ⟨rfl, rfl, rfl⟩
  | closed => exact ⟨rfl, rfl, rfl⟩

variable (libs config ca) in
theorem advance_answers (env : SigningEnvironment) (conn : Connection) :
    conn.answers <+: (conn.advance libs config ca env).1.answers := by
  unfold Connection.advance
  cases conn.phase with
  | reading => exact List.prefix_refl _
  | deciding req => exact List.prefix_refl _
  | answering response => exact List.prefix_append _ _
  | reporting message => exact List.prefix_append _ _
  | closed => exact List.prefix_refl _

def ConnectionsKept (before after : List Connection) : Prop :=
  ∀ (index : Nat) (conn : Connection), before[index]? = some conn →
    ∃ later : Connection, after[index]? = some later ∧ SamePeer conn later ∧
      conn.answers <+: later.answers

theorem ConnectionsKept.refl (connections : List Connection) :
    ConnectionsKept connections connections :=
  fun _ conn present => ⟨conn, present, ⟨rfl, rfl, rfl⟩, List.prefix_refl _⟩

variable (libs config ca) in
theorem serverNext_connections (state : ServerState) (action : ServerAction) :
    ConnectionsKept state.connections
      (serverNext libs config ca state action).connections := by
  intro index conn present
  have within := (List.getElem?_eq_some_iff.mp present).1
  cases action with
  | accept peerPort peerCid stream =>
      refine ⟨conn, ?_, ⟨rfl, rfl, rfl⟩, List.prefix_refl _⟩
      change (state.connections ++ [_])[index]? = _
      rw [List.getElem?_append_left within]
      exact present
  | acceptFailed => exact ConnectionsKept.refl _ index conn present
  | advance stepped env =>
      cases steppedPresent : state.connections[stepped]? with
      | none =>
          simp only [serverNext, steppedPresent]
          exact ConnectionsKept.refl _ index conn present
      | some other =>
          simp only [serverNext, steppedPresent]
          by_cases same : stepped = index
          · subst same
            rw [present] at steppedPresent
            cases steppedPresent
            exact ⟨_, List.getElem?_set_self within, advance_samePeer libs config ca env conn,
              advance_answers libs config ca env conn⟩
          · rw [← List.getElem?_set_ne same] at present
            exact ConnectionsKept.refl _ index conn present

theorem advanceMany_samePeer (env : SigningEnvironment) (count : Nat) (conn : Connection) :
    SamePeer conn (conn.advanceMany libs config ca env count).1 := by
  induction count generalizing conn with
  | zero => exact ⟨rfl, rfl, rfl⟩
  | succ count ih =>
      have first := advance_samePeer libs config ca env conn
      have later := ih (conn.advance libs config ca env).1
      exact ⟨later.port.trans first.port, later.cid.trans first.cid,
        later.arrival.trans first.arrival⟩

theorem Admitted.transfer {conn later : Connection} {req : CertRequest} {vmEntry : VmEntry}
    {policy : EntityPolicy} (same : SamePeer conn later)
    (admitted : Admitted libs config conn req vmEntry policy) :
    Admitted libs config later req vmEntry policy := by
  refine ⟨same.port.trans admitted.port, ?_, ?_⟩
  · rw [same.arrival]
    exact admitted.received
  · rw [same.cid]
    exact admitted.authorised

theorem Justified.transfer {conn later : Connection} {response : CertResponse}
    (same : SamePeer conn later) (justified : Justified libs config ca conn response) :
    Justified libs config ca later response := by
  intro certPem caCertPem isOk
  obtain ⟨caEq, req, vmEntry, policy, env, admitted, issuance, valid, issued⟩ :=
    justified certPem caCertPem isOk
  refine ⟨caEq, req, vmEntry, policy, env, admitted.transfer same, issuance, ?_, issued⟩
  rw [same.cid]
  exact valid

theorem justified_error (conn : Connection) (message : String) :
    Justified libs config ca conn (.error message) := by
  intro certPem caCertPem impossible
  cases impossible

theorem after_eq_iff {α : Type} {next : α → Phase} {phase : Phase} {outcome : Outcome String α}
    (notReporting : ∀ message, phase ≠ .reporting message) (notClosed : phase ≠ .closed) :
    Phase.after next outcome = phase ↔ ∃ value, outcome = .ok value ∧ next value = phase := by
  cases outcome with
  | ok value => simp [Phase.after]
  | err message => simp [Phase.after, (notReporting message).symm]
  | panic => simp [Phase.after, notClosed.symm]

theorem after_ne {α : Type} {next : α → Phase} {phase : Phase} {outcome : Outcome String α}
    (notNext : ∀ value, next value ≠ phase) (notReporting : ∀ message, phase ≠ .reporting message)
    (notClosed : phase ≠ .closed) : Phase.after next outcome ≠ phase := by
  intro reached
  obtain ⟨value, _, same⟩ := (after_eq_iff notReporting notClosed).mp reached
  exact notNext value same

section Advance

variable (env : SigningEnvironment) (index : Nat) (conn : Connection)
  (signatures : List (Nat × SignEvent))

/-- Only a decision uses the key, and only for an admitted request. -/
theorem advance_signed (inv : ConnectionInv libs config ca index conn signatures)
    (event : SignEvent) (member : event ∈ (conn.advance libs config ca env).2) :
    ∃ req vmEntry policy, Admitted libs config conn req vmEntry policy := by
  unfold Connection.advance at member
  cases phase : conn.phase with
  | reading =>
      rw [phase] at member
      dsimp only at member
      rw [recvJson_log] at member
      cases member
  | deciding req =>
      rw [phase] at member
      obtain ⟨port, received⟩ := inv.deciding req phase
      obtain ⟨vmEntry, policy, authorised⟩ := respond_log conn.stream req event member
      exact ⟨req, vmEntry, policy, port, received, authorised⟩
  | answering response =>
      rw [phase] at member
      dsimp only at member
      rw [sendJson_log] at member
      cases member
  | reporting message =>
      rw [phase] at member
      dsimp only at member
      rw [sendJson_log] at member
      cases member
  | closed =>
      rw [phase] at member
      cases member

/-- Every answer that is handed to the stream was decided before. -/
theorem advance_answered (inv : ConnectionInv libs config ca index conn signatures)
    (response : CertResponse) (member : response ∈ (conn.advance libs config ca env).1.answers) :
    Justified libs config ca conn response := by
  unfold Connection.advance at member
  cases phase : conn.phase with
  | reading =>
      rw [phase] at member
      exact inv.answered response member
  | deciding req =>
      rw [phase] at member
      exact inv.answered response member
  | answering current =>
      rw [phase] at member
      rcases List.mem_append.mp member with earlier | now
      · exact inv.answered response earlier
      · rw [List.mem_singleton.mp now]
        exact inv.answering current phase
  | reporting message =>
      rw [phase] at member
      rcases List.mem_append.mp member with earlier | now
      · exact inv.answered response earlier
      · rw [List.mem_singleton.mp now]
        exact justified_error conn message
  | closed =>
      rw [phase] at member
      exact inv.answered response member

theorem advance_deciding (inv : ConnectionInv libs config ca index conn signatures)
    (req : CertRequest) (deciding : (conn.advance libs config ca env).1.phase = .deciding req) :
    conn.peerPort = config.peerPort ∧
      ((recvJson libs.requestJson : Prog SignEvent Stream String CertRequest).run
        conn.arrival).outcome = .ok req := by
  unfold Connection.advance at deciding
  cases phase : conn.phase with
  | reading =>
      rw [phase] at deciding
      obtain ⟨streamEq, port⟩ := inv.reading phase
      obtain ⟨value, received, valueEq⟩ :=
        (after_eq_iff (by simp) (by simp)).mp deciding
      rw [streamEq] at received
      cases valueEq
      exact ⟨port, received⟩
  | deciding current =>
      rw [phase] at deciding
      exact absurd deciding (after_ne (by simp) (by simp) (by simp))
  | answering response =>
      rw [phase] at deciding
      exact absurd deciding (after_ne (by simp) (by simp) (by simp))
  | reporting message =>
      rw [phase] at deciding
      cases deciding
  | closed =>
      rw [phase] at deciding
      rw [phase] at deciding
      cases deciding

theorem advance_answering (inv : ConnectionInv libs config ca index conn signatures)
    (response : CertResponse)
    (answering : (conn.advance libs config ca env).1.phase = .answering response) :
    Justified libs config ca conn response := by
  unfold Connection.advance at answering
  cases phase : conn.phase with
  | reading =>
      rw [phase] at answering
      exact absurd answering (after_ne (by simp) (by simp) (by simp))
  | deciding req =>
      rw [phase] at answering
      obtain ⟨port, received⟩ := inv.deciding req phase
      obtain ⟨value, responded, valueEq⟩ :=
        (after_eq_iff (by simp) (by simp)).mp answering
      cases valueEq
      intro certPem caCertPem isOk
      rw [isOk] at responded
      obtain ⟨vmEntry, policy, authorised, caEq, issuance, valid, issued⟩ :=
        (respond_eq_ok_iff conn.stream req certPem caCertPem).mp responded
      exact ⟨caEq, req, vmEntry, policy, env, ⟨port, received, authorised⟩, issuance, valid,
        issued⟩
  | answering current =>
      rw [phase] at answering
      exact absurd answering (after_ne (by simp) (by simp) (by simp))
  | reporting message =>
      rw [phase] at answering
      cases answering
  | closed =>
      rw [phase] at answering
      rw [phase] at answering
      cases answering

theorem advance_not_reading : (conn.advance libs config ca env).1.phase ≠ .reading := by
  unfold Connection.advance
  intro reading
  cases phase : conn.phase with
  | reading =>
      rw [phase] at reading
      exact absurd reading (after_ne (by simp) (by simp) (by simp))
  | deciding req =>
      rw [phase] at reading
      exact absurd reading (after_ne (by simp) (by simp) (by simp))
  | answering response =>
      rw [phase] at reading
      exact absurd reading (after_ne (by simp) (by simp) (by simp))
  | reporting message =>
      rw [phase] at reading
      cases reading
  | closed =>
      rw [phase] at reading
      rw [phase] at reading
      cases reading

/-- One part of a handler keeps what is known of its connection. -/
theorem advance_inv (inv : ConnectionInv libs config ca index conn signatures) :
    ConnectionInv libs config ca index (conn.advance libs config ca env).1
      (signatures ++ (conn.advance libs config ca env).2.map fun event => (index, event)) := by
  have same := advance_samePeer libs config ca env conn
  constructor
  · intro reading
    exact absurd reading (advance_not_reading env conn)
  · intro req deciding
    rw [same.port, same.arrival]
    exact advance_deciding env index conn signatures inv req deciding
  · intro response answering
    exact (advance_answering env index conn signatures inv response answering).transfer same
  · intro response member
    exact (advance_answered env index conn signatures inv response member).transfer same
  · intro event member
    have admitted : ∃ req vmEntry policy, Admitted libs config conn req vmEntry policy := by
      rcases List.mem_append.mp member with earlier | now
      · exact inv.signed event earlier
      · obtain ⟨made, present, tagged⟩ := List.mem_map.mp now
        cases tagged
        exact advance_signed env index conn signatures inv event present
    obtain ⟨req, vmEntry, policy, shown⟩ := admitted
    exact ⟨req, vmEntry, policy, shown.transfer same⟩

end Advance

/-! ### All runs -/

theorem acceptConnection_phase (peerPort peerCid : UInt32) (stream : Stream)
    (port : peerPort = config.peerPort) :
    (acceptConnection config peerPort peerCid stream).phase = .reading :=
  if_neg (not_not.mpr port)

theorem acceptConnection_peerCid (peerPort peerCid : UInt32) (stream : Stream) :
    (acceptConnection config peerPort peerCid stream).peerCid = peerCid := rfl

theorem acceptConnection_stream (peerPort peerCid : UInt32) (stream : Stream) :
    (acceptConnection config peerPort peerCid stream).stream = stream := rfl

theorem acceptConnection_inv (index : Nat) (peerPort peerCid : UInt32) (stream : Stream)
    (signatures : List (Nat × SignEvent))
    (unused : ∀ event, (index, event) ∉ signatures) :
    ConnectionInv libs config ca index (acceptConnection config peerPort peerCid stream)
      signatures := by
  constructor
  · intro reading
    refine ⟨rfl, ?_⟩
    by_cases wrongPort : peerPort ≠ config.peerPort
    · unfold acceptConnection at reading
      rw [if_pos wrongPort] at reading
      cases reading
    · exact not_not.mp wrongPort
  · intro req deciding
    unfold acceptConnection at deciding
    dsimp only at deciding
    split at deciding <;> cases deciding
  · intro response answering
    unfold acceptConnection at answering
    dsimp only at answering
    split at answering <;> cases answering
  · intro response member
    cases member
  · intro event member
    exact absurd member (unused event)

/-- Signatures of another connection do not matter. -/
theorem ConnectionInv.other {index other : Nat} {conn : Connection}
    {signatures : List (Nat × SignEvent)} (events : List SignEvent) (differs : index ≠ other)
    (inv : ConnectionInv libs config ca index conn signatures) :
    ConnectionInv libs config ca index conn
      (signatures ++ events.map fun event => (other, event)) := by
  refine ⟨inv.reading, inv.deciding, inv.answering, inv.answered, ?_⟩
  intro event member
  rcases List.mem_append.mp member with earlier | now
  · exact inv.signed event earlier
  · obtain ⟨made, _, tagged⟩ := List.mem_map.mp now
    exact absurd (Prod.mk.inj tagged).1.symm differs

theorem serverNext_inv (state : ServerState) (action : ServerAction)
    (inv : ServerInv libs config ca state) :
    ServerInv libs config ca (serverNext libs config ca state action) := by
  cases action with
  | accept peerPort peerCid stream =>
      constructor
      · intro index conn found
        change (state.connections ++ [_])[index]? = some conn at found
        rcases Nat.lt_trichotomy index state.connections.length with before | here | beyond
        · rw [List.getElem?_append_left before] at found
          exact inv.connections index conn found
        · rw [here, List.getElem?_append_right (Nat.le_refl _), Nat.sub_self] at found
          cases found
          apply acceptConnection_inv
          intro event member
          exact absurd (inv.signatures index event member) (by omega)
        · have outside : (state.connections ++
              [acceptConnection config peerPort peerCid stream]).length ≤ index := by
            rw [List.length_append, List.length_singleton]
            exact beyond
          rw [List.getElem?_eq_none outside] at found
          cases found
      · intro index event member
        change index < (state.connections ++ [_]).length
        rw [List.length_append]
        exact Nat.lt_add_right _ (inv.signatures index event member)
  | acceptFailed => exact inv
  | advance stepped env =>
      cases present : state.connections[stepped]? with
      | none =>
          have unchanged : serverNext libs config ca state (.advance stepped env) = state := by
            simp only [serverNext, present]
          rw [unchanged]
          exact inv
      | some conn =>
          have next : serverNext libs config ca state (.advance stepped env) =
              { connections := state.connections.set stepped
                  (conn.advance libs config ca env).1
                signatures := state.signatures ++
                  (conn.advance libs config ca env).2.map fun event => (stepped, event) } := by
            simp only [serverNext, present]
          rw [next]
          have steppedLt : stepped < state.connections.length :=
            (List.getElem?_eq_some_iff.mp present).1
          constructor
          · intro index other found
            by_cases same : index = stepped
            · subst same
              rw [List.getElem?_set_self steppedLt] at found
              cases found
              exact advance_inv env index conn state.signatures
                (inv.connections index conn present)
            · rw [List.getElem?_set_ne (Ne.symm same)] at found
              exact (inv.connections index other found).other _ same
          · intro index event member
            rw [List.length_set]
            rcases List.mem_append.mp member with earlier | now
            · exact inv.signatures index event earlier
            · obtain ⟨made, _, tagged⟩ := List.mem_map.mp now
              rw [← (Prod.mk.inj tagged).1]
              exact steppedLt

theorem server_inv {state : ServerState} (reached : (server libs config ca).Reachable state) :
    ServerInv libs config ca state := by
  refine reached.invariant ?_ ?_
  · intro initial isInitial
    rw [isInitial]
    constructor
    · intro index conn found
      cases found
    · intro index event member
      cases member
  · intro earlier action inv
    exact serverNext_inv earlier action inv

/-- Issuance safety: a certificate is answered only to an admitted request and
carries the configured claim for the peer, and a connection that shows no
admitted request never gets the key used. -/
theorem issuance_safe (noExtensions : libs.RequestsCarryNoExtensions) (state : ServerState)
    (reached : (server libs config ca).Reachable state) (index : Nat) (conn : Connection)
    (found : state.connections[index]? = some conn) :
    (∀ certPem caCertPem, .ok certPem caCertPem ∈ conn.answers →
      caCertPem = ca.certPem ∧
        ∃ req vmEntry policy claim, Admitted libs config conn req vmEntry policy ∧
          CarriesClaim libs ca certPem claim ∧
          claim.sub = req.entity ∧ claim.vm = req.vmName ∧ claim.cid = conn.peerCid ∧
          claim.caps = policy.caps ∧
          (claim.exp - claim.iat).toInt =
            86400 * (policy.validityDays.getD config.certValidityDays).toNat ∧
          (claim.iat.toInt +
              86400 * (policy.validityDays.getD config.certValidityDays).toNat < 2 ^ 63 →
            claim.exp.toInt - claim.iat.toInt =
              86400 * (policy.validityDays.getD config.certValidityDays).toNat)) ∧
    ((¬∃ req vmEntry policy, Admitted libs config conn req vmEntry policy) →
      ∀ event, (index, event) ∉ state.signatures) := by
  have inv := (server_inv reached).connections index conn found
  constructor
  · intro certPem caCertPem answered
    obtain ⟨caEq, req, vmEntry, policy, env, admitted, issuance, valid, issued⟩ :=
      inv.answered _ answered certPem caCertPem rfl
    have carries := Issuance.Valid.carriesClaim noExtensions valid
    rw [← issued] at carries
    refine ⟨caEq, req, vmEntry, policy, _, admitted, carries, rfl, rfl, rfl, rfl, ?_, ?_⟩
    · rw [buildClaim_exp_sub_iat]
      exact validitySecs_toInt _
    · intro fits
      have expiry := buildClaim_exp_toInt issuance.now (signingRequest conn.peerCid req
        (decisionOf config req.vmName vmEntry policy)) fits
      have stamped : (buildClaim issuance.now (signingRequest conn.peerCid req
          (decisionOf config req.vmName vmEntry policy))).iat.toInt = issuance.now.toInt := rfl
      have days : (signingRequest conn.peerCid req
          (decisionOf config req.vmName vmEntry policy)).validityDays =
            policy.validityDays.getD config.certValidityDays := rfl
      rw [expiry, stamped, days]
      omega
  · intro nothingShown event member
    exact nothingShown (inv.signed event member)

/-- An authorised request whose signature succeeds is answered with it. -/
theorem answers_of_authorised (env : SigningEnvironment) (conn : Connection)
    (fresh : conn.phase = .reading) {req : CertRequest} {vmEntry : VmEntry}
    {policy : EntityPolicy} {issuance : Issuance κ}
    (received : ((recvJson libs.requestJson : Prog SignEvent Stream String CertRequest).run
      conn.stream).outcome = .ok req)
    (authorised : Authorised config conn.peerCid req vmEntry policy)
    (valid : issuance.Valid libs env ca (signingRequest conn.peerCid req
      (decisionOf config req.vmName vmEntry policy))) :
    (conn.advanceMany libs config ca env 3).1.answers =
      conn.answers ++ [.ok (issuance.pem libs) ca.certPem] := by
  have responded : ∀ stream : Stream, ((respond libs env config ca conn.peerCid req :
      Prog SignEvent Stream String CertResponse).run stream).outcome =
        .ok (.ok (issuance.pem libs) ca.certPem) := fun stream =>
    (respond_eq_ok_iff stream req _ _).mpr
      ⟨vmEntry, policy, authorised, rfl, issuance, valid, rfl⟩
  have first : (conn.advance libs config ca env).1 = { conn with
      stream := (conn.advance libs config ca env).1.stream
      phase := .deciding req } := by
    simp only [Connection.advance, fresh, received, Phase.after]
  have second : ((conn.advance libs config ca env).1.advance libs config ca env).1 = { conn with
      stream := ((conn.advance libs config ca env).1.advance libs config ca env).1.stream
      phase := .answering (.ok (issuance.pem libs) ca.certPem) } := by
    rw [first]
    simp only [Connection.advance, responded, Phase.after]
  change (((conn.advance libs config ca env).1.advance libs config ca env).1.advance
    libs config ca env).1.answers = _
  rw [second]
  rfl

theorem run_last (env : SigningEnvironment) (count : Nat) (earlier : List Connection)
    (conn : Connection) (signatures : List (Nat × SignEvent)) :
    ∃ later, (server libs config ca).run { connections := earlier ++ [conn], signatures }
        (List.replicate count (.advance earlier.length env)) =
      { connections := earlier ++ [(conn.advanceMany libs config ca env count).1]
        signatures := later } := by
  induction count generalizing conn signatures with
  | zero => exact ⟨signatures, rfl⟩
  | succ count ih =>
      have found : (earlier ++ [conn])[earlier.length]? = some conn := by
        rw [List.getElem?_append_right (Nat.le_refl _), Nat.sub_self, List.getElem?_cons_zero]
      have replaced : (earlier ++ [conn]).set earlier.length
          (conn.advance libs config ca env).1 =
            earlier ++ [(conn.advance libs config ca env).1] := by
        rw [List.set_append_right _ _ (Nat.le_refl _), Nat.sub_self, List.set_cons_zero]
      have next : (server libs config ca).next { connections := earlier ++ [conn], signatures }
          (.advance earlier.length env) =
            { connections := earlier ++ [(conn.advance libs config ca env).1]
              signatures := signatures ++
                (conn.advance libs config ca env).2.map
                  fun event => (earlier.length, event) } := by
        simp only [server, serverNext, found, replaced]
      rw [List.replicate_succ, Machine.run, List.foldl_cons, next]
      exact ih _ _

theorem reachable_accept {state : ServerState} (reached : (server libs config ca).Reachable state)
    (env : SigningEnvironment) (count : Nat) (peerPort peerCid : UInt32) (stream : Stream) :
    ∃ later conn, (server libs config ca).Reachable later ∧
      later.connections = state.connections ++ [conn] ∧
      conn = ((acceptConnection config peerPort peerCid stream).advanceMany libs config ca env
        count).1 := by
  obtain ⟨logged, ran⟩ := @run_last _ libs config ca env count
    state.connections (acceptConnection config peerPort peerCid stream) state.signatures
  refine ⟨_, _, (reached.step (.accept peerPort peerCid stream)).run
    (List.replicate count (.advance state.connections.length env)), ?_, rfl⟩
  exact congrArg ServerState.connections ran

/-! ### A sample run -/

namespace Reference

def samplePolicy : EntityPolicy := { caps := sampleCaps, validityDays := some 10 }

def sampleVmEntry : VmEntry :=
  { vmCid := 3, entities := StringMap.empty.insert "svc" samplePolicy }

def sampleConfig : HostConfig :=
  { caCertPath := "/etc/auth-scope/ca-cert.pem"
    caKeyPath := "/etc/auth-scope/ca-key.pem"
    serverPort := 900
    certValidityDays := 365
    vms := StringMap.empty.insert "app-vm" sampleVmEntry
    peerPort := 901 }

def sampleCertRequest : CertRequest :=
  { version := 1
    vmName := "app-vm"
    entity := "svc"
    csrPem := sampleRequest.csrPem }

def streamOf (req : CertRequest) : Stream :=
  { incoming := [frame (CompactJson.toBytes (JsonForms.ofCertRequest req))]
    endMessage := "early eof"
    writeResults := []
    outgoing := [] }

theorem received_of_frame (signable : Bytes → Bool) (req : CertRequest)
    (fits : (CompactJson.toBytes (JsonForms.ofCertRequest req)).length ≤ maxMsgBytes)
    {stream : Stream}
    (arrived : stream.incoming = [frame (CompactJson.toBytes (JsonForms.ofCertRequest req))]) :
    ((recvJson (libraries signable).requestJson :
      Prog SignEvent Stream String CertRequest).run stream).outcome = .ok req := by
  refine (recvJson_outcome_eq_ok_iff _ _ _).mpr ⟨_, [], ?_, fits, ?_⟩
  · rw [arrived, List.flatten_singleton, List.append_nil]
  · exact JsonForms.requestCodec_roundTrips.fromSlice rfl

theorem received_streamOf (signable : Bytes → Bool) (req : CertRequest)
    (fits : (CompactJson.toBytes (JsonForms.ofCertRequest req)).length ≤ maxMsgBytes) :
    ((recvJson (libraries signable).requestJson :
      Prog SignEvent Stream String CertRequest).run (streamOf req)).outcome = .ok req :=
  received_of_frame signable req fits rfl

theorem sampleCertRequest_authorised :
    Authorised sampleConfig 3 sampleCertRequest sampleVmEntry samplePolicy :=
  ⟨rfl, StringMap.get_insert_self _ _ _, StringMap.get_insert_self _ _ _, rfl⟩

def sampleActions : List ServerAction :=
  .accept 901 3 (streamOf sampleCertRequest) :: List.replicate 3 (.advance 0 sampleEnv)

def sampleServer : Machine ServerState ServerAction :=
  server (libraries everything) sampleConfig (authority sampleKey)

theorem sampleSigningRequest :
    signingRequest 3 sampleCertRequest
      (decisionOf sampleConfig sampleCertRequest.vmName sampleVmEntry samplePolicy) =
        sampleRequest := by
  unfold signingRequest decisionOf sampleCertRequest sampleRequest
  rfl

def requestActions (req : CertRequest) : List ServerAction :=
  .accept 901 3 (streamOf req) :: List.replicate 3 (.advance 0 sampleEnv)

theorem request_answered {config : HostConfig} {req : CertRequest} {vmEntry : VmEntry}
    {policy : EntityPolicy} {issuance : Issuance Bytes}
    (fits : (CompactJson.toBytes (JsonForms.ofCertRequest req)).length ≤ maxMsgBytes)
    (authorised : Authorised config 3 req vmEntry policy)
    (valid : issuance.Valid (libraries everything) sampleEnv (authority sampleKey)
      (signingRequest 3 req (decisionOf config req.vmName vmEntry policy)))
    (conn : Connection) (fresh : conn.phase = .reading) (cid : conn.peerCid = 3)
    (stream : conn.stream = streamOf req) :
    .ok (issuance.pem (libraries everything)) (authority sampleKey).certPem ∈
      (conn.advanceMany (libraries everything) config (authority sampleKey)
        sampleEnv 3).1.answers := by
  have received := received_streamOf everything req fits
  rw [← cid] at valid authorised
  rw [← stream] at received
  rw [answers_of_authorised sampleEnv conn fresh received authorised valid]
  exact List.mem_append_right _ (List.mem_singleton_self _)

theorem request_run {req : CertRequest} {vmEntry : VmEntry} {policy : EntityPolicy}
    {issuance : Issuance Bytes}
    (fits : (CompactJson.toBytes (JsonForms.ofCertRequest req)).length ≤ maxMsgBytes)
    (authorised : Authorised sampleConfig 3 req vmEntry policy)
    (valid : issuance.Valid (libraries everything) sampleEnv (authority sampleKey)
      (signingRequest 3 req (decisionOf sampleConfig req.vmName vmEntry policy))) :
    ∃ conn, (sampleServer.run { connections := [], signatures := [] }
        (requestActions req)).connections[0]? = some conn ∧
      conn.arrival = streamOf req ∧
      .ok (issuance.pem (libraries everything)) (authority sampleKey).certPem ∈
        conn.answers := by
  have accepted : sampleServer.run { connections := [], signatures := [] }
        (requestActions req) =
      sampleServer.run { connections := [acceptConnection sampleConfig 901 3
        (streamOf req)], signatures := [] } (List.replicate 3 (.advance 0 sampleEnv)) := by
    unfold requestActions
    rw [Machine.run, List.foldl_cons]
    rfl
  obtain ⟨later, ran⟩ := @run_last _ (libraries everything) sampleConfig (authority sampleKey)
    sampleEnv 3 [] (acceptConnection sampleConfig 901 3 (streamOf req)) []
  rw [accepted]
  refine ⟨_, congrArg (fun state => state.connections[0]?) ran, ?_, ?_⟩
  · exact (advanceMany_samePeer sampleEnv 3 _).arrival
  · exact request_answered fits authorised valid _ (acceptConnection_phase 901 3 _ rfl)
      (acceptConnection_peerCid 901 3 _) (acceptConnection_stream 901 3 _)

theorem sample_run :
    ∃ conn, (sampleServer.run { connections := [], signatures := [] }
        sampleActions).connections[0]? = some conn ∧
      .ok (sampleIssuance.pem (libraries everything)) (authority sampleKey).certPem ∈
        conn.answers := by
  have valid := sampleIssuance_valid
    (admits_everything sampleKey sampleNow sampleRequest sampleCsr)
  rw [← sampleSigningRequest] at valid
  obtain ⟨conn, found, _, answered⟩ :=
    request_run (by decide +kernel) sampleCertRequest_authorised valid
  exact ⟨conn, found, answered⟩

end Reference

open Reference in
theorem issuance_safe_sample :
    ∃ claim, CarriesClaim (libraries everything) (authority sampleKey)
        (sampleIssuance.pem (libraries everything)) claim ∧
      ∃ state conn req vmEntry policy, state = sampleServer.run
          { connections := [], signatures := [] } sampleActions ∧
        state.connections[0]? = some conn ∧
        Admitted (libraries everything) sampleConfig conn req vmEntry policy ∧
        claim.sub = req.entity ∧ claim.caps = policy.caps := by
  have reached : sampleServer.Reachable
      (sampleServer.run { connections := [], signatures := [] } sampleActions) :=
    (Machine.Reachable.start rfl).run sampleActions
  obtain ⟨conn, found, answered⟩ := sample_run
  obtain ⟨certificates, _⟩ := issuance_safe (requestsCarryNoExtensions everything) _ reached 0
    conn found
  obtain ⟨_, req, vmEntry, policy, claim, admitted, carries, sub, _, _, caps, _⟩ :=
    certificates _ _ answered
  exact ⟨claim, carries, _, conn, req, vmEntry, policy, rfl, found, admitted, sub, caps⟩

end AuthScope
