/-
A host over the lives of its servers.

A daemon may stop at any time and be started again, several may run beside each
other, and files are edited between.  As long as the two files of an authority
stay as they are, every daemon that is configured for them uses that authority,
so the credentials of one life are accepted beside the certificate of another.
-/

import AuthScope.Network.Policy
import AuthScope.Server.Main

set_option autoImplicit false

namespace AuthScope

open ByteText EffectLog FileSystem StateMachine CertificateAuthority

/-- A daemon that came to its listener; from there on it may stop at any time. -/
structure Life where
  config : HostConfig
  ca : CertificateAuthority
  server : ServerState

structure HostState where
  disk : Disk
  lives : List Life

inductive HostAction where
  | start (cli : ServerCli) (env : StartEnvironment) (process : Process) (faults : List Fault)
  | serve (index : Nat) (action : ServerAction)
  | edit (path : Place) (node : Option File)

section Host

variable {κ : Type} (libs : Libraries κ) (certs : Bytes → List (Except String Bytes))
  (pathOf : String → Path) (fromStr : String → Except String HostConfig)

def HostState.start (state : HostState) (cli : ServerCli) (env : StartEnvironment)
    (process : Process) (faults : List Fault) :
    Run Files Disk ServerExit (HostConfig × CertificateAuthority) :=
  (startServer libs certs pathOf fromStr cli env).run { state.disk with process, faults }

def livesAfter (lives : List Life) :
    Outcome ServerExit (HostConfig × CertificateAuthority) → List Life
  | .ok (config, ca) =>
      lives ++ [{ config, ca, server := { connections := [], signatures := [] } }]
  | _ => lives

def hostNext (state : HostState) : HostAction → HostState
  | .start cli env process faults =>
      let run := state.start libs certs pathOf fromStr cli env process faults
      { disk := run.state, lives := livesAfter state.lives run.outcome }
  | .serve index action =>
      match state.lives[index]? with
      | none => state
      | some life =>
          { state with
            lives := state.lives.set index
              { life with server := serverNext libs life.config life.ca life.server action } }
  | .edit path node =>
      { state with disk := { state.disk with files := Function.update state.disk.files path node } }

def host : Machine HostState HostAction :=
  { initial := fun state => state.lives = []
    next := hostNext libs certs pathOf fromStr }

end Host

variable {κ : Type} {libs : Libraries κ} {certs : Bytes → List (Except String Bytes)}
  {pathOf : String → Path} {fromStr : String → Except String HostConfig}

theorem getElem?_livesAfter {lives : List Life} {index : Nat} {life : Life}
    {outcome : Outcome ServerExit (HostConfig × CertificateAuthority)}
    (present : (livesAfter lives outcome)[index]? = some life) :
    lives[index]? = some life ∨ index = lives.length ∧ outcome = .ok (life.config, life.ca) ∧
      life.server = { connections := [], signatures := [] } := by
  cases outcome with
  | err error => exact Or.inl present
  | panic => exact Or.inl present
  | ok made =>
      obtain ⟨config, ca⟩ := made
      change (lives ++ [_])[index]? = _ at present
      rcases Nat.lt_trichotomy index lives.length with before | here | beyond
      · rw [List.getElem?_append_left before] at present
        exact Or.inl present
      · rw [here, List.getElem?_append_right (Nat.le_refl _), Nat.sub_self] at present
        cases present
        exact Or.inr ⟨here, rfl, rfl⟩
      · rw [List.getElem?_eq_none (by rw [List.length_append]; exact beyond)] at present
        cases present

/-- A life is one that was there before, as it was or with one more step, or it
is a new one. -/
theorem getElem?_hostNext {state : HostState} {action : HostAction} {index : Nat} {life : Life}
    (present : (hostNext libs certs pathOf fromStr state action).lives[index]? = some life) :
    (∃ earlier, state.lives[index]? = some earlier ∧ life.config = earlier.config ∧
        life.ca = earlier.ca ∧ (life.server = earlier.server ∨
          ∃ step, life.server = serverNext libs life.config life.ca earlier.server step)) ∨
      ∃ cli env process faults, action = .start cli env process faults ∧
        index = state.lives.length ∧
        (state.start libs certs pathOf fromStr cli env process faults).outcome =
          .ok (life.config, life.ca) ∧
        life.server = { connections := [], signatures := [] } := by
  cases action with
  | start cli env process faults =>
      rcases getElem?_livesAfter present with before | ⟨here, returned, fresh⟩
      · exact Or.inl ⟨life, before, rfl, rfl, Or.inl rfl⟩
      · exact Or.inr ⟨cli, env, process, faults, rfl, here, returned, fresh⟩
  | edit path node => exact Or.inl ⟨life, present, rfl, rfl, Or.inl rfl⟩
  | serve stepped step =>
      cases found : state.lives[stepped]? with
      | none =>
          simp only [hostNext, found] at present
          exact Or.inl ⟨life, present, rfl, rfl, Or.inl rfl⟩
      | some served =>
          simp only [hostNext, found] at present
          by_cases same : stepped = index
          · subst same
            rw [List.getElem?_set_self (List.getElem?_eq_some_iff.mp found).1] at present
            cases present
            exact Or.inl ⟨served, found, rfl, rfl, Or.inr ⟨step, rfl⟩⟩
          · rw [List.getElem?_set_ne same] at present
            exact Or.inl ⟨life, present, rfl, rfl, Or.inl rfl⟩

/-- Every life serves by its own configuration and authority. -/
theorem host_serves {state : HostState}
    (reached : (host libs certs pathOf fromStr).Reachable state) :
    ∀ (index : Nat) (life : Life), state.lives[index]? = some life →
      (server libs life.config life.ca).Reachable life.server := by
  apply reached.invariant
  · intro initial isInitial index life present
    have none : initial.lives = [] := isInitial
    rw [none] at present
    cases present
  · intro earlier action serves index life present
    rcases getElem?_hostNext present with
      ⟨before, there, sameConfig, sameCa, served⟩ | ⟨_, _, _, _, _, _, _, fresh⟩
    · have reachedBefore := serves index before there
      rw [← sameConfig, ← sameCa] at reachedBefore
      rcases served with same | ⟨step, stepped⟩
      · rw [same]
        exact reachedBefore
      · rw [stepped]
        exact reachedBefore.step step
    · rw [fresh]
      exact Machine.Reachable.start rfl

/-- A start changes no file but those of the authority that it is configured for,
and these only if it generates. -/
theorem start_files (laws : FormsLaw libs certs) (state : HostState) (cli : ServerCli)
    (env : StartEnvironment) (process : Process) (faults : List Fault) {other : Place}
    (foreign : cli.genkey = true → ∀ cfg, Configures fromStr state.disk.files cli.config cfg →
      other ≠ pathOf cfg.caCertPath ∧ other ≠ pathOf cfg.caKeyPath) :
    (state.start libs certs pathOf fromStr cli env process faults).state.files other =
      state.disk.files other := by
  have leaves := startServer_leaves libs certs pathOf fromStr cli env
    { state.disk with process, faults } laws
  have framed {cfg : HostConfig} (genkey : cli.genkey = true)
      (configures : Configures fromStr state.disk.files cli.config cfg) :=
    leaves.frame cfg configures other (foreign genkey cfg configures).1
      (foreign genkey cfg configures).2
  by_cases genkey : cli.genkey = true
  · cases exit : ((startServer libs certs pathOf fromStr cli env).run
        { state.disk with process, faults }).outcome with
    | panic => exact absurd exit leaves.ne_panic
    | ok made => exact framed genkey (leaves.running made.1 made.2 exit).2.1
    | err error =>
        cases error with
        | notRoot => exact congrFun (leaves.kept (Or.inr (Or.inl exit))) other
        | config error =>
            exact congrFun (leaves.kept (Or.inr (Or.inr ⟨error, exit⟩))) other
        | caLoad error =>
            obtain ⟨_, _, cfg, configures, _⟩ := leaves.caLoad error exit
            exact framed genkey configures
        | caInit error =>
            obtain ⟨_, _, cfg, configures, _⟩ := leaves.caInit error exit
            exact framed genkey configures
        | listener message =>
            obtain ⟨_, cfg, _, configures, _⟩ := leaves.listener message exit
            exact framed genkey configures
  · exact congrFun (leaves.kept (Or.inl (by simpa using genkey))) other

section Since

variable (certFile keyFile : Place)

def Life.Uses (pathOf : String → Path) (life : Life) : Prop :=
  (pathOf life.config.caCertPath).place = certFile ∧
    (pathOf life.config.caKeyPath).place = keyFile

instance (pathOf : String → Path) (life : Life) : Decidable (life.Uses certFile keyFile pathOf) :=
  inferInstanceAs (Decidable (_ ∧ _))

section Spares

variable (libs certs pathOf fromStr)

def HostAction.Spares (state : HostState) (action : HostAction) : Prop :=
  (hostNext libs certs pathOf fromStr state action).disk.files certFile =
      state.disk.files certFile ∧
    (hostNext libs certs pathOf fromStr state action).disk.files keyFile =
      state.disk.files keyFile

def SparesAll : HostState → List HostAction → Prop
  | _, [] => True
  | state, action :: rest =>
      action.Spares libs certs pathOf fromStr certFile keyFile state ∧
        SparesAll (hostNext libs certs pathOf fromStr state action) rest

/-- The files hold the authority, and every life from this one on that is
configured for them uses it. -/
structure AuthoritySince (first : Nat) (ca : CertificateAuthority) (state : HostState) : Prop where
  held : LoadedFrom libs certs certFile keyFile state.disk.files ca
  lives : ∀ (index : Nat) (life : Life), first ≤ index → state.lives[index]? = some life →
    life.Uses certFile keyFile pathOf → life.ca = ca

end Spares

variable {certFile keyFile}

theorem HostAction.spares_start (laws : FormsLaw libs certs) (state : HostState)
    (cli : ServerCli) (env : StartEnvironment) (process : Process) (faults : List Fault)
    (foreign : cli.genkey = true → ∀ cfg, Configures fromStr state.disk.files cli.config cfg →
      ∀ file ∈ [certFile, keyFile], file ≠ pathOf cfg.caCertPath ∧ file ≠ pathOf cfg.caKeyPath) :
    (HostAction.start cli env process faults).Spares libs certs pathOf fromStr certFile keyFile
      state := by
  constructor
  · apply start_files laws
    intro genkey cfg configures
    exact foreign genkey cfg configures certFile List.mem_cons_self
  · apply start_files laws
    intro genkey cfg configures
    exact foreign genkey cfg configures keyFile (by simp)

theorem HostAction.spares_serve (state : HostState) (index : Nat) (step : ServerAction) :
    (HostAction.serve index step).Spares libs certs pathOf fromStr certFile keyFile state := by
  unfold HostAction.Spares
  cases found : state.lives[index]? with
  | none => simp only [hostNext, found, and_self]
  | some life => simp only [hostNext, found, and_self]

theorem sparesAll_serve (steps : List ServerAction) (index : Nat) (state : HostState) :
    SparesAll libs certs pathOf fromStr certFile keyFile state (steps.map (.serve index)) := by
  induction steps generalizing state with
  | nil => trivial
  | cons step rest ih => exact ⟨HostAction.spares_serve state index step, ih _⟩

variable (laws : FormsLaw libs certs) (distinct : certFile ≠ keyFile)

include laws distinct

theorem AuthoritySince.next {first : Nat} {ca : CertificateAuthority} {state : HostState}
    (since : AuthoritySince libs certs pathOf certFile keyFile first ca state)
    {action : HostAction}
    (spares : action.Spares libs certs pathOf fromStr certFile keyFile state) :
    AuthoritySince libs certs pathOf certFile keyFile first ca
      (hostNext libs certs pathOf fromStr state action) := by
  have held := since.held.congr spares.1 spares.2
  constructor
  · exact held
  · intro index life later present uses
    rcases getElem?_hostNext present with
      ⟨before, there, sameConfig, sameCa, _⟩ | ⟨cli, env, process, faults, started, _, returned, _⟩
    · unfold Life.Uses at uses
      rw [sameConfig] at uses
      exact sameCa.trans (since.lives index before later there uses)
    · subst started
      have leaves := startServer_leaves libs certs pathOf fromStr cli env
        { state.disk with process, faults } laws
      obtain ⟨_, _, _, _, loads⟩ := leaves.running life.config life.ca returned
      rw [uses.1, uses.2] at loads
      exact held.unique (loads distinct)

theorem AuthoritySince.run {first : Nat} {ca : CertificateAuthority} {state : HostState}
    (since : AuthoritySince libs certs pathOf certFile keyFile first ca state)
    (actions : List HostAction)
    (spares : SparesAll libs certs pathOf fromStr certFile keyFile state actions) :
    AuthoritySince libs certs pathOf certFile keyFile first ca
      ((host libs certs pathOf fromStr).run state actions) := by
  induction actions generalizing state with
  | nil => exact since
  | cons action rest ih => exact ih (since.next laws distinct spares.1) spares.2

end Since

/-! ### Credentials across restarts -/

theorem returned_of_started {state : HostState} {cli : ServerCli} {env : StartEnvironment}
    {process : Process} {faults : List Fault} {life : Life}
    (started : (hostNext libs certs pathOf fromStr state
      (.start cli env process faults)).lives = state.lives ++ [life]) :
    (state.start libs certs pathOf fromStr cli env process faults).outcome =
      .ok (life.config, life.ca) := by
  have present : (hostNext libs certs pathOf fromStr state
      (.start cli env process faults)).lives[state.lives.length]? = some life := by
    rw [started]
    exact List.getElem?_concat_length
  rcases getElem?_livesAfter present with before | ⟨_, returned, _⟩
  · rw [List.getElem?_eq_none (Nat.le_refl _)] at before
    cases before
  · exact returned

theorem generated_of_started (laws : FormsLaw libs certs) (state : HostState) {cli : ServerCli}
    {env : StartEnvironment} {process : Process} {faults : List Fault} {life : Life}
    (genkey : cli.genkey = true)
    (started : (hostNext libs certs pathOf fromStr state
      (.start cli env process faults)).lives = state.lives ++ [life]) :
    (generated libs env.keyNonce env.certNonce).outcome = .ok life.ca := by
  have leaves := startServer_leaves libs certs pathOf fromStr cli env
    { state.disk with process, faults } laws
  obtain ⟨_, _, obtains, _⟩ :=
    leaves.running life.config life.ca (returned_of_started started)
  rw [Obtains, if_pos genkey] at obtains
  exact obtains

theorem authoritySince_start (laws : FormsLaw libs certs) (state : HostState) {cli : ServerCli}
    {env : StartEnvironment} {process : Process} {faults : List Fault} {life : Life}
    (started : (hostNext libs certs pathOf fromStr state
      (.start cli env process faults)).lives = state.lives ++ [life])
    (distinct : (pathOf life.config.caCertPath).place ≠ (pathOf life.config.caKeyPath).place) :
    AuthoritySince libs certs pathOf (pathOf life.config.caCertPath)
      (pathOf life.config.caKeyPath) state.lives.length life.ca
      (hostNext libs certs pathOf fromStr state (.start cli env process faults)) := by
  have leaves := startServer_leaves libs certs pathOf fromStr cli env
    { state.disk with process, faults } laws
  obtain ⟨_, _, _, _, loads⟩ :=
    leaves.running life.config life.ca (returned_of_started started)
  constructor
  · exact loads distinct
  · intro index other later otherPresent _
    rw [started] at otherPresent
    have here : index = state.lives.length := by
      have within := (List.getElem?_eq_some_iff.mp otherPresent).1
      rw [List.length_append, List.length_singleton] at within
      omega
    rw [here, List.getElem?_concat_length] at otherPresent
    cases otherPresent
    rfl

/-- After a start, whatever stops, starts, serves and is edited without touching
its authority: what any daemon on these files answers is accepted beside the
certificate of the first one, for the policy of the daemon that answered. -/
theorem restarts_keep_credentials (laws : FormsLaw libs certs) (json : libs.ClaimJsonLaw)
    (signatures : libs.SignaturesVerify) (pemLaw : libs.PemLaw) (readBack : libs.ReadBackLaw)
    (noExtensions : libs.RequestsCarryNoExtensions) (state : HostState)
    (reached : (host libs certs pathOf fromStr).Reachable state) (cli : ServerCli)
    (env : StartEnvironment) (process : Process) (faults : List Fault) (life : Life)
    (started : (hostNext libs certs pathOf fromStr state
      (.start cli env process faults)).lives = state.lives ++ [life])
    (distinct : (pathOf life.config.caCertPath).place ≠ (pathOf life.config.caKeyPath).place)
    (key : κ) (matchesKey : life.ca.MatchesKey libs key)
    (sameVerifiers : libs.SameVerifiers (libs.publicKey key)) (actions : List HostAction)
    (spares : SparesAll libs certs pathOf fromStr (pathOf life.config.caCertPath)
      (pathOf life.config.caKeyPath)
      (hostNext libs certs pathOf fromStr state (.start cli env process faults)) actions)
    (after : HostState)
    (ran : (host libs certs pathOf fromStr).run (hostNext libs certs pathOf fromStr state
      (.start cli env process faults)) actions = after) :
    LoadedFrom libs certs (pathOf life.config.caCertPath) (pathOf life.config.caKeyPath)
        after.disk.files life.ca ∧
      ∀ (index : Nat) (other : Life), state.lives.length ≤ index →
        after.lives[index]? = some other →
        other.Uses (pathOf life.config.caCertPath) (pathOf life.config.caKeyPath) pathOf →
        other.ca = life.ca ∧
          ∀ conn ∈ other.server.connections, ∀ certPem caCertPem,
            .ok certPem caCertPem ∈ conn.answers →
            (∀ signing req (issuance : Issuance κ), issuance.Valid libs signing life.ca req →
              issuance.pem libs = certPem → (utf8 issuance.jwt).length < 65536) →
            (∃ certificate, Evaluator.Reads libs certPem certificate) →
            (∃ certificate, GoEvaluator.Reads libs (utf8 certPem) certificate) →
            caCertPem = life.ca.certPem ∧
              ∃ req vmEntry policy claim, Admitted libs other.config conn req vmEntry policy ∧
                claim.sub = req.entity ∧ claim.vm = req.vmName ∧ claim.cid = conn.peerCid ∧
                claim.caps = policy.caps ∧
                Evaluator.fromCertPem libs certPem life.ca.certPem = .ok { claim } ∧
                GoEvaluator.newEvaluator libs (utf8 certPem) (utf8 life.ca.certPem) =
                  .ok { claim := claim.map utf8 } := by
  have since : AuthoritySince libs certs pathOf (pathOf life.config.caCertPath)
      (pathOf life.config.caKeyPath) state.lives.length life.ca after := by
    rw [← ran]
    exact (authoritySince_start laws state started distinct).run laws distinct actions spares
  have reachedAfter : (host libs certs pathOf fromStr).Reachable after := by
    rw [← ran]
    exact (reached.step (.start cli env process faults)).run actions
  refine ⟨since.held, ?_⟩
  intro index other later present uses
  have sameCa := since.lives index other later present uses
  refine ⟨sameCa, ?_⟩
  intro conn member certPem caCertPem answered short rustParses goParses
  have inv := server_inv (host_serves reachedAfter index other present)
  obtain ⟨position, found⟩ := List.mem_iff_getElem?.mp member
  obtain ⟨caEq, req, vmEntry, policy, signing, admitted, issuance, valid, issued⟩ :=
    (inv.connections position conn found).answered _ answered certPem caCertPem rfl
  rw [sameCa] at caEq valid
  have fits := short signing _ issuance valid issued.symm
  rw [issued] at rustParses goParses
  have rust := valid.fromCertPem json signatures pemLaw readBack noExtensions matchesKey fits
    rustParses
  have go := valid.newEvaluator json signatures pemLaw readBack noExtensions matchesKey fits
    sameVerifiers goParses
  rw [← issued] at rust go
  exact ⟨caEq, req, vmEntry, policy, _, admitted, rfl, rfl, rfl, rfl, rust, go⟩

theorem host_run_serve (disk : Disk) (earlier : List Life) (life : Life)
    (actions : List ServerAction) :
    (host libs certs pathOf fromStr).run { disk, lives := earlier ++ [life] }
        (actions.map (.serve earlier.length)) =
      { disk
        lives := earlier ++
          [{ life with
              server := (server libs life.config life.ca).run life.server actions }] } := by
  induction actions generalizing life with
  | nil => rfl
  | cons action rest ih =>
      have found : (earlier ++ [life])[earlier.length]? = some life :=
        List.getElem?_concat_length
      have next : hostNext libs certs pathOf fromStr { disk, lives := earlier ++ [life] }
          (.serve earlier.length action) =
            { disk
              lives := earlier ++ [{ life with
                server := serverNext libs life.config life.ca life.server action }] } := by
        simp only [hostNext, found, List.set_append_right _ _ (Nat.le_refl _), Nat.sub_self,
          List.set_cons_zero]
      rw [List.map_cons, Machine.run, List.foldl_cons]
      change (host libs certs pathOf fromStr).run
        (hostNext libs certs pathOf fromStr _ (.serve earlier.length action)) _ = _
      rw [next]
      exact ih _

namespace Reference

def heldText (text : String) : File := { content := utf8 text, mode := 0o600, uid := 0, gid := 0 }

def installedFiles : Files := fun path =>
  if path = hostConfigPath.place then some hostConfigFile
  else if path = (parsePath sampleConfig.caCertPath).place then
    some (heldText (authority sampleKey).certPem)
  else if path = (parsePath sampleConfig.caKeyPath).place then
    some (heldText (authority sampleKey).keyPem)
  else none

def sampleHost : Machine HostState HostAction :=
  host (libraries everything) armouredBlocks parsePath (parseDocument HostConfig.deserialize)

def plainStart : HostAction :=
  .start { config := hostConfigPath, genkey := false } firstEnv rootProcess []

def installedState : HostState :=
  { disk := { files := installedFiles, process := rootProcess, faults := [] }, lives := [] }

def freshLife : Life :=
  { config := sampleConfig
    ca := authority sampleKey
    server := { connections := [], signatures := [] } }

theorem installed_configures :
    Configures (parseDocument HostConfig.deserialize) installedFiles hostConfigPath
      sampleConfig := by
  obtain ⟨text, _, parses, small⟩ := sampleConfig_configures
  have reads : HostConfig.deserialize sampleConfig.serialize = some sampleConfig := rfl
  refine ⟨documentText sampleConfig.serialize, ⟨hostConfigFile, ?_, rfl⟩,
    parseDocument_parses _ _ _ reads, small⟩
  simp only [installedFiles, if_pos]

theorem installed_loaded :
    LoadedFrom (libraries everything) armouredBlocks (parsePath sampleConfig.caCertPath)
      (parsePath sampleConfig.caKeyPath) installedFiles (authority sampleKey) := by
  have certNotConfig : (parsePath sampleConfig.caCertPath).place ≠ hostConfigPath.place := by
    decide +kernel
  have keyNotConfig : (parsePath sampleConfig.caKeyPath).place ≠ hostConfigPath.place := by
    decide +kernel
  have keyNotCert : (parsePath sampleConfig.caKeyPath).place ≠
      (parsePath sampleConfig.caCertPath).place := by
    decide +kernel
  constructor
  · refine ⟨heldText (authority sampleKey).certPem, ?_, rfl⟩
    rw [installedFiles, if_neg certNotConfig, if_pos rfl]
  · refine ⟨heldText (authority sampleKey).keyPem, ?_, rfl⟩
    rw [installedFiles, if_neg keyNotConfig, if_neg keyNotCert, if_pos rfl]
  · exact ⟨sampleKey, authority_keyParsed sampleKey, rfl⟩
  · exact authority_certFound sampleKey

theorem plainStart_runs (state : HostState) (installed : state.disk.files = installedFiles) :
    ∃ disk : Disk, disk.files = installedFiles ∧ sampleHost.next state plainStart =
      { disk, lives := state.lives ++ [freshLife] } := by
  have runs := (startServer_runs_iff (libraries everything) armouredBlocks parsePath
    (parseDocument HostConfig.deserialize) { config := hostConfigPath, genkey := false } firstEnv
    { state.disk with process := rootProcess, faults := [] } formsLaw rfl sampleConfig
    (authority sampleKey)).mpr
      ⟨rfl, installed ▸ installed_configures, installed ▸ installed_loaded, by simp, rfl⟩
  have leaves := startServer_leaves (libraries everything) armouredBlocks parsePath
    (parseDocument HostConfig.deserialize) { config := hostConfigPath, genkey := false } firstEnv
    { state.disk with process := rootProcess, faults := [] } formsLaw
  refine ⟨_, (leaves.kept (Or.inl rfl)).trans installed, ?_⟩
  unfold sampleHost host plainStart hostNext HostState.start
  dsimp only
  rw [runs]
  rfl

def servedLife : Life :=
  { config := sampleConfig
    ca := authority sampleKey
    server := sampleServer.run { connections := [], signatures := [] } sampleActions }

def restartActions : List HostAction :=
  plainStart :: sampleActions.map (.serve 1)

end Reference

open Reference in
theorem restarts_keep_credentials_sample :
    ∃ conn req vmEntry policy claim,
      Admitted (libraries everything) sampleConfig conn req vmEntry policy ∧
        claim.caps = policy.caps ∧
        Evaluator.fromCertPem (libraries everything) (sampleIssuance.pem (libraries everything))
          (authority sampleKey).certPem = .ok { claim } := by
  obtain ⟨disk, installed, first⟩ := plainStart_runs installedState rfl
  obtain ⟨later, _, second⟩ := plainStart_runs { disk, lives := [freshLife] } installed
  have ran : sampleHost.run { disk, lives := [freshLife] } restartActions =
      { disk := later, lives := [freshLife] ++ [servedLife] } := by
    unfold restartActions
    rw [Machine.run, List.foldl_cons, second]
    exact host_run_serve later [freshLife] freshLife sampleActions
  have spares : SparesAll (libraries everything) armouredBlocks parsePath
      (parseDocument HostConfig.deserialize) (parsePath sampleConfig.caCertPath)
      (parsePath sampleConfig.caKeyPath)
      (sampleHost.next installedState plainStart) restartActions := by
    refine ⟨?_, sparesAll_serve _ _ _⟩
    apply HostAction.spares_start formsLaw
    intro genkey
    cases genkey
  obtain ⟨conn, found, answered⟩ := sample_run
  have valid := sampleIssuance_valid
    (admits_everything sampleKey sampleNow sampleRequest sampleCsr)
  have parses : ∃ certificate, Evaluator.Reads (libraries everything)
      (sampleIssuance.pem (libraries everything)) certificate := ⟨_, reads_armour everything _ _ _⟩
  obtain ⟨_, lives⟩ := restarts_keep_credentials formsLaw (claimJsonLaw everything)
    (signaturesVerify everything) (pemLaw everything) (readBackLaw everything)
    (requestsCarryNoExtensions everything) installedState (Machine.Reachable.start rfl)
    { config := hostConfigPath, genkey := false } firstEnv rootProcess [] freshLife
    (congrArg HostState.lives first) (by decide +kernel) sampleKey
    (authority_matchesKey everything sampleKey) (sameVerifiers everything _) restartActions spares
    { disk := later, lives := [freshLife] ++ [servedLife] } (by
      change sampleHost.run (sampleHost.next installedState plainStart) restartActions = _
      rw [first]
      exact ran)
  obtain ⟨_, answers⟩ := lives 1 _ (Nat.zero_le 1) rfl ⟨rfl, rfl⟩
  obtain ⟨_, req, vmEntry, policy, claim, admitted, _, _, _, caps, accepted, _⟩ := answers conn
    (List.mem_of_getElem? found) _ _ answered
    (fun env req issuance made same => by
      rw [valid.sameToken (pemLaw everything) (readBackLaw everything)
        (requestsCarryNoExtensions everything) made same parses]
      exact sample_short sampleIssuance valid)
    parses ⟨_, goReads_armour everything _ _ _⟩
  exact ⟨conn, req, vmEntry, policy, claim, admitted, caps, accepted⟩

end AuthScope
