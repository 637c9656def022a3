/-
The start of the server.

The daemon requires root, reads its configuration, generates or loads the
authority, and only then binds its port.  So nothing is touched without root and
a configuration that is accepted, but a new authority replaces the old one even
where the port turns out to be taken.
-/

import AuthScope.Ca.InitFailure
import AuthScope.Ca.StoredAuthority
import AuthScope.Config.RoundTrip

set_option autoImplicit false

namespace AuthScope

open ByteText EffectLog FileSystem Base64Url CertificateAuthority

structure ServerCli where
  /-- Path to the host configuration file. -/
  config : Path
  /-- Generate the key and the certificate of the authority before starting. -/
  genkey : Bool
  deriving DecidableEq, Repr

inductive ServerExit where
  | notRoot
  | config (error : String)
  | caInit (error : CaError)
  | caLoad (error : CaError)
  | listener (error : String)
  deriving DecidableEq, Repr

def ServerExit.logged : ServerExit → String × Option String
  | .notRoot => ("auth-scope-server must run as root (vsock bind requires privilege)", none)
  | .config error => ("Failed to load config", some error)
  | .caInit error => ("CA initialisation/regeneration failed", some error.display)
  | .caLoad error =>
      ("Failed to load CA — CA files must exist or run with --genkey", some error.display)
  | .listener error => ("Listener terminated with error", some error)

/-- What the start of the daemon meets, besides the disk: the randomness of a
generation, and how binding a port ends. -/
structure StartEnvironment where
  keyNonce : Nat
  certNonce : Nat
  bind : UInt32 → Except String Unit

section Start

variable {κ : Type} (libs : Libraries κ) (certs : Bytes → List (Except String Bytes))
  (pathOf : String → Path) (fromStr : String → Except String HostConfig)

def HostConfig.load (path : Path) : Prog Files Disk String HostConfig :=
  readParsed (fun data => HostConfig.fromFile fromStr (.ok data)) path

def obtainAuthority (genkey : Bool) (env : StartEnvironment) (cfg : HostConfig) :
    Prog Files Disk ServerExit CertificateAuthority :=
  if genkey then
    (init libs certs (pathOf cfg.caCertPath) (pathOf cfg.caKeyPath)
      env.keyNonce env.certNonce false).mapErr .caInit
  else
    (load libs certs (pathOf cfg.caCertPath) (pathOf cfg.caKeyPath)).mapErr
      .caLoad

/-- The daemon up to its listening socket; the listener loop does not return. -/
def startServer (cli : ServerCli) (env : StartEnvironment) :
    Prog Files Disk ServerExit (HostConfig × CertificateAuthority) := do
  let uid ← getuid
  if uid ≠ 0 then Prog.throw .notRoot
  else do
    let cfg ← (HostConfig.load fromStr cli.config).mapErr .config
    let ca ← obtainAuthority libs certs pathOf cli.genkey env cfg
    Prog.liftExcept ((env.bind cfg.serverPort).mapError .listener)
    return (cfg, ca)

end Start

/-! ### What a start leaves behind -/

def Configures (fromStr : String → Except String HostConfig) (files : Files) (path : Path)
    (cfg : HostConfig) : Prop :=
  ∃ text, HoldsText files path text ∧ fromStr text = .ok cfg ∧ cfg.serverPort < 1000

theorem Configures.unique {fromStr : String → Except String HostConfig} {files : Files}
    {path : Path} {cfg other : HostConfig} (configures : Configures fromStr files path cfg)
    (configuresOther : Configures fromStr files path other) : other = cfg := by
  obtain ⟨text, holds, parses, _⟩ := configures
  obtain ⟨otherText, otherHolds, otherParses, _⟩ := configuresOther
  cases holds.unique otherHolds
  exact Except.ok.inj (otherParses.symm.trans parses)

section Specs

variable {κ : Type} (libs : Libraries κ) (certs : Bytes → List (Except String Bytes))
  (pathOf : String → Path) (fromStr : String → Except String HostConfig)

theorem HostConfig.load_run (path : Path) (disk : Disk) :
    ((HostConfig.load fromStr path).run disk).state = disk.leaving disk.files ∧
      ((HostConfig.load fromStr path).run disk).outcome ≠ .panic ∧
      (∀ cfg, ((HostConfig.load fromStr path).run disk).outcome = .ok cfg →
        Configures fromStr disk.files path cfg) ∧
      (disk.Reliable → ∀ cfg, Configures fromStr disk.files path cfg →
        ((HostConfig.load fromStr path).run disk).outcome = .ok cfg) := by
  obtain ⟨state, noAbort, found, finds⟩ :=
    readParsed_run (fun data => HostConfig.fromFile fromStr (.ok data)) path disk
  refine ⟨state, noAbort, ?_, ?_⟩
  · intro cfg returned
    obtain ⟨text, holds, accepted⟩ := found cfg returned
    obtain ⟨data, same, parses, small⟩ := (HostConfig.fromFile_eq_ok_iff fromStr _ _).mp accepted
    cases same
    exact ⟨text, holds, parses, small⟩
  · intro reliable cfg configures
    obtain ⟨text, holds, parses, small⟩ := configures
    exact finds reliable text cfg holds
      ((HostConfig.fromFile_eq_ok_iff fromStr _ _).mpr ⟨text, rfl, parses, small⟩)

/-- The call on the files of the authority that a start makes. -/
def authorityCall (genkey : Bool) (env : StartEnvironment) : StorageCall :=
  if genkey then .init env.keyNonce env.certNonce false else .load

def authorityExit (genkey : Bool) : CaError → ServerExit :=
  if genkey then .caInit else .caLoad

def authorityRun (cli : ServerCli) (env : StartEnvironment) (cfg : HostConfig)
    (disk : Disk) : Run Files Disk CaError CertificateAuthority :=
  ((authorityCall cli.genkey env).program libs certs (pathOf cfg.caCertPath)
    (pathOf cfg.caKeyPath)).run (disk.leaving disk.files)

theorem obtainAuthority_eq (genkey : Bool) (env : StartEnvironment) (cfg : HostConfig) :
    obtainAuthority libs certs pathOf genkey env cfg =
      ((authorityCall genkey env).program libs certs (pathOf cfg.caCertPath)
        (pathOf cfg.caKeyPath)).mapErr (authorityExit genkey) := by
  cases genkey with
  | false => rfl
  | true => rfl

theorem authorityRun_ne_panic (cli : ServerCli) (env : StartEnvironment) (cfg : HostConfig)
    (disk : Disk) : (authorityRun libs certs pathOf cli env cfg disk).outcome ≠ .panic := by
  unfold authorityRun authorityCall
  cases cli.genkey with
  | false => exact (load_triple libs certs _ _ _).ne_panic rfl
  | true =>
      exact (init_triple _ env.keyNonce env.certNonce false
        (not_found_of_regeneration _)).ne_panic rfl

variable (cli : ServerCli) (env : StartEnvironment) (disk : Disk)

/-- Behind the configuration: the authority first, then the port. -/
theorem startServer_of_configured (root : disk.process.uid = 0) {cfg : HostConfig}
    (configured : ((HostConfig.load fromStr cli.config).run disk).outcome = .ok cfg) :
    ((startServer libs certs pathOf fromStr cli env).run disk).state =
        (authorityRun libs certs pathOf cli env cfg disk).state ∧
      ((∃ error, (authorityRun libs certs pathOf cli env cfg disk).outcome = .err error ∧
          ((startServer libs certs pathOf fromStr cli env).run disk).outcome =
            .err (authorityExit cli.genkey error)) ∨
        ∃ ca, (authorityRun libs certs pathOf cli env cfg disk).outcome = .ok ca ∧
          ((∃ message, env.bind cfg.serverPort = .error message ∧
              ((startServer libs certs pathOf fromStr cli env).run disk).outcome =
                .err (.listener message)) ∨
            env.bind cfg.serverPort = .ok () ∧
              ((startServer libs certs pathOf fromStr cli env).run disk).outcome =
                .ok (cfg, ca))) := by
  have state := (HostConfig.load_run fromStr cli.config disk).1
  have started : (startServer libs certs pathOf fromStr cli env).run disk =
      ((HostConfig.load fromStr cli.config).mapErr .config >>= fun cfg =>
        obtainAuthority libs certs pathOf cli.genkey env cfg >>= fun ca =>
          Prog.liftExcept ((env.bind cfg.serverPort).mapError .listener) >>= fun _ =>
            pure (cfg, ca)).run disk := by
    unfold startServer
    rw [Prog.bind_run_of_ok disk getuid _ disk.process.uid rfl, if_neg (not_not.mpr root)]
    rfl
  have first : (((HostConfig.load fromStr cli.config).mapErr ServerExit.config).run
      disk).outcome = .ok cfg := by
    rw [Prog.mapErr_run, configured]
    rfl
  rw [started, Prog.bind_run_of_ok disk _ _ cfg first, Prog.mapErr_run, state,
    obtainAuthority_eq]
  dsimp only
  have second : (((authorityCall cli.genkey env).program libs certs (pathOf cfg.caCertPath)
      (pathOf cfg.caKeyPath)).mapErr (authorityExit cli.genkey)).run (disk.leaving disk.files) =
        { outcome := (authorityRun libs certs pathOf cli env cfg disk).outcome.mapErr
            (authorityExit cli.genkey)
          state := (authorityRun libs certs pathOf cli env cfg disk).state
          log := (authorityRun libs certs pathOf cli env cfg disk).log } := rfl
  cases exit : (authorityRun libs certs pathOf cli env cfg disk).outcome with
  | err error =>
      rw [Prog.bind_run_of_err _ _ _ (authorityExit cli.genkey error) (by rw [second, exit]; rfl),
        second]
      exact ⟨rfl, Or.inl ⟨error, rfl, rfl⟩⟩
  | panic => exact absurd exit (authorityRun_ne_panic libs certs pathOf cli env cfg disk)
  | ok ca =>
      rw [Prog.bind_run_of_ok _ _ _ ca (by rw [second, exit]; rfl), second]
      dsimp only
      cases bound : env.bind cfg.serverPort with
      | error message => exact ⟨rfl, Or.inr ⟨ca, rfl, Or.inl ⟨message, rfl, rfl⟩⟩⟩
      | ok _ => exact ⟨rfl, Or.inr ⟨ca, rfl, Or.inr ⟨rfl, rfl⟩⟩⟩

theorem startServer_cases :
    (disk.process.uid ≠ 0 ∧
        ((startServer libs certs pathOf fromStr cli env).run disk).outcome = .err .notRoot ∧
        ((startServer libs certs pathOf fromStr cli env).run disk).state = disk) ∨
      disk.process.uid = 0 ∧
        ((∃ error,
            ((startServer libs certs pathOf fromStr cli env).run disk).outcome =
              .err (.config error) ∧
            ((HostConfig.load fromStr cli.config).run disk).outcome = .err error ∧
            ((startServer libs certs pathOf fromStr cli env).run disk).state =
              disk.leaving disk.files) ∨
          ∃ cfg, ((HostConfig.load fromStr cli.config).run disk).outcome = .ok cfg) := by
  by_cases root : disk.process.uid = 0
  · refine Or.inr ⟨root, ?_⟩
    obtain ⟨state, noAbort, _⟩ := HostConfig.load_run fromStr cli.config disk
    cases exit : ((HostConfig.load fromStr cli.config).run disk).outcome with
    | ok cfg => exact Or.inr ⟨cfg, rfl⟩
    | panic => exact absurd exit noAbort
    | err error =>
        refine Or.inl ⟨error, ?_⟩
        have failed : (((HostConfig.load fromStr cli.config).mapErr ServerExit.config).run
            disk).outcome = .err (.config error) := by
          rw [Prog.mapErr_run, exit]
          rfl
        unfold startServer
        rw [Prog.bind_run_of_ok disk getuid _ disk.process.uid rfl, if_neg (not_not.mpr root)]
        change ((Prog.bind _ _).run disk).outcome = _ ∧ _ ∧ ((Prog.bind _ _).run disk).state = _
        have whole := Prog.bind_run_of_err disk
          ((HostConfig.load fromStr cli.config).mapErr ServerExit.config)
          (fun cfg => obtainAuthority libs certs pathOf cli.genkey env cfg >>= fun ca =>
            Prog.liftExcept ((env.bind cfg.serverPort).mapError .listener) >>= fun _ =>
              pure (cfg, ca)) _ failed
        exact ⟨congrArg Run.outcome whole, rfl, (congrArg Run.state whole).trans state⟩
  · refine Or.inl ⟨root, ?_⟩
    unfold startServer
    rw [Prog.bind_run_of_ok disk getuid _ disk.process.uid rfl, if_pos root]
    exact ⟨rfl, rfl⟩

section Outcome

variable {libs certs pathOf fromStr}

theorem authorityRun_load {cfg : HostConfig} (loads : cli.genkey = false) :
    (authorityRun libs certs pathOf cli env cfg disk).state.files = disk.files ∧
      (∀ ca, (authorityRun libs certs pathOf cli env cfg disk).outcome = .ok ca →
        LoadedFrom libs certs (pathOf cfg.caCertPath) (pathOf cfg.caKeyPath)
          disk.files ca) ∧
      ∀ error, (authorityRun libs certs pathOf cli env cfg disk).outcome = .err error →
        Unloaded libs certs (pathOf cfg.caCertPath) (pathOf cfg.caKeyPath)
          (disk.leaving disk.files) error := by
  have triple := load_triple libs certs (pathOf cfg.caCertPath)
    (pathOf cfg.caKeyPath) (disk.leaving disk.files)
  unfold authorityRun authorityCall
  rw [loads]
  simp only [Bool.false_eq_true, if_false, StorageCall.program]
  refine ⟨?_, ?_, ?_⟩
  · cases exit : ((load libs certs (pathOf cfg.caCertPath)
        (pathOf cfg.caKeyPath)).run (disk.leaving disk.files)).outcome with
    | ok ca => exact (triple.returned rfl exit).2.files
    | err error => exact (triple.failed rfl exit).files
    | panic => exact absurd exit (triple.ne_panic rfl)
  · intro ca returned
    exact (triple.returned rfl returned).1
  · intro error failed
    exact unloaded_of_load failed

variable (pathOf) in
/-- Both paths of the authority lead to where a file can be. -/
def CaAreFiles (cfg : HostConfig) : Prop :=
  (pathOf cfg.caCertPath).place.isFile = true ∧ (pathOf cfg.caKeyPath).place.isFile = true

theorem authorityRun_init {cfg : HostConfig} (generates : cli.genkey = true) :
    (∀ ca, (authorityRun libs certs pathOf cli env cfg disk).outcome = .ok ca →
        (generated libs env.keyNonce env.certNonce).outcome = .ok ca ∧ CaAreFiles pathOf cfg) ∧
      ∀ error, (authorityRun libs certs pathOf cli env cfg disk).outcome = .err error →
        (pathOf cfg.caCertPath).place ≠ (pathOf cfg.caKeyPath).place →
        FailedInit libs (pathOf cfg.caCertPath) (pathOf cfg.caKeyPath)
          env.keyNonce env.certNonce false error (disk.leaving disk.files)
          (authorityRun libs certs pathOf cli env cfg disk).state.files := by
  unfold authorityRun authorityCall
  rw [generates]
  simp only [if_true, StorageCall.program]
  constructor
  · intro ca returned
    obtain ⟨made, _, _, areFiles, _⟩ := (init_triple _ env.keyNonce env.certNonce false
      (not_found_of_regeneration _)).returned rfl returned
    exact ⟨made, areFiles⟩
  · intro error failed distinct
    exact FailedInit.of_missing distinct (not_found_of_regeneration _)
      ((init_triple _ env.keyNonce env.certNonce false (not_found_of_regeneration _)).failed rfl
        failed)

theorem authorityRun_frame {cfg : HostConfig} {other : Place}
    (notCert : other ≠ pathOf cfg.caCertPath) (notKey : other ≠ pathOf cfg.caKeyPath) :
    (authorityRun libs certs pathOf cli env cfg disk).state.files other = disk.files other := by
  cases genkey : cli.genkey with
  | false => rw [(authorityRun_load cli env disk genkey).1]
  | true =>
      have triple := @init_triple κ libs certs (pathOf cfg.caCertPath) (pathOf cfg.caKeyPath)
        (disk.leaving disk.files) env.keyNonce env.certNonce false (not_found_of_regeneration _)
      unfold authorityRun authorityCall
      rw [genkey]
      simp only [if_true, StorageCall.program]
      cases exit : ((init libs certs (pathOf cfg.caCertPath) (pathOf cfg.caKeyPath) env.keyNonce
          env.certNonce false).run (disk.leaving disk.files)).outcome with
      | panic => exact absurd exit (triple.ne_panic rfl)
      | err error =>
          obtain ⟨start, cleared, same | ⟨ca, message, _, _, writing⟩⟩ := triple.failed rfl exit
          · rw [same]
            exact cleared.other notCert notKey
          · rw [writing.other notCert notKey]
            exact cleared.other notCert notKey
      | ok ca =>
          obtain ⟨_, start, cleared, _, file, written, _⟩ := triple.returned rfl exit
          rw [written, Function.update_of_ne notKey, writtenTo_of_ne _ _ notCert]
          exact cleared.other notCert notKey

theorem authorityRun_loadedFrom (laws : FormsLaw libs certs) {cfg : HostConfig}
    (distinct : (pathOf cfg.caCertPath).place ≠ (pathOf cfg.caKeyPath).place)
    {ca : CertificateAuthority}
    (returned : (authorityRun libs certs pathOf cli env cfg disk).outcome = .ok ca) :
    LoadedFrom libs certs (pathOf cfg.caCertPath) (pathOf cfg.caKeyPath)
      (authorityRun libs certs pathOf cli env cfg disk).state.files ca :=
  loadedFrom_of_returned laws distinct (authorityCall cli.genkey env)
    (disk.leaving disk.files) returned

variable (libs certs pathOf) in
def Obtains (files : Files) (cfg : HostConfig) (ca : CertificateAuthority) : Prop :=
  if cli.genkey then (generated libs env.keyNonce env.certNonce).outcome = .ok ca
  else LoadedFrom libs certs (pathOf cfg.caCertPath) (pathOf cfg.caKeyPath) files ca

theorem authorityRun_obtains {cfg : HostConfig} {ca : CertificateAuthority}
    (returned : (authorityRun libs certs pathOf cli env cfg disk).outcome = .ok ca) :
    Obtains libs certs pathOf cli env disk.files cfg ca := by
  unfold Obtains
  cases genkey : cli.genkey with
  | false => exact (authorityRun_load cli env disk genkey).2.1 ca returned
  | true => exact ((authorityRun_init cli env disk genkey).1 ca returned).1

theorem authorityRun_of_reliable (reliable : disk.Reliable) {cfg : HostConfig}
    {ca : CertificateAuthority} (obtains : Obtains libs certs pathOf cli env disk.files cfg ca)
    (areFiles : cli.genkey = true → CaAreFiles pathOf cfg) :
    (authorityRun libs certs pathOf cli env cfg disk).outcome = .ok ca := by
  have still : (disk.leaving disk.files).Reliable := reliable.leaving disk.files
  unfold Obtains at obtains
  unfold authorityRun authorityCall
  cases generates : cli.genkey with
  | false =>
      rw [generates] at obtains
      have loaded : LoadedFrom libs certs (pathOf cfg.caCertPath)
          (pathOf cfg.caKeyPath) (disk.leaving disk.files).files ca := obtains
      have quiet : (StorageStep.mk .load (disk.leaving disk.files).faults).Quiet := trivial
      exact (finds_of_loadedFrom quiet loaded).reliably still
  | true =>
      rw [generates] at obtains
      exact init_of_reliable _ env.keyNonce env.certNonce false (not_found_of_regeneration _)
        (areFiles generates).1 (areFiles generates).2 still obtains

end Outcome

/-- What each exit of a start says of the process, the configuration, the authority
and the port, and the files that it leaves. -/
structure StartLeaves (outcome : Outcome ServerExit (HostConfig × CertificateAuthority))
    (after : Files) : Prop where
  ne_panic : outcome ≠ .panic
  notRoot : outcome = .err .notRoot ↔ disk.process.uid ≠ 0
  config : ∀ error, outcome = .err (.config error) →
    disk.process.uid = 0 ∧
      Untaken (fun data => HostConfig.fromFile fromStr (.ok data)) cli.config disk error
  caLoad : ∀ error, outcome = .err (.caLoad error) →
    disk.process.uid = 0 ∧ cli.genkey = false ∧
      ∃ cfg, Configures fromStr disk.files cli.config cfg ∧
        Unloaded libs certs (pathOf cfg.caCertPath) (pathOf cfg.caKeyPath)
          (disk.leaving disk.files) error
  caInit : ∀ error, outcome = .err (.caInit error) →
    disk.process.uid = 0 ∧ cli.genkey = true ∧
      ∃ cfg, Configures fromStr disk.files cli.config cfg ∧
        (authorityRun libs certs pathOf cli env cfg disk).outcome = .err error ∧
        ((pathOf cfg.caCertPath).place ≠ (pathOf cfg.caKeyPath).place →
          FailedInit libs (pathOf cfg.caCertPath) (pathOf cfg.caKeyPath) env.keyNonce
            env.certNonce false error (disk.leaving disk.files) after)
  /-- The authority is there, a new one too, and no server that uses it. -/
  listener : ∀ message, outcome = .err (.listener message) →
    disk.process.uid = 0 ∧ ∃ cfg ca, Configures fromStr disk.files cli.config cfg ∧
      Obtains libs certs pathOf cli env disk.files cfg ca ∧
      env.bind cfg.serverPort = .error message ∧
      ((pathOf cfg.caCertPath).place ≠ (pathOf cfg.caKeyPath).place →
        LoadedFrom libs certs (pathOf cfg.caCertPath) (pathOf cfg.caKeyPath) after ca)
  running : ∀ cfg ca, outcome = .ok (cfg, ca) →
    disk.process.uid = 0 ∧ Configures fromStr disk.files cli.config cfg ∧
      Obtains libs certs pathOf cli env disk.files cfg ca ∧
      env.bind cfg.serverPort = .ok () ∧
      ((pathOf cfg.caCertPath).place ≠ (pathOf cfg.caKeyPath).place →
        LoadedFrom libs certs (pathOf cfg.caCertPath) (pathOf cfg.caKeyPath) after ca)
  kept : cli.genkey = false ∨ outcome = .err .notRoot ∨ (∃ error, outcome = .err (.config error)) →
    after = disk.files
  frame : ∀ cfg, Configures fromStr disk.files cli.config cfg → ∀ other : Place,
    other ≠ pathOf cfg.caCertPath → other ≠ pathOf cfg.caKeyPath → after other = disk.files other

theorem StartLeaves.of_configured (laws : FormsLaw libs certs) (root : disk.process.uid = 0)
    {cfg : HostConfig}
    (configured : ((HostConfig.load fromStr cli.config).run disk).outcome = .ok cfg) :
    StartLeaves libs certs pathOf fromStr cli env disk
      ((startServer libs certs pathOf fromStr cli env).run disk).outcome
      ((startServer libs certs pathOf fromStr cli env).run disk).state.files := by
  have configures := (HostConfig.load_run fromStr cli.config disk).2.2.1 cfg configured
  obtain ⟨state, ending⟩ := startServer_of_configured libs certs pathOf fromStr cli env disk root
    configured
  have loads := @authorityRun_load κ libs certs pathOf cli env disk cfg
  have inits := @authorityRun_init κ libs certs pathOf cli env disk cfg
  have frame : ∀ other, Configures fromStr disk.files cli.config other → ∀ place : Place,
      place ≠ pathOf other.caCertPath → place ≠ pathOf other.caKeyPath →
        (authorityRun libs certs pathOf cli env cfg disk).state.files place =
          disk.files place := by
    intro other configuresOther place notCert notKey
    cases configures.unique configuresOther
    exact authorityRun_frame cli env disk notCert notKey
  rw [state]
  rcases ending with ⟨error, exit, refused⟩ | ⟨ca, exit, ⟨message, bound, refused⟩ | ⟨bound, runs⟩⟩
  · rw [refused]
    cases genkey : cli.genkey with
    | false =>
        constructor
        case caLoad =>
          intro caError same
          cases same
          exact ⟨root, genkey, cfg, configures, (loads genkey).2.2 error exit⟩
        case kept => exact fun _ => (loads genkey).1
        case frame => exact frame
        all_goals simp [authorityExit, root]
    | true =>
        constructor
        case caInit =>
          intro caError same
          cases same
          exact ⟨root, genkey, cfg, configures, exit, (inits genkey).2 error exit⟩
        case frame => exact frame
        all_goals simp [authorityExit, root, genkey]
  · rw [refused]
    constructor
    case listener =>
      intro report same
      cases same
      exact ⟨root, cfg, ca, configures, authorityRun_obtains cli env disk exit, bound,
        fun distinct => authorityRun_loadedFrom cli env disk laws distinct exit⟩
    case kept => exact fun quiet => (loads (by simpa using quiet)).1
    case frame => exact frame
    all_goals simp [root]
  · rw [runs]
    constructor
    case running =>
      intro other otherCa same
      cases same
      exact ⟨root, configures, authorityRun_obtains cli env disk exit, bound, fun distinct =>
        authorityRun_loadedFrom cli env disk laws distinct exit⟩
    case kept => exact fun quiet => (loads (by simpa using quiet)).1
    case frame => exact frame
    all_goals simp [root]

theorem startServer_leaves (laws : FormsLaw libs certs) :
    StartLeaves libs certs pathOf fromStr cli env disk
      ((startServer libs certs pathOf fromStr cli env).run disk).outcome
      ((startServer libs certs pathOf fromStr cli env).run disk).state.files := by
  rcases startServer_cases libs certs pathOf fromStr cli env disk with
    ⟨notRoot, refused, state⟩ | ⟨root, ⟨error, refused, unread, state⟩ | ⟨cfg, configured⟩⟩
  · rw [refused, state]
    constructor
    all_goals simp [notRoot]
  · rw [refused, state]
    constructor
    case config =>
      intro other same
      cases same
      exact ⟨root, untaken_of_readParsed unread⟩
    case kept => exact fun _ => rfl
    case frame => exact fun _ _ _ _ _ => rfl
    all_goals simp [root]
  · exact StartLeaves.of_configured libs certs pathOf fromStr cli env disk laws root configured

theorem startServer_runs_iff (laws : FormsLaw libs certs) (reliable : disk.Reliable)
    (cfg : HostConfig) (ca : CertificateAuthority) :
    ((startServer libs certs pathOf fromStr cli env).run disk).outcome = .ok (cfg, ca) ↔
      disk.process.uid = 0 ∧ Configures fromStr disk.files cli.config cfg ∧
        Obtains libs certs pathOf cli env disk.files cfg ca ∧
        (cli.genkey = true → CaAreFiles pathOf cfg) ∧ env.bind cfg.serverPort = .ok () := by
  have leaves := startServer_leaves libs certs pathOf fromStr cli env disk laws
  have configured := (HostConfig.load_run fromStr cli.config disk).2.2.2 reliable cfg
  constructor
  · intro runs
    obtain ⟨root, configures, obtains, bound, _⟩ := leaves.running cfg ca runs
    obtain ⟨_, ending⟩ := startServer_of_configured libs certs pathOf fromStr cli env disk root
      (configured configures)
    have exit : (authorityRun libs certs pathOf cli env cfg disk).outcome = .ok ca := by
      rcases ending with ⟨error, _, refused⟩ | ⟨other, exit, ⟨message, _, refused⟩ | ⟨_, same⟩⟩
      · cases runs.symm.trans refused
      · cases runs.symm.trans refused
      · cases runs.symm.trans same
        exact exit
    exact ⟨root, configures, obtains, fun genkey =>
      ((authorityRun_init cli env disk genkey).1 ca exit).2, bound⟩
  · intro condition
    obtain ⟨root, configures, obtains, areFiles, bound⟩ := condition
    have exit := @authorityRun_of_reliable κ libs certs pathOf cli env disk reliable cfg ca obtains
      areFiles
    obtain ⟨_, ending⟩ := startServer_of_configured libs certs pathOf fromStr cli env disk root
      (configured configures)
    rcases ending with ⟨error, failed, _⟩ | ⟨other, same, ⟨message, refused, _⟩ | ⟨_, runs⟩⟩
    · cases exit.symm.trans failed
    · cases bound.symm.trans refused
    · cases exit.symm.trans same
      exact runs

end Specs

/-! ### A first start -/

namespace Reference

def hostConfigPath : Path := .rooted ["etc", "auth-scope", "host.json"]

def hostConfigFile : File :=
  { content := utf8 (documentText sampleConfig.serialize), mode := 0o644, uid := 0, gid := 0 }

def configuredDisk : Disk :=
  { files := fun path => if path = hostConfigPath then some hostConfigFile else none
    process := { umask := 0o022, uid := 0, gid := 0 }
    faults := [] }

theorem sampleConfig_configures :
    Configures (parseDocument HostConfig.deserialize) configuredDisk.files hostConfigPath
      sampleConfig := by
  have reads : HostConfig.deserialize sampleConfig.serialize = some sampleConfig := rfl
  have held : configuredDisk.files hostConfigPath = some hostConfigFile := by
    simp only [configuredDisk, if_pos]
  exact ⟨documentText sampleConfig.serialize, ⟨hostConfigFile, held, rfl⟩,
    parseDocument_parses _ _ _ reads, by decide⟩

theorem generated_authority {signable : Bytes → Bool} (keyNonce certNonce : Nat)
    (signed : signMessage signable (bigEndian 32 keyNonce)
      (tbsOf rootParams (publicKey (bigEndian 32 keyNonce))) =
        .ok (signatureOf (bigEndian 32 keyNonce))) :
    (generated (libraries signable) keyNonce certNonce).outcome =
        .ok (authority (bigEndian 32 keyNonce)) ∧
      (generated (libraries signable) keyNonce certNonce).log =
        [.certificate (tbsOf rootParams (publicKey (bigEndian 32 keyNonce)))] :=
  ⟨(generate_outcome keyNonce certNonce _).mpr ⟨bigEndian 32 keyNonce,
      tbsOf rootParams (publicKey (bigEndian 32 keyNonce)), signatureOf (bigEndian 32 keyNonce),
      rfl, rfl, signed, rfl⟩,
    generate_log keyNonce certNonce (bigEndian 32 keyNonce) _ _ rfl rfl signed⟩

def firstStart : ServerCli := { config := hostConfigPath, genkey := true }

def firstEnv : StartEnvironment := { keyNonce := 1, certNonce := 2, bind := fun _ => .ok () }

end Reference

end AuthScope
