/-
The client of a guest: one request after the other.

For every entity of its configuration the agent makes a key and a signing
request, connects to the host, sends the request, reads the response and stores
what it was given.  An error ends the request of one entity and is logged; the
loop goes on with the next entity.
-/

import AuthScope.Agent.Store
import AuthScope.Libraries

set_option autoImplicit false

namespace AuthScope

open ByteText EffectLog ByteStream FileSystem

structure AgentConfig where
  /-- Name of the VM (sent in the request to identify the caller). -/
  vmName : String
  serverPort : UInt32
  entities : List EntityEntry
  /-- The client port to bind to when dialing. -/
  clientPort : UInt32
  deriving DecidableEq, Repr

def defaultServerPort : UInt32 := 900

def defaultClientPort : UInt32 := 901

/-- The functions of rcgen that write a signing request.  The signature draws on
a random source. -/
structure RequestLibraries (κ : Type) where
  serializeRequest : CertificateParams → κ → Nat → Except String Bytes
  requestPem : Bytes → Except String String

/-- A signing request that can be read back has the public key of the key it was
made with. -/
def RequestLibraries.RequestLaw {κ : Type} (rcgen : RequestLibraries κ) (libs : Libraries κ) :
    Prop :=
  ∀ params key nonce csr pem parsed, rcgen.serializeRequest params key nonce = .ok csr →
    rcgen.requestPem csr = .ok pem → libs.csrFromPem pem = .ok parsed →
    parsed.publicKey = libs.publicKey key

structure GeneratedCsr where
  keyPem : String
  csrPem : String
  deriving DecidableEq, Repr

def requestParams (entityName : String) : CertificateParams :=
  { distinguishedName := [(.commonName, entityName), (.organizationName, "auth-scope")]
    subjectAltNames := []
    isCa := .noCa
    keyUsages := []
    extendedKeyUsages := []
    notBefore := { year := 1975, month := 1, day := 1 }
    notAfter := { year := 4096, month := 1, day := 1 }
    customExtensions := [] }

section Generate

variable {κ : Type} (libs : Libraries κ) (rcgen : RequestLibraries κ)

def generateCsr (keyNonce csrNonce : Nat) (entityName : String) : Except String GeneratedCsr := do
  let key ← libs.generateKey keyNonce
  let csr ← rcgen.serializeRequest (requestParams entityName) key csrNonce
  let csrPem ← rcgen.requestPem csr
  return { keyPem := libs.serializePem key, csrPem }

end Generate

/-- What becomes of one attempt to open, bind and connect a socket. -/
inductive SocketAttempt where
  | noSocket (message : String)
  | bindFailed (addrInUse : Bool) (message : String)
  | connectFailed (message : String)
  | notRegistered (message : String)
  | connected
  deriving DecidableEq, Repr

def SocketAttempt.result (localPort : UInt32) : SocketAttempt → Except Report Unit
  | .noSocket message => .error [message]
  | .bindFailed _ message =>
      .error ["bind to client port " ++ toString localPort ++ " failed: " ++ message]
  | .connectFailed message => .error ["vsock connect failed: " ++ message]
  | .notRegistered message => .error [message]
  | .connected => .ok ()

/-- Attempts to connect; only a local port that is in use is tried again. -/
def connectWithRetries (localPort : UInt32) : Nat → (Nat → SocketAttempt) → Except Report Unit
  | 0, attempts => (attempts 0).result localPort
  | retries + 1, attempts =>
      match attempts 0 with
      | .bindFailed true _ =>
          connectWithRetries localPort retries fun later => attempts (later + 1)
      | attempt => attempt.result localPort

def vmaddrCidHost : UInt32 := 2

/-- What one exchange with the host meets, besides its arguments. -/
structure ExchangeEnvironment where
  keyNonce : Nat
  csrNonce : Nat
  /-- The value of `VSOCK_HOST_CID`, if it is a number. -/
  hostCidVariable : Option UInt32
  /-- The attempts to connect, by host, server port and local port. -/
  sockets : UInt32 → UInt32 → UInt32 → Nat → SocketAttempt
  /-- How the writes and flushes of the request end. -/
  writeResults : List WriteResult

def ExchangeEnvironment.hostCid (env : ExchangeEnvironment) : UInt32 :=
  env.hostCidVariable.getD vmaddrCidHost

def connectWithLocalPort (env : ExchangeEnvironment) (port localPort : UInt32) :
    Except Report Unit :=
  connectWithRetries localPort 10 (env.sockets env.hostCid port localPort)

def ExchangeEnvironment.stream (env : ExchangeEnvironment) (chunks : List Bytes)
    (endMessage : String) : Stream :=
  { incoming := chunks
    endMessage
    writeResults := env.writeResults
    outgoing := [] }

section Request

variable {κ : Type} (libs : Libraries κ) (rcgen : RequestLibraries κ)

def certRequest (config : AgentConfig) (entity : EntityEntry) (generated : GeneratedCsr) :
    CertRequest :=
  { version := protocolVersion
    vmName := config.vmName
    entity := entity.name
    csrPem := generated.csrPem }

def prepare (env : ExchangeEnvironment) (config : AgentConfig) (entity : EntityEntry) :
    Except Report GeneratedCsr := do
  let generated ← (generateCsr libs rcgen env.keyNonce env.csrNonce entity.name).mapError
    (ioContext ("CSR generation for entity '" ++ entity.name ++ "'"))
  (connectWithLocalPort env config.serverPort config.clientPort).mapError
    (withContext "vsock connect with local port failed")
  return generated

def sendRequest (config : AgentConfig) (entity : EntityEntry) (generated : GeneratedCsr) :
    Prog Files Stream Report Unit :=
  (sendJson libs.requestJson (certRequest config entity generated)).mapErr
    (ioContext "sending CertRequest")

def recvResponse : Prog Files Stream Report CertResponse :=
  (recvJson libs.responseJson).mapErr (ioContext "receiving CertResponse")

def serverRejected (entity : EntityEntry) (message : String) : Report :=
  ["Server rejected request for '" ++ entity.name ++ "': " ++ message]

def openStream (stream : Stream) : Prog Files (Stream × Disk) Report Unit :=
  ⟨fun state => { outcome := .ok (), state := (stream, state.2), log := [] }⟩

def requestCert (env : ExchangeEnvironment) (chunks : List Bytes) (endMessage : String)
    (config : AgentConfig) (entity : EntityEntry) :
    Prog Files (Stream × Disk) Report Unit := do
  let generated ← Prog.liftExcept (prepare libs rcgen env config entity)
  openStream (env.stream chunks endMessage)
  (sendRequest libs config entity generated).onFirst
  let resp ← (recvResponse libs).onFirst
  match resp with
  | .ok certPem caCertPem =>
      (storeEntityCredentials entity certPem generated.keyPem caCertPem).onSecond
  | .error message => Prog.throw (serverRejected entity message)

end Request

end AuthScope
