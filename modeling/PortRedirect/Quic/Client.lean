import PortRedirect.Environment
import PortRedirect.Quic.CertStore

namespace PortRedirect.Quic

open PortRedirect.Text
open PortRedirect.Net
open PortRedirect.Protocol

universe u v

structure ClientConfig (AppDataType : Type u) where
  remoteHostnameMatch : Option String
  caPath : Option PathBuf
  certFile : PathBuf
  localSocket : SocketAddr
  remoteSocket : SocketAddr
  connectionLimit : Option Nat
  appData : AppDataType

/-- `Path::join` of a directory and the name of a file in it. -/
def joinPath (dir : List String) (fileName : String) : PathBuf :=
  { parent := dir, fileName := fileName }

def ClientConfig.createDefaultConfig {AppDataType : Type u} (configDir : List String)
    (localSocket remoteSocket : SocketAddr) (remoteHostnameMatch : Option String)
    (connectionLimit : Option Nat) (appData : AppDataType) : ClientConfig AppDataType where
  remoteHostnameMatch := remoteHostnameMatch
  caPath := none
  certFile := joinPath configDir "cert.der"
  localSocket := localSocket
  remoteSocket := remoteSocket
  connectionLimit := connectionLimit
  appData := appData

/-! `run_quic_client`, until the connection is there. -/

/-- The files, and the libraries' answers to its calls. -/
structure ClientSurroundings where
  files : FileSystem
  readFault : Option String
  /-- `RootCertStore::add`. -/
  addRoot : Bytes → Except String Unit
  /-- `QuicClientConfig::try_from`. -/
  quicClientConfig : List Bytes → Except String Unit
  /-- `Endpoint::client`. -/
  bind : SocketAddr → Except String Unit
  /-- `Endpoint::connect`. -/
  connect : SocketAddr → String → Except String Unit
  /-- The handshake that `connect` begins. -/
  connecting : Except String Unit

/-- There is no file, and every call succeeds. -/
def ClientSurroundings.bare : ClientSurroundings where
  files := .empty
  readFault := none
  addRoot _ := .ok ()
  quicClientConfig _ := .ok ()
  bind _ := .ok ()
  connect _ _ := .ok ()
  connecting := .ok ()

section Setup

variable {AppDataType : Type u} (config : ClientConfig AppDataType)
  (surroundings : ClientSurroundings)

/-- The CA file must be readable; a certificate file that is not is only logged. -/
def loadRoots : Except Error (List Bytes) :=
  let add (cert : Bytes) : Except Error (List Bytes) :=
    match surroundings.addRoot cert with
    | .error error => .error (passedOn error)
    | .ok () => .ok [cert]
  match config.caPath with
  | some caPath =>
      match surroundings.files.read caPath surroundings.readFault with
      | .error error => .error (passedOn error)
      | .ok cert => add cert
  | none =>
      match surroundings.files.read config.certFile surroundings.readFault with
      | .error _ => .ok []
      | .ok cert => add cert

def serverNameMatch : String :=
  config.remoteHostnameMatch.getD config.remoteSocket.ip.display

/-- The arguments of `Endpoint::connect`. -/
structure ConnectCall where
  remote : SocketAddr
  serverName : String
deriving DecidableEq, Repr

def connectCall : Except Error ConnectCall := do
  let roots ← loadRoots config surroundings
  (surroundings.quicClientConfig roots).mapError passedOn
  (surroundings.bind config.localSocket).mapError passedOn
  return { remote := config.remoteSocket, serverName := serverNameMatch config }

def establish : Except Error Unit := do
  let call ← connectCall config surroundings
  (surroundings.connect call.remote call.serverName).mapError passedOn
  surroundings.connecting.mapError fun error => .message ("failed to connect: " ++ error)

end Setup

/-! `run_quic_client` as a whole: the setup, and the handler in a task of its own. -/

/-- A connection handler by its await points. -/
structure ConnectionHandler (σ : Type u) (ε : Type v) where
  start : σ
  step : σ → ε → Option σ
  result : σ → Option (Except Error Unit)

inductive QuicClient (σ : Type u) where
  | starting
  /-- Awaiting the handler's task. -/
  | handling (session : σ)
  | returned (session : Option σ) (result : Except Error Unit)

inductive QuicClientEvent (ε : Type v) where
  | established
  | handler (event : ε)
  /-- The handler's task panics, with the text of its `JoinError`. -/
  | panicked (error : String)
  | joined

section Run

variable {σ : Type u} {ε : Type v} {AppDataType : Type u}

def QuicClient.step (handler : ConnectionHandler σ ε) (config : ClientConfig AppDataType)
    (surroundings : ClientSurroundings) (client : QuicClient σ) (event : QuicClientEvent ε) :
    Option (QuicClient σ) :=
  match client, event with
  | .starting, .established =>
      match establish config surroundings with
      | .error error => some (.returned none (.error error))
      | .ok () => some (.handling handler.start)
  | .handling session, .handler event => (handler.step session event).map .handling
  | .handling session, .panicked error =>
      match handler.result session with
      | some _ => none
      | none => some (.returned (some session) (.error (passedOn error)))
  | .handling session, .joined =>
      match handler.result session with
      | none => none
      -- the task has logged an error of the handler and returns `()`
      | some _ => some (.returned (some session) (.ok ()))
  | _, _ => none

variable {handler : ConnectionHandler σ ε} {config : ClientConfig AppDataType}
  {surroundings : ClientSurroundings} {client next : QuicClient σ}
  {event : QuicClientEvent ε}

theorem QuicClient.step_cases
    (taken : client.step handler config surroundings event = some next) :
    (client = .starting ∧ event = .established ∧
      ((∃ error, next = .returned none (.error error)) ∨ next = .handling handler.start)) ∨
    ∃ session, client = .handling session ∧
      ((∃ resumed after, event = .handler resumed ∧
          handler.step session resumed = some after ∧ next = .handling after) ∨
        (∃ text, event = .panicked text ∧ handler.result session = none ∧
          next = .returned (some session) (.error (passedOn text))) ∨
        ∃ result, event = .joined ∧ handler.result session = some result ∧
          next = .returned (some session) (.ok ())) := by
  unfold step at taken
  split at taken
  · refine .inl ⟨rfl, rfl, ?_⟩
    split at taken
    · cases taken
      exact .inl ⟨_, rfl⟩
    · cases taken
      exact .inr rfl
  · obtain ⟨after, resumed, rfl⟩ := Option.map_eq_some_iff.mp taken
    exact .inr ⟨_, rfl, .inl ⟨_, after, rfl, resumed, rfl⟩⟩
  · split at taken
    · cases taken
    · rename_i running
      cases taken
      exact .inr ⟨_, rfl, .inr (.inl ⟨_, rfl, running, rfl⟩)⟩
  · split at taken
    · cases taken
    · rename_i result returned
      cases taken
      exact .inr ⟨_, rfl, .inr (.inr ⟨result, rfl, returned, rfl⟩)⟩
  · cases taken

end Run

end PortRedirect.Quic
