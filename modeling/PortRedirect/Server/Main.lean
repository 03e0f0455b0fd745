import PortRedirect.Environment
import PortRedirect.Quic.AcceptLoop
import PortRedirect.Quic.Client
import PortRedirect.Server.ClientHandler

namespace PortRedirect.Server

open PortRedirect.Text
open PortRedirect.Net
open PortRedirect.Protocol
open PortRedirect.Quic

universe u

structure Args where
  configDir : Option (List String) := none
  localHost : String
  localPort : Option UInt16 := none
  allowedClientPorts : Option (List PortSpec) := none
  quicServerHost : String := "127.0.0.1"
  quicServerPort : UInt16 := 4433
  quicCertHostname : String := "127.0.0.1"
  quicPsk : String
  printMetrics : Bool := false

structure ServerConfig (AppDataType : Type u) extends Quic.ServerConfig where
  certHostname : String
  certFile : PathBuf
  keyFile : PathBuf
  listen : SocketAddr
  appData : AppDataType

def ServerConfig.createDefaultConfig {AppDataType : Type u} (configDir : List String)
    (certAltName : String) (bindSocket : SocketAddr) (connectionLimit : Option Nat)
    (appData : AppDataType) : ServerConfig AppDataType where
  toServerConfig := .createDefaultConfig connectionLimit
  certHostname := certAltName
  certFile := joinPath configDir "cert.der"
  keyFile := joinPath configDir "key.der"
  listen := bindSocket
  appData := appData

/-- The files, and the libraries' answers to `run_quic_server`. -/
structure ServerSurroundings where
  files : FileSystem
  pem : PemFile
  /-- `generate_simple_self_signed`, for one name. -/
  generate : String → Option CertifiedKey
  certWrite : WriteOutcome
  keyWrite : WriteOutcome
  keyRead : Option String
  certRead : Option String
  /-- `ServerConfig::with_single_cert`. -/
  singleCert : List Bytes → Bytes → Except String Unit
  /-- `QuicServerConfig::try_from`. -/
  quicServerConfig : Except String Unit
  /-- `Endpoint::server`. -/
  bind : SocketAddr → Except String Unit

section Main

variable (environment : Environment) (surroundings : ServerSurroundings) (args : Args)

def resolveSocketAddr (addr : String) : Except Error SocketAddr :=
  match environment.toSocketAddrs 0 addr with
  | .error error => .error (passedOn error)
  | .ok [] => .error (.message ("Unable to resolve address: " ++ addr))
  | .ok (addr :: _) => .ok addr

/-- `main`, until it calls `run_quic_server`. -/
def main : Except EarlyExit (ServerConfig ServerAppData) := do
  expect "Failed to install rustls crypto provider"
    (if environment.installDefault then some () else none)
  let configDir ← passing ((getConfigDir environment 0 args.configDir).mapError
    (.context "Failed to get configuration directory"))
  let allowed ← passing ((allowedClientPorts args.allowedClientPorts args.localPort).mapError
    .message)
  let quicAddr ← passing ((resolveSocketAddr environment
    (hostPort args.quicServerHost args.quicServerPort)).mapError
      (.context "Failed to resolve QUIC bind address"))
  return ServerConfig.createDefaultConfig configDir args.quicCertHostname quicAddr none
    { connectionAuthPsk := args.quicPsk
      localBindIp := args.localHost
      localBindPorts := allowed }

/-- The certificates that `run_quic_server` gives to its endpoint. -/
def setUp {AppDataType : Type u} (config : ServerConfig AppDataType) :
    Except EarlyExit (List Bytes) :=
  let call : Call :=
    { generated := surroundings.generate config.certHostname
      certWrite := surroundings.certWrite
      keyWrite := surroundings.keyWrite
      keyRead := surroundings.keyRead
      certRead := surroundings.certRead }
  match (loadOrGenerateQuicCert surroundings.pem config.keyFile config.certFile
    surroundings.files call).1 with
  | .panicked => .error (.panicked "called `Result::unwrap()` on an `Err` value")
  | .returned result => passing do
      let (certChain, keyDer) ← result.mapError (.context "loading or generating cert")
      (surroundings.singleCert certChain keyDer).mapError fun error =>
        .context "rustls ServerConfig builder" (passedOn error)
      surroundings.quicServerConfig.mapError passedOn
      (surroundings.bind config.listen).mapError passedOn
      return certChain

/-- The certificates of the server once it accepts connections. -/
def presented : Except EarlyExit (List Bytes) := do
  let config ← main environment args
  match setUp surroundings config with
  | .error (.failed error) => .error (.failed (.context "PortRedirect Server Error" error))
  | outcome => outcome

end Main

end PortRedirect.Server
