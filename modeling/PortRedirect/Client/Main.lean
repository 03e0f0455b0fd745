import PortRedirect.Client.ServerHandler
import PortRedirect.Quic.Client

namespace PortRedirect.Client

open PortRedirect.Text
open PortRedirect.Net
open PortRedirect.Protocol
open PortRedirect.Quic

structure Args where
  destinationHost : String
  destinationPort : UInt16
  quicRemoteHost : String
  quicRemotePort : UInt16
  quicLocalHost : String := "0.0.0.0"
  quicLocalPort : UInt16 := 0
  provideMetrics : Bool := false
  quicRemoteHostnameMatch : Option String := none
  quicPsk : String

def sampleArgs : Args where
  destinationHost := "localhost"
  destinationPort := 8080
  quicRemoteHost := "localhost"
  quicRemotePort := 4433
  quicPsk := "key"

structure RunClientCall where
  appConfig : ClientAppData
  tcpLocalAddr : SocketAddr
  quicRemoteAddr : SocketAddr
  metricsEnabled : Bool

/-! `main`, until it calls `run_client`. -/

section Main

variable (environment : Environment) (args : Args)

def toSocketAddrs (call : Nat) (addr context : String) : Except Error (List SocketAddr) :=
  match environment.toSocketAddrs call addr with
  | .error error => .error (.context context (passedOn error))
  | .ok addrs => .ok addrs

def resolveLocal : Except EarlyExit SocketAddr := do
  let addrs ← passing (toSocketAddrs environment 0
    (hostPort args.quicLocalHost args.quicLocalPort) "constructing QUIC local address")
  expect "Unable to resolve local address" addrs.head?

def resolveRemote : Except EarlyExit SocketAddr := do
  let addrs ← passing (toSocketAddrs environment 1
    (hostPort args.quicRemoteHost args.quicRemotePort) "constructing QUIC remote address")
  expect "Unable to resolve remote address" addrs.head?

def resolveDestination : Except Error SocketAddr := do
  let addrs ← toSocketAddrs environment 2
    (hostPort args.destinationHost args.destinationPort) "resolving destination address"
  match addrs.head? with
  | none => .error (.message "resolving destination address")
  | some addr => .ok addr

def main : Except EarlyExit RunClientCall := do
  -- the directory is only logged
  let _ ← passing (getConfigDir environment 0 none)
  let quicLocalAddr ← resolveLocal environment args
  let quicRemoteAddr ← resolveRemote environment args
  let forwardDestination ← passing (resolveDestination environment args)
  expect "Failed to install rustls crypto provider"
    (if environment.installDefault then some () else none)
  return {
    appConfig :=
      { connectionAuthPsk := args.quicPsk
        forwardDestination := forwardDestination.display }
    tcpLocalAddr := quicLocalAddr
    quicRemoteAddr := quicRemoteAddr
    metricsEnabled := args.provideMetrics }

end Main

/-- `run_client`, until it calls `run_quic_client`. -/
def runClient (environment : Environment) (call : RunClientCall) :
    Except Error (ClientConfig ClientAppData) := do
  let configDir ← getConfigDir environment 1 none
  return ClientConfig.createDefaultConfig configDir call.tcpLocalAddr call.quicRemoteAddr
    none none call.appConfig

/-- What the program gives to `Endpoint::connect`, if it gets there. -/
def connects (environment : Environment) (surroundings : ClientSurroundings) (args : Args) :
    Except EarlyExit ConnectCall := do
  let call ← main environment args
  let config ← passing (runClient environment call)
  passing (connectCall config surroundings)

/-- `handle_quic_server_connection` as what `run_quic_client` is given. -/
def Session.handler (sha512 : Bytes → Digest) (config : ClientAppData) :
    ConnectionHandler Session Session.Event where
  start := {}
  step := Session.step sha512 config
  result session :=
    match session.stage with
    | .returned result => some result
    | _ => none

/-! The program as a whole. -/

inductive ClientProgram where
  | starting
  /-- `run_client` awaits `run_quic_client`. -/
  | running (config : ClientConfig ClientAppData) (client : QuicClient Session)
  /-- `run_client` has returned to `main`. -/
  | ran (client : Option (QuicClient Session)) (result : Except Error Unit)
  | exited (client : Option (QuicClient Session)) (ran : Option (Except Error Unit))
      (exit : Exit)

inductive ClientProgramEvent where
  | started
  | quic (event : QuicClientEvent Session.Event)
  /-- The caller goes on with what it awaited. -/
  | resumed

def ClientProgram.step (sha512 : Bytes → Digest) (environment : Environment)
    (surroundings : ClientSurroundings) (args : Args) (program : ClientProgram)
    (event : ClientProgramEvent) : Option ClientProgram :=
  match program, event with
  | .starting, .started =>
      match main environment args with
      | .error early => some (.exited none none early.exit)
      | .ok call =>
          match runClient environment call with
          | .error error => some (.ran none (.error error))
          | .ok config => some (.running config .starting)
  | .running config client, .quic event =>
      (client.step (Session.handler sha512 config.appData) config surroundings event).map
        (.running config)
  | .running _ (.returned session result), .resumed =>
      some (.ran (some (.returned session result)) (do result; return ()))
  | .ran client result, .resumed =>
      some (.exited client (some result) (.returned (do result; return ())))
  | _, _ => none

end PortRedirect.Client
