import PortRedirect.Client.Main
import PortRedirect.Net.IpAddrText
import PortRedirect.Server.Main

namespace PortRedirect

open PortRedirect.Text
open PortRedirect.Net
open PortRedirect.Quic

namespace Client

variable {environment : Environment} {surroundings : ClientSurroundings} {args : Args}

theorem resolveRemote_eq_ok {remote : SocketAddr}
    (resolved : resolveRemote environment args = .ok remote) :
    ∃ others, environment.toSocketAddrs 1
      (hostPort args.quicRemoteHost args.quicRemotePort) = .ok (remote :: others) := by
  obtain ⟨addrs, answered, first⟩ := bind_eq_ok.mp resolved
  rw [passing_eq_ok, toSocketAddrs] at answered
  rw [expect_eq_ok] at first
  obtain ⟨others, rfl⟩ := List.head?_eq_some_iff.mp first
  split at answered
  · cases answered
  · rename_i found
    cases answered
    exact ⟨others, found⟩

theorem main_eq_ok {call : RunClientCall} (called : main environment args = .ok call) :
    resolveRemote environment args = .ok call.quicRemoteAddr := by
  unfold main at called
  simp only [bind_eq_ok] at called
  obtain ⟨_, _, _, _, remote, resolved, _, _, _, _, ⟨⟩⟩ := called
  exact resolved

theorem connectCall_eq_ok {AppDataType : Type} {config : ClientConfig AppDataType}
    {call : ConnectCall} (connected : connectCall config surroundings = .ok call) :
    call = { remote := config.remoteSocket, serverName := serverNameMatch config } := by
  unfold connectCall at connected
  simp only [bind_eq_ok] at connected
  obtain ⟨_, _, _, _, _, _, ⟨⟩⟩ := connected
  rfl

/-- The client looks for the IP address that it connects to, whatever it was told. -/
theorem connects_eq_ok {call : ConnectCall}
    (connected : connects environment surroundings args = .ok call) :
    call.serverName = call.remote.ip.display ∧
      ∃ others, environment.toSocketAddrs 1
        (hostPort args.quicRemoteHost args.quicRemotePort) = .ok (call.remote :: others) := by
  obtain ⟨called, begun, rest⟩ := bind_eq_ok.mp connected
  obtain ⟨config, configured, connected⟩ := bind_eq_ok.mp rest
  rw [passing_eq_ok] at configured connected
  obtain ⟨dir, _, ⟨⟩⟩ := bind_eq_ok.mp configured
  obtain rfl := connectCall_eq_ok connected
  exact ⟨rfl, resolveRemote_eq_ok (main_eq_ok begun)⟩

end Client

namespace Server

variable {environment : Environment} {surroundings : ServerSurroundings} {args : Args}

/-- The configuration directory holds nothing. -/
def EmptyDirectory (environment : Environment) (surroundings : ServerSurroundings)
    (args : Args) : Prop :=
  ∀ configDir, getConfigDir environment 0 args.configDir = .ok configDir →
    ∀ fileName, surroundings.files (joinPath configDir fileName) = none

theorem main_eq_ok {config : ServerConfig ServerAppData}
    (called : main environment args = .ok config) :
    config.certHostname = args.quicCertHostname ∧
      ∃ configDir, getConfigDir environment 0 args.configDir = .ok configDir ∧
        config.keyFile = joinPath configDir "key.der" := by
  unfold main at called
  simp only [bind_eq_ok, passing_eq_ok] at called
  obtain ⟨_, _, configDir, made, _, _, _, _, ⟨⟩⟩ := called
  refine ⟨rfl, configDir, ?_, rfl⟩
  cases directory : getConfigDir environment 0 args.configDir with
  | error error => simp [directory, Except.mapError] at made
  | ok dir =>
      rw [directory] at made
      cases made
      rfl

theorem generateQuicCert_eq_ok {keyPath certPath : PathBuf} {files : FileSystem}
    {call : Call} {chain : List Bytes} {key : Bytes}
    (returned : (generateQuicCert keyPath certPath files call).1 =
      .returned (.ok (chain, key))) :
    ∃ pair, call.generated = some pair ∧ chain = [pair.cert] := by
  unfold generateQuicCert at returned
  split at returned
  · cases returned
  · rename_i pair generated
    refine ⟨pair, generated, ?_⟩
    split at returned
    · cases returned
    · split at returned
      · cases returned
      · cases returned
        rfl

theorem setUp_eq_ok {AppDataType : Type} {config : ServerConfig AppDataType}
    {chain : List Bytes} (fresh : surroundings.files config.keyFile = none)
    (ready : setUp surroundings config = .ok chain) :
    ∃ pair, surroundings.generate config.certHostname = some pair ∧
      chain = [pair.cert] := by
  have missing : ¬ Stored config.keyFile config.certFile surroundings.files :=
    fun stored => stored.1 fresh
  simp only [setUp, loadOrGenerateQuicCert, missing, if_false] at ready
  split at ready
  · cases ready
  · rename_i result returned
    simp only [passing_eq_ok, bind_eq_ok] at ready
    obtain ⟨⟨certChain, keyDer⟩, made, _, _, _, _, _, _, ⟨⟩⟩ := ready
    cases result with
    | error error => cases made
    | ok value =>
        cases made
        exact generateQuicCert_eq_ok returned

theorem presented_eq_ok {chain : List Bytes}
    (ready : presented environment surroundings args = .ok chain)
    (empty : EmptyDirectory environment surroundings args) :
    ∃ pair, surroundings.generate args.quicCertHostname = some pair ∧
      chain = [pair.cert] := by
  obtain ⟨config, called, rest⟩ := bind_eq_ok.mp ready
  obtain ⟨named, configDir, made, keyFile⟩ := main_eq_ok called
  rw [← named]
  apply setUp_eq_ok (by rw [keyFile]; exact empty configDir made _)
  split at rest
  · cases rest
  · exact rest

end Server

/-! The name in the certificate, and the name that the client looks for in it. -/

inductive GeneralName where
  | dnsName (name : String)
  | ipAddress (addr : IpAddr)
deriving DecidableEq, Repr

/-- What the libraries make of names.  A text that is an IP address is generated as one,
and looked for as one. -/
structure CertificateNames (generate : String → Option CertifiedKey) where
  subjectAltName : Bytes → Option GeneralName
  serverName : String → Option GeneralName
  generate_ip : ∀ {name pair addr}, generate name = some pair →
    IpAddr.fromStr name = some addr → subjectAltName pair.cert = some (.ipAddress addr)
  generate_dns : ∀ {name pair}, generate name = some pair →
    IpAddr.fromStr name = none → subjectAltName pair.cert = some (.dnsName name)
  serverName_ip : ∀ {text addr}, IpAddr.fromStr text = some addr →
    serverName text = some (.ipAddress addr)

section Agreement

variable {serverEnvironment clientEnvironment : Environment}
  {serverSurroundings : Server.ServerSurroundings} {clientSurroundings : ClientSurroundings}
  {serverArgs : Server.Args} {clientArgs : Client.Args}

/-- The two programs agree exactly where the name is the IP address that the client
resolves its remote host to. -/
theorem serverName_eq_subjectAltName_iff
    (names : CertificateNames serverSurroundings.generate) {hostname : String}
    {cert : Bytes} {others : List Bytes} {call : ConnectCall}
    (empty : Server.EmptyDirectory serverEnvironment serverSurroundings serverArgs)
    (ready : Server.presented serverEnvironment serverSurroundings
      { serverArgs with quicCertHostname := hostname } = .ok (cert :: others))
    (connected : Client.connects clientEnvironment clientSurroundings
      { clientArgs with quicRemoteHostnameMatch := some hostname } = .ok call) :
    names.serverName call.serverName = names.subjectAltName cert ↔
      ∃ remote rest, clientEnvironment.toSocketAddrs 1
          (hostPort clientArgs.quicRemoteHost clientArgs.quicRemotePort) =
            .ok (remote :: rest) ∧
        IpAddr.fromStr hostname = some remote.ip := by
  obtain ⟨pair, generated, same⟩ := Server.presented_eq_ok ready empty
  cases same
  obtain ⟨display, rest, resolved⟩ := Client.connects_eq_ok connected
  have sought : names.serverName call.serverName = some (.ipAddress call.remote.ip) := by
    rw [display]
    exact names.serverName_ip (IpAddr.fromStr_display _)
  have first {remote : SocketAddr} {more : List SocketAddr}
      (answer : clientEnvironment.toSocketAddrs 1
        (hostPort clientArgs.quicRemoteHost clientArgs.quicRemotePort) =
          .ok (remote :: more)) : remote = call.remote := by
    cases answer.symm.trans resolved
    rfl
  rw [sought]
  cases parsed : IpAddr.fromStr hostname with
  | none =>
      rw [names.generate_dns generated parsed]
      simp
  | some addr =>
      rw [names.generate_ip generated parsed]
      constructor
      · rintro ⟨⟩
        exact ⟨call.remote, rest, resolved, rfl⟩
      · rintro ⟨remote, more, answer, ⟨⟩⟩
        rw [first answer]

end Agreement

def sampleGenerate (name : String) : Option CertifiedKey :=
  some
    { cert :=
        match IpAddr.fromStr name with
        | some addr => 0x87 :: utf8 addr.display
        | none => 0x82 :: utf8 name
      key := [0] }

def sampleNames : CertificateNames sampleGenerate where
  subjectAltName
    | 0x87 :: text => ((fromUtf8 text).bind IpAddr.fromStr).map .ipAddress
    | 0x82 :: name => (fromUtf8 name).map .dnsName
    | _ => none
  serverName text :=
    match IpAddr.fromStr text with
    | some addr => some (.ipAddress addr)
    | none => some (.dnsName text)
  generate_ip := by
    rintro name pair addr ⟨⟩ parsed
    simp [parsed, IpAddr.fromStr_display]
  generate_dns := by
    rintro name pair ⟨⟩ parsed
    simp [parsed]
  serverName_ip := by
    intro text addr parsed
    simp [parsed]

def sampleServer : Server.ServerSurroundings where
  files := .empty
  pem := ⟨fun _ => .ok none, fun _ => .ok []⟩
  generate := sampleGenerate
  certWrite := .written
  keyWrite := .written
  keyRead := none
  certRead := none
  singleCert _ _ := .ok ()
  quicServerConfig := .ok ()
  bind _ := .ok ()

def sampleServerArgs : Server.Args where
  localHost := "0.0.0.0"
  allowedClientPorts := some [.single 8080]
  quicPsk := "key"

/-- A client that has been given the server's certificate. -/
def sampleClient (cert : Bytes) : ClientSurroundings :=
  { ClientSurroundings.bare with
    files := Function.update FileSystem.empty
      (joinPath ["home", ".config", "portredirect"] "cert.der") (some cert) }

def loopbackAddr : IpAddr := .v4 ⟨127, 0, 0, 1⟩

private theorem presented_sample (hostname : String) :
    ∃ pair, sampleGenerate hostname = some pair ∧
      Server.presented .loopback sampleServer
        { sampleServerArgs with quicCertHostname := hostname } = .ok [pair.cert] :=
  ⟨_, rfl, rfl⟩

private theorem connects_sample (cert : Bytes) (hostname : String) :
    Client.connects .loopback (sampleClient cert)
        { Client.sampleArgs with quicRemoteHostnameMatch := some hostname } =
      .ok
        { remote := { ip := loopbackAddr, port := 4433 }
          serverName := loopbackAddr.display } :=
  rfl

theorem serverName_eq_subjectAltName_loopback :
    ∃ cert call,
      Server.presented .loopback sampleServer
        { sampleServerArgs with quicCertHostname := "127.0.0.1" } = .ok [cert] ∧
      Client.connects .loopback (sampleClient cert)
        { Client.sampleArgs with quicRemoteHostnameMatch := some "127.0.0.1" } = .ok call ∧
      sampleNames.serverName call.serverName = sampleNames.subjectAltName cert := by
  obtain ⟨pair, _, ready⟩ := presented_sample "127.0.0.1"
  have connected := connects_sample pair.cert "127.0.0.1"
  refine ⟨pair.cert, _, ready, connected, ?_⟩
  apply (serverName_eq_subjectAltName_iff sampleNames (fun _ _ _ => rfl) ready connected).mpr
  exact ⟨_, [], rfl, by decide +kernel⟩

/-- The name that the README uses. -/
theorem serverName_ne_subjectAltName_localhost :
    ∃ cert call,
      Server.presented .loopback sampleServer
        { sampleServerArgs with quicCertHostname := "localhost" } = .ok [cert] ∧
      Client.connects .loopback (sampleClient cert)
        { Client.sampleArgs with quicRemoteHostnameMatch := some "localhost" } = .ok call ∧
      sampleNames.subjectAltName cert = some (.dnsName "localhost") ∧
      sampleNames.serverName call.serverName = some (.ipAddress loopbackAddr) ∧
      sampleNames.serverName call.serverName ≠ sampleNames.subjectAltName cert := by
  obtain ⟨pair, generated, ready⟩ := presented_sample "localhost"
  have named := sampleNames.generate_dns generated (by decide +kernel)
  have sought := sampleNames.serverName_ip (IpAddr.fromStr_display loopbackAddr)
  refine ⟨pair.cert, _, ready, connects_sample pair.cert "localhost", named, sought, ?_⟩
  rw [named, sought]
  simp

end PortRedirect
