import PortRedirect.Crypto.Sha512
import PortRedirect.Interop.ControlStream

namespace PortRedirect.Interop

open PortRedirect.Text
open PortRedirect.Stream
open PortRedirect.Protocol
open PortRedirect.Transition

/-! The server expects a control message after the authentication, and the client
sends none: it begins with its PINGs. -/

namespace ControlStream

/-- A beginning of what the server reads after the authentication: a control message
that asks for an allowed port, and PINGs. -/
def InGrammar (ports : List Server.PortSpec) (message : Bytes) : Prop :=
  ∃ port control count, ConfigureQuicClient.IsListenPort port control ∧
    Server.allows ports port = true ∧
    message <+: control ++ repeated pingMessage count

structure Interoperates (ports : List Server.PortSpec) (stream : ControlStream) : Prop where
  configured : "ERR failed configuration" ∉ stream.pair.left.closes
  inTime : "ERR configuration timed out" ∉ stream.pair.left.closes
  /-- What follows the 129 bytes of the response. -/
  grammar : ∀ response message, stream.pair.toLeft.sent = response ++ message →
    response.length = 129 → InGrammar ports message

variable {setting : Server.Setting} {config : Client.ClientAppData} {challenge : String}
  {pair : Duplex Server.Session Client.Session}
  {events : List (Server.Session.Event ⊕ Client.Session.Event)}

/-- No beginning of a control message begins a PING. -/
theorem eq_nil_of_inGrammar {ports : List Server.PortSpec} {message : Bytes} {count : Nat}
    (grammar : InGrammar ports message)
    (pings : message <+: repeated pingMessage count) : message = [] := by
  obtain ⟨port, control, more, ⟨high, low, rfl, _⟩, _, front⟩ := grammar
  cases message with
  | nil => rfl
  | cons byte message =>
      exfalso
      have first : byte = asciiByte 'L' := by
        obtain ⟨rest, same⟩ := front
        exact List.head_eq_of_cons_eq same
      have member : byte ∈ pingMessage :=
        mem_of_mem_repeated (pings.subset List.mem_cons_self)
      rw [first] at member
      exact absurd member (by decide)

theorem pings_of_run
    (ran : run (pairStep setting config) { left := {}, right := {} } events = some pair)
    {response message : Bytes} (written : pair.toLeft.sent = response ++ message)
    (full : response.length = 129) : ∃ count, message <+: repeated pingMessage count := by
  have client := Duplex.right_invariant (Client.Session.Transcript setting.sha512 config)
    Client.Session.party_preserves Client.Session.transcript_start ran
  exact client.pings written full

/-- PINGs hold no control message, so the server never gets to its bind. -/
theorem unbound_of_run (drawn : setting.challenge = .ok challenge)
    (ran : run (pairStep setting config) { left := {}, right := {} } events = some pair) :
    pair.left.Unbound := by
  have server := Duplex.left_invariant
    (Server.Session.Transcript setting challenge True)
    (Server.Session.party_preserves drawn) Server.Session.transcript_start ran
  by_contra bound
  obtain ⟨port, front, rest, pongs, ⟨_, gate, _⟩, received, _⟩ := server.bound bound
  obtain ⟨response, control, rfl, valid, listens, allowed⟩ := gate
  have written : pair.toLeft.sent = response ++
      (control ++ (rest ++ pair.toLeft.pending)) := by
    rw [Channel.sent, received]
    simp only [List.append_assoc]
  obtain ⟨count, pings⟩ := pings_of_run ran written valid.length_eq
  have grammar : InGrammar setting.config.localBindPorts control :=
    ⟨port, control, 0, listens, allowed, List.prefix_append _ _⟩
  have size := listens.length_eq
  rw [eq_nil_of_inGrammar grammar ((List.prefix_append _ _).trans pings)] at size
  cases size

/-- The whole handshake, the first PING, and then nothing until the server's timeout. -/
def timeoutLabels (sha512 : Bytes → Digest) (challenge psk : String) : List Label :=
  [.server .opened, .client .accepted,
    .server (.control (.sent (utf8 (request challenge)))), .server (.control .flushed),
    .client (.control (.received (utf8 (request challenge)))),
    .client (.control (.sent (utf8 (ClientAuthenticate.response sha512 psk challenge)))),
    .client (.control .flushed),
    .server (.control (.received
      (utf8 (ClientAuthenticate.response sha512 psk challenge)))),
    .server (.control (.sent (verdict true))), .server (.control .flushed),
    .client (.control (.received (verdict true))),
    .client (.control .tick), .client (.control (.sent pingMessage)),
    .client (.control .flushed), .server (.control (.received pingMessage)),
    .delay configurationTimeout, .server (.control .elapsed)]

section

variable (sha512 : Bytes → Digest) (server : Server.ServerAppData)
  (remoteAddress forwardDestination : String) (now : SystemTime)
  (randomBytes : Vector UInt8 32)

def drawn : Server.Setting where
  sha512 := sha512
  config := server
  remoteAddress := remoteAddress
  now := now
  randomBytes := .ok randomBytes

def sharing : Client.ClientAppData where
  connectionAuthPsk := server.connectionAuthPsk
  forwardDestination := forwardDestination

theorem run_timeoutLabels :
    ∃ final, run
        (step (drawn sha512 server remoteAddress now randomBytes)
          (sharing server forwardDestination)) {}
        (timeoutLabels sha512 (Protocol.challenge randomBytes (elapsedMinutes now))
          server.connectionAuthPsk) = some final ∧
      final.pair.left.closes = ["ERR configuration timed out"] ∧
      final.pair.toLeft.sent = utf8 (ClientAuthenticate.response sha512
        server.connectionAuthPsk (Protocol.challenge randomBytes (elapsedMinutes now))) ++
          pingMessage := by
  have drew : Server.Setting.challenge (drawn sha512 server remoteAddress now randomBytes) =
      .ok (Protocol.challenge randomBytes (elapsedMinutes now)) := rfl
  have asked := pollRead_request randomBytes (elapsedMinutes now)
  have heard := heardChallenge_request randomBytes (elapsedMinutes now)
  have begun := start_challenge randomBytes (elapsedMinutes now)
  generalize Protocol.challenge randomBytes (elapsedMinutes now) = challenge at *
  have answered := ClientAuthenticate.pollReadExact_response sha512
    server.connectionAuthPsk challenge
  have judged := ClientAuthenticate.verify_response sha512 server.connectionAuthPsk challenge
  have replied : pollRead 16 (.received (verdict true)) = some (.read (verdict true)) := by
    rfl
  have happy : heardReply (verdict true) = .ok () := by decide +kernel
  have pinged : pollReadExact 10 [] (.received pingMessage) = some (.more pingMessage) := by
    rfl
  have hashes : (drawn sha512 server remoteAddress now randomBytes).sha512 = sha512 := rfl
  have keyed : (drawn sha512 server remoteAddress now randomBytes).config = server := rfl
  have addressed : (drawn sha512 server remoteAddress now randomBytes).remoteAddress =
      remoteAddress := rfl
  have shared : (sharing server forwardDestination).connectionAuthPsk =
      server.connectionAuthPsk := rfl
  refine ⟨{
    pair :=
      { left :=
          { stage := .returned (.error (.context ("configuration timeout from " ++
              remoteAddress) (.message "configuration timed out")))
            closes := ["ERR configuration timed out"] }
        right := { stage := .acceptStreams, keepalive := some { phase := .readPong [] } }
        toRight := { delivered := utf8 (request challenge) ++ verdict true }
        toLeft :=
          { delivered := utf8 (ClientAuthenticate.response sha512 server.connectionAuthPsk
              challenge) ++ pingMessage } }
    now := configurationTimeout
    serverDeadline := configurationTimeout
    nextTick := connectionKeepaliveInterval
    pongDeadline := connectionKeepaliveReadTimeout }, ?_, rfl, ?_⟩
  · simp [run, timeoutLabels, step, serverStep, clientStep, pairStep, Duplex.step,
      Server.Session.party, Client.Session.party, Server.Session.step, Client.Session.step,
      Server.Session.control, Client.Session.control, Server.Session.authenticate,
      Server.Session.afterAuthenticate, Client.Session.afterAuthenticate,
      ServerAuthenticate.step, ClientAuthenticate.step, ClientAuthenticate.start,
      Server.Session.afterConfigure, ConfigureQuicClient.step, ConfigureQuicClient.start,
      KeepaliveClient.step, Server.Session.configurationTimedOut, Server.Session.fail,
      Server.Session.close, challengeRequestBufferLength, pollFlush, transfer,
      Channel.write, Channel.deliver, serverMay, clientMay, readsWhole, entersTimeout,
      serverWriting, clientWriting, hashes, keyed, addressed, shared, drew, begun, asked,
      heard, answered, judged, replied, happy, pinged]
  · simp [Channel.sent]

end

end ControlStream

/-- The client and the server of this repository do not interoperate, whatever the key,
the allow-list and the draws: a run of whole and prompt messages ends in the server's
configuration timeout, and in no run does the client send anything but PINGs after its
response or the server get to its bind. -/
theorem never_interoperates (sha512 : Bytes → Digest) (server : Server.ServerAppData)
    (remoteAddress forwardDestination : String) (now : SystemTime)
    (randomBytes : Vector UInt8 32) :
    (¬ ∀ labels final,
      run (ControlStream.step
          (ControlStream.drawn sha512 server remoteAddress now randomBytes)
          (ControlStream.sharing server forwardDestination)) {} labels = some final →
        ControlStream.Interoperates server.localBindPorts final) ∧
    ∀ labels final,
      run (ControlStream.step
          (ControlStream.drawn sha512 server remoteAddress now randomBytes)
          (ControlStream.sharing server forwardDestination)) {} labels = some final →
        final.pair.left.binds = [] ∧ final.pair.left.listener = none ∧
        ∀ response message, final.pair.toLeft.sent = response ++ message →
          response.length = 129 →
            (∃ count, message <+: repeated pingMessage count) ∧
              (ControlStream.InGrammar server.localBindPorts message → message = []) := by
  refine ⟨?_, ?_⟩
  · intro interoperates
    obtain ⟨final, ran, closed, _⟩ := ControlStream.run_timeoutLabels sha512 server
      remoteAddress forwardDestination now randomBytes
    apply (interoperates _ final ran).inTime
    rw [closed]
    exact List.mem_singleton_self _
  · intro labels final ran
    obtain ⟨events, ran⟩ := ControlStream.run_pair ran
    have unbound := ControlStream.unbound_of_run rfl ran
    refine ⟨unbound.1, unbound.2, ?_⟩
    intro response message written full
    obtain ⟨count, pings⟩ := ControlStream.pings_of_run ran written full
    exact ⟨⟨count, pings⟩,
      fun grammar => ControlStream.eq_nil_of_inGrammar grammar pings⟩

/-- Key `key`, port 80 allowed: the client has sent a PING where the server wants a
control message, and the server gives up after ten seconds. -/
theorem not_interoperates_port80 :
    ∃ labels final,
      run (ControlStream.step
          (ControlStream.drawn Crypto.Sha512.digest
            { connectionAuthPsk := "key"
              localBindIp := "127.0.0.1"
              localBindPorts := [.single 80] } "127.0.0.1:50000" 0 (Vector.replicate 32 0))
          { connectionAuthPsk := "key", forwardDestination := "127.0.0.1:8080" }) {}
        labels = some final ∧
      final.pair.left.closes = ["ERR configuration timed out"] ∧
      ¬ ControlStream.Interoperates [.single 80] final := by
  obtain ⟨final, ran, closed, _⟩ := ControlStream.run_timeoutLabels Crypto.Sha512.digest
    { connectionAuthPsk := "key"
      localBindIp := "127.0.0.1"
      localBindPorts := [.single 80] } "127.0.0.1:50000" "127.0.0.1:8080" 0
    (Vector.replicate 32 0)
  refine ⟨_, final, ran, closed, ?_⟩
  intro interoperates
  apply interoperates.inTime
  rw [closed]
  exact List.mem_singleton_self _

end PortRedirect.Interop
