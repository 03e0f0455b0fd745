import PortRedirect.Server.Accounting
import PortRedirect.Server.Main
import PortRedirect.Server.PortGrammar
import PortRedirect.Server.SessionHistory

namespace PortRedirect.Server

open PortRedirect.Text
open PortRedirect.Protocol
open PortRedirect.Quic
open PortRedirect.Stream
open PortRedirect.Transition

/-! The server program: `main`, the accept loop that it ends in, and the sessions that
the loop has spawned, all of them at once. -/

/-- What the handler of one connection finds. -/
structure Draw where
  remoteAddress : String
  now : SystemTime
  randomBytes : Except String (Vector UInt8 32)

structure ServerProgram where
  accept : AcceptLoop := {}
  process : ServerProcess := {}

namespace ServerProgram

inductive Event where
  /-- A step of the accept loop other than the end of a handshake. -/
  | accept (event : AcceptEvent)
  /-- A handshake is complete, and the handler's task begins. -/
  | spawned (draw : Draw)
  | process (event : ServerProcess.Event)

section

variable (sha512 : Bytes → Digest) (config : ServerConfig ServerAppData)

def setting (draw : Draw) : Setting where
  sha512 := sha512
  config := config.appData
  remoteAddress := draw.remoteAddress
  now := draw.now
  randomBytes := draw.randomBytes

def step (program : ServerProgram) : Event → Option ServerProgram
  | .accept event =>
      if event = .connected then none
      else
        (program.accept.step config.toServerConfig event).map fun accept =>
          { program with accept := accept }
  | .spawned draw =>
      (program.accept.step config.toServerConfig .connected).bind fun accept =>
        (program.process.step (.connected (setting sha512 config draw))).map fun process =>
          { accept := accept, process := process }
  | .process (.connected _) => none
  | .process event =>
      (program.process.step event).map fun process => { program with process := process }

/-- A run of the program that got as far as its accept loop. -/
def Running (environment : Environment) (surroundings : ServerSurroundings) (args : Args)
    (events : List Event) (final : ServerProgram) : Prop :=
  main environment args = .ok config ∧
    (∃ certChain, setUp surroundings config = .ok certChain) ∧
    run (step sha512 config) {} events = some final

end

/-- The session that an event belongs to. -/
def ofSession : Event → Option (Nat × Session.Event)
  | .process (.session index event) => some (index, event)
  | _ => none

def draws : Event → List Draw
  | .spawned draw => [draw]
  | _ => []

end ServerProgram

namespace ServerProgram

variable {sha512 : Bytes → Digest} {config : ServerConfig ServerAppData}
  {program next final : ServerProgram} {events : List Event}

theorem step_cases {event : Event} (taken : program.step sha512 config event = some next) :
    (∃ cause accept, event = .accept cause ∧ cause ≠ .connected ∧
      program.accept.step config.toServerConfig cause = some accept ∧
      next = { program with accept := accept }) ∨
    (∃ draw accept, event = .spawned draw ∧
      program.accept.step config.toServerConfig .connected = some accept ∧
      next =
        { accept := accept
          process := { program.process with
            sessions := program.process.sessions ++ [(setting sha512 config draw, {})] } }) ∨
    ∃ cause process, event = .process cause ∧ (∀ setting, cause ≠ .connected setting) ∧
      program.process.step cause = some process ∧
      next = { program with process := process } := by
  cases event with
  | accept cause =>
      simp only [step] at taken
      split at taken
      · cases taken
      · rename_i other
        obtain ⟨accept, moved, rfl⟩ := Option.map_eq_some_iff.mp taken
        exact .inl ⟨cause, accept, rfl, other, moved, rfl⟩
  | spawned draw =>
      obtain ⟨accept, moved, begun⟩ := Option.bind_eq_some_iff.mp taken
      cases begun
      exact .inr (.inl ⟨draw, accept, rfl, moved, rfl⟩)
  | process cause =>
      refine .inr (.inr ?_)
      cases cause with
      | connected setting => cases taken
      | session index event =>
          obtain ⟨process, moved, rfl⟩ := Option.map_eq_some_iff.mp taken
          exact ⟨_, process, rfl, fun _ => ServerProcess.Event.noConfusion, moved, rfl⟩
      | forward index event =>
          obtain ⟨process, moved, rfl⟩ := Option.map_eq_some_iff.mp taken
          exact ⟨_, process, rfl, fun _ => ServerProcess.Event.noConfusion, moved, rfl⟩
      | record index =>
          obtain ⟨process, moved, rfl⟩ := Option.map_eq_some_iff.mp taken
          exact ⟨_, process, rfl, fun _ => ServerProcess.Event.noConfusion, moved, rfl⟩

/-- The sessions are a pool that the accept loop fills. -/
theorem pooled : Pooled ServerProcess.sessionStep (step sha512 config)
    (fun program => program.process.sessions) ofSession
    (fun event => (draws event).map fun draw => (setting sha512 config draw, {})) where
  moves := by
    intro program event next taken
    rcases step_cases taken with ⟨cause, accept, rfl, _, _, rfl⟩ |
      ⟨draw, accept, rfl, _, rfl⟩ | ⟨cause, process, rfl, other, moved, rfl⟩
    · exact ⟨_, (List.append_nil _).symm, rfl⟩
    · exact ⟨_, rfl, rfl⟩
    · cases cause with
      | connected setting => exact absurd rfl (other setting)
      | session index event =>
          obtain ⟨sessions, stepped, rfl⟩ := Option.map_eq_some_iff.mp moved
          refine ⟨sessions, ?_, stepped⟩
          cases event with
          | listener event => exact (List.append_nil _).symm
          | _ => exact (List.append_nil _).symm
      | forward index event =>
          obtain ⟨forwarding, _, rfl⟩ := Option.map_eq_some_iff.mp moved
          exact ⟨_, (List.append_nil _).symm, rfl⟩
      | record index =>
          refine ⟨program.process.sessions, ?_, rfl⟩
          simp only [ServerProcess.step] at moved
          split at moved
          · cases moved
          · split at moved
            · cases moved
            · cases moved
              exact (List.append_nil _).symm

/-- What the client of a session has sent to it, and what it has been sent. -/
def heard (index : Nat) (events : List Event) : Bytes :=
  (own ofSession index events).flatMap Session.Event.input

def written (index : Nat) (events : List Event) : Bytes :=
  (own ofSession index events).flatMap Session.Event.output

theorem run_sessionStep {given given' : Setting} {session session' : Session}
    {events : List Session.Event}
    (ran : run ServerProcess.sessionStep (given, session) events = some (given', session')) :
    given' = given ∧ run (Session.step given) session events = some session' := by
  induction events generalizing session with
  | nil =>
      cases ran
      exact ⟨rfl, rfl⟩
  | cons event events ih =>
      obtain ⟨next, taken, rest⟩ := run_cons_eq_some.mp ran
      obtain ⟨after, moved, rfl⟩ := Option.map_eq_some_iff.mp taken
      obtain ⟨same, ran⟩ := ih rest
      exact ⟨same, run_cons_eq_some.mpr ⟨after, moved, ran⟩⟩

/-- Whatever the other sessions do, each has had a run of its own. -/
theorem session_of_run (ran : run (step sha512 config) {} events = some final) {index : Nat}
    {given : Setting} {session : Session}
    (found : final.process.sessions[index]? = some (given, session)) :
    ∃ draw, (events.flatMap draws)[index]? = some draw ∧
      given = setting sha512 config draw ∧
      run (Session.step given) {} (own ofSession index events) = some session := by
  have traced := pooled.traced rfl ran
  have born : (events.flatMap fun event =>
      (draws event).map fun draw => (setting sha512 config draw, ({} : Session))) =
        (events.flatMap draws).map fun draw => (setting sha512 config draw, {}) :=
    List.map_flatMap.symm
  have inside := (List.getElem?_eq_some_iff.mp found).1
  rw [traced.counted, born, List.length_map] at inside
  have drawn := List.getElem?_eq_getElem inside
  refine ⟨_, drawn, ?_⟩
  have reached := traced.reached index
    (setting sha512 config (events.flatMap draws)[index], {}) (given, session)
    (by rw [born, List.getElem?_map, drawn]; rfl) found
  obtain ⟨rfl, ran⟩ := run_sessionStep reached
  exact ⟨rfl, ran⟩

structure Admitted (config : ServerConfig ServerAppData) (program : ServerProgram) : Prop where
  bounded : AcceptLoop.Bounded config.toServerConfig program.accept
  handled : program.process.sessions.length = program.accept.handled.length

theorem admitted_step {event : Event} (holds : program.Admitted config)
    (taken : program.step sha512 config event = some next) : next.Admitted config := by
  rcases step_cases taken with ⟨cause, accept, rfl, other, moved, rfl⟩ |
    ⟨draw, accept, rfl, moved, rfl⟩ | ⟨cause, process, rfl, other, moved, rfl⟩
  · refine ⟨AcceptLoop.bounded_step holds.bounded moved, ?_⟩
    rcases AcceptLoop.handled_step moved with ⟨connected, _⟩ | ⟨_, same⟩
    · exact absurd connected other
    · rw [same]
      exact holds.handled
  · refine ⟨AcceptLoop.bounded_step holds.bounded moved, ?_⟩
    rcases AcceptLoop.handled_step moved with ⟨_, incoming, grown⟩ | ⟨other, _⟩
    · rw [grown, List.length_append, List.length_append, holds.handled]
      rfl
    · exact absurd rfl other
  · refine ⟨holds.bounded, ?_⟩
    have kept : process.sessions.length = program.process.sessions.length := by
      obtain ⟨sessions, same, moves⟩ := pooled.moves program (.process cause) _ taken
      have same : process.sessions = sessions := by simpa [draws] using same
      rw [same]
      cases cause with
      | session index event =>
          obtain ⟨_, _, _, _, rfl⟩ := stepAt_eq_some.mp moves
          exact List.length_set
      | _ => rw [show sessions = program.process.sessions from moves]
    exact kept.trans holds.handled

theorem admitted_run (ran : run (step sha512 config) {} events = some final) :
    final.Admitted config :=
  run_invariant (Admitted config) (fun _ _ _ holds taken => admitted_step holds taken)
    ⟨AcceptLoop.bounded_start _, rfl⟩ ran

end ServerProgram

theorem main_appData {environment : Environment} {args : Args}
    {config : ServerConfig ServerAppData} (called : main environment args = .ok config) :
    config.toServerConfig = .createDefaultConfig none ∧
      ∃ allowed, allowedClientPorts args.allowedClientPorts args.localPort = .ok allowed ∧
        config.appData =
          { connectionAuthPsk := args.quicPsk
            localBindIp := args.localHost
            localBindPorts := allowed } := by
  unfold main at called
  simp only [bind_eq_ok, passing_eq_ok] at called
  obtain ⟨_, _, _, _, allowed, assembled, _, _, ⟨⟩⟩ := called
  refine ⟨rfl, allowed, ?_, rfl⟩
  cases ports : allowedClientPorts args.allowedClientPorts args.localPort with
  | error error => simp [ports, Except.mapError] at assembled
  | ok list =>
      rw [ports] at assembled
      cases assembled
      rfl

theorem denotes_of_allows {texts : Option (List String)} {specs : Option (List PortSpec)}
    {localPort : Option UInt16} {allowed : List PortSpec} {port : UInt16}
    (parsed : parseAllowedClientPorts texts = .ok specs)
    (assembled : allowedClientPorts specs localPort = .ok allowed)
    (allows : allows allowed port = true) :
    localPort = some port ∨ ∃ text ∈ texts.getD [], DenotesPort text port := by
  unfold allowedClientPorts at assembled
  cases localPort with
  | none =>
      simp only at assembled
      split at assembled
      · cases assembled
      · cases assembled
        exact .inr ((allows_parsed_iff parsed port).mp allows)
  | some only =>
      simp only at assembled
      split at assembled
      · cases assembled
      · cases assembled
        rcases (allows_append _ _ port).mp allows with among | same
        · exact .inr ((allows_parsed_iff parsed port).mp among)
        · left
          have equal : port = only := by simpa [Server.allows, PortSpec.allows] using same
          rw [equal]

namespace ServerProgram

variable {sha512 : Bytes → Digest} {config : ServerConfig ServerAppData}
  {environment : Environment} {surroundings : ServerSurroundings} {args : Args}
  {texts : Option (List String)} {events : List Event} {final : ServerProgram}

/-- What must have happened in a session before it asks for a port: the port is on the
command line, and the client has answered the challenge that this session has drawn. -/
structure Authorized (sha512 : Bytes → Digest) (args : Args) (texts : Option (List String))
    (draw : Draw) (received sent : Bytes) (port : UInt16) : Prop where
  named : args.localPort = some port ∨ ∃ text ∈ texts.getD [], DenotesPort text port
  answered : ∃ randomBytes response message, draw.randomBytes = .ok randomBytes ∧
    IsResponse sha512 (challenge randomBytes (elapsedMinutes draw.now)) args.quicPsk
      response ∧
    ConfigureQuicClient.IsListenPort port message ∧ response ++ message <+: received ∧
    Session.greeting (challenge randomBytes (elapsedMinutes draw.now)) <+: sent

theorem challenge_eq_ok {draw : Draw} {text : String}
    (drawn : (setting sha512 config draw).challenge = .ok text) :
    ∃ randomBytes, draw.randomBytes = .ok randomBytes ∧
      text = challenge randomBytes (elapsedMinutes draw.now) := by
  unfold Setting.challenge setting generateRandomBytes at drawn
  cases bytes : draw.randomBytes with
  | error reason => simp [bytes] at drawn
  | ok randomBytes =>
      simp only [bytes] at drawn
      cases drawn
      exact ⟨randomBytes, rfl, rfl⟩

/-- A session that has asked for a port has read the response to its own challenge. -/
theorem response_of_binds {index : Nat} {draw : Draw} {session : Session}
    (ran : run (step sha512 config) {} events = some final)
    (found : final.process.sessions[index]? = some (setting sha512 config draw, session))
    (opened : session.binds ≠ []) :
    ∃ randomBytes, draw.randomBytes = .ok randomBytes ∧
      (heard index events).take 128 = utf8 (expectedResponse sha512
        (challenge randomBytes (elapsedMinutes draw.now))
        config.appData.connectionAuthPsk) := by
  obtain ⟨_, _, _, own⟩ := session_of_run ran found
  obtain ⟨text, port, front, challenged, ⟨_, gate, _⟩, ⟨rest, read⟩, _⟩ :=
    Session.gate_of_run own fun unbound => opened unbound.1
  obtain ⟨randomBytes, bytes, rfl⟩ := challenge_eq_ok challenged
  obtain ⟨response, message, rfl, ⟨byte, _, rfl⟩, _⟩ := gate
  refine ⟨randomBytes, bytes, ?_⟩
  have size := length_expectedResponse sha512
    (challenge randomBytes (elapsedMinutes draw.now)) config.appData.connectionAuthPsk
  rw [heard, ← read, List.append_assoc, List.append_assoc]
  exact List.take_left' size

/-- In every state of the server, from its command line on and however its sessions
interleave: each session belongs to a connection whose address was validated, and the one
address that it may have asked the system for is that of a port of the command line, which
its own client has asked for after it has answered the session's own challenge. -/
theorem binds_authorized (parsed : parseAllowedClientPorts texts = .ok args.allowedClientPorts)
    (running : Running sha512 config environment surroundings args events final) :
    final.process.sessions.length = final.accept.handled.length ∧
      (∀ incoming ∈ final.accept.handled, incoming.remoteAddressValidated = true) ∧
      ∀ index given session, final.process.sessions[index]? = some (given, session) →
        ∃ draw, (events.flatMap draws)[index]? = some draw ∧
          (session.binds = [] ∧ session.listener = none ∨
            ∃ port, Authorized sha512 args texts draw (heard index events)
                (written index events) port ∧
              session.binds = [args.localHost ++ ":" ++ decimal port.toNat] ∧
              ∀ listener, session.listener = some listener →
                BindsTo port listener.port) := by
  obtain ⟨called, _, ran⟩ := running
  obtain ⟨defaults, allowed, assembled, appData⟩ := main_appData called
  have admitted := admitted_run ran
  refine ⟨admitted.handled, ?_, ?_⟩
  · apply admitted.bounded.validated
    rw [defaults]
    rfl
  · intro index given session found
    obtain ⟨draw, drawn, rfl, own⟩ := session_of_run ran found
    refine ⟨draw, drawn, ?_⟩
    by_cases unbound : session.Unbound
    · exact .inl unbound
    · obtain ⟨text, port, front, challenged, ⟨binds, gate, listens⟩, read, wrote⟩ :=
        Session.gate_of_run own unbound
      obtain ⟨randomBytes, bytes, rfl⟩ := challenge_eq_ok challenged
      obtain ⟨response, message, rfl, valid, asked, allows⟩ := gate
      simp only [setting, appData] at valid allows
      refine .inr ⟨port, ⟨denotes_of_allows parsed assembled allows,
        randomBytes, response, message, bytes, valid, asked, read, wrote⟩, ?_, listens⟩
      rw [binds, Session.tcpAddr, setting, appData]

theorem run_process {program : ServerProgram} {process : ServerProcess}
    {events : List ServerProcess.Event}
    (admits : ∀ event ∈ events, ∀ given, event ≠ .connected given)
    (ran : run ServerProcess.step program.process events = some process) :
    run (step sha512 config) program (events.map .process) =
      some { program with process := process } := by
  induction events generalizing program with
  | nil =>
      cases ran
      rfl
  | cons event events ih =>
      obtain ⟨next, taken, rest⟩ := run_cons_eq_some.mp ran
      obtain ⟨other, admits⟩ := List.forall_mem_cons.mp admits
      have stepped : program.step sha512 config (.process event) =
          some { program with process := next } := by
        cases event with
        | connected given => exact absurd rfl (other given)
        | _ => simp [step, taken]
      exact run_cons_eq_some.mpr ⟨_, stepped,
        @ih { program with process := next } admits rest⟩

def sampleArgs : Args where
  localHost := "127.0.0.1"
  allowedClientPorts := some [.range 80 90]
  quicPsk := "key"

def sampleSurroundings : ServerSurroundings where
  files := .empty
  pem := ⟨fun _ => .ok none, fun _ => .ok []⟩
  generate name := some { cert := utf8 name, key := [0] }
  certWrite := .written
  keyWrite := .written
  keyRead := none
  certRead := none
  singleCert _ _ := .ok ()
  quicServerConfig := .ok ()
  bind _ := .ok ()

def sampleConfig : ServerConfig ServerAppData :=
  .createDefaultConfig ["home", ".config", "portredirect"] "127.0.0.1"
    { ip := .v4 ⟨127, 0, 0, 1⟩, port := 4433 } none
    { connectionAuthPsk := "key"
      localBindIp := "127.0.0.1"
      localBindPorts := [.range 80 90] }

/-- A session that draws zeros, at a time. -/
def sampleDraw (now : SystemTime) : Draw where
  remoteAddress := "127.0.0.1:50000"
  now := now
  randomBytes := .ok (Vector.replicate 32 0)

def sampleChallenge (now : SystemTime) : String :=
  challenge (Vector.replicate 32 0) (elapsedMinutes now)

/-- A client that asks for port 80. -/
def sampleEvents (now : SystemTime) : List Event :=
  [.accept (.incoming ⟨1, true⟩), .accept .check, .accept .accept, .spawned (sampleDraw now)] ++
    ((Session.gateEvents (sampleChallenge now)
      (utf8 (expectedResponse Crypto.Sha512.digest (sampleChallenge now) "key") ++ [10])
      0 80).map (.session 0)).map .process

theorem run_sampleEvents (now : SystemTime) :
    ∃ final, run (step Crypto.Sha512.digest sampleConfig) {} (sampleEvents now) = some final ∧
      final.process.sessions[0]? = some
        (setting Crypto.Sha512.digest sampleConfig (sampleDraw now),
          { stage := .bind 80, binds := ["127.0.0.1:80"] }) := by
  let given := setting Crypto.Sha512.digest sampleConfig (sampleDraw now)
  have drawn : given.challenge = .ok (sampleChallenge now) := rfl
  have valid : IsResponse given.sha512 (sampleChallenge now) given.config.connectionAuthPsk
      (utf8 (expectedResponse Crypto.Sha512.digest (sampleChallenge now) "key") ++ [10]) :=
    ⟨10, by decide, rfl⟩
  have allowed : allows given.config.localBindPorts (fromBeBytes 0 80) = true := by
    change allows [.range 80 90] (fromBeBytes 0 80) = true
    decide
  have bound := Session.run_of_runOn (Session.run_gateEvents drawn valid allowed [])
  have began : run (step Crypto.Sha512.digest sampleConfig) {}
      [.accept (.incoming ⟨1, true⟩), .accept .check, .accept .accept,
        .spawned (sampleDraw now)] =
      some
        { accept := { openConnections := [1], handled := [⟨1, true⟩] }
          process := { sessions := [(given, {})] } } := rfl
  have gate := @ServerProcess.run_session { sessions := [(given, {})] } given {} _ 0 _ rfl
    (by simp [Session.gateEvents]) bound
  have ran := @run_process Crypto.Sha512.digest sampleConfig
    { accept := { openConnections := [1], handled := [⟨1, true⟩] }
      process := { sessions := [(given, {})] } } _ _ (by simp) gate
  exact ⟨_, (run_append began).trans ran, rfl⟩

theorem running_sampleEvents (now : SystemTime) {final : ServerProgram}
    (ran : run (step Crypto.Sha512.digest sampleConfig) {} (sampleEvents now) = some final) :
    Running Crypto.Sha512.digest sampleConfig .loopback sampleSurroundings sampleArgs
      (sampleEvents now) final :=
  ⟨rfl, ⟨[utf8 "127.0.0.1"], rfl⟩, ran⟩

theorem binds_authorized_port80 :
    ∃ final port, Running Crypto.Sha512.digest sampleConfig .loopback sampleSurroundings
        sampleArgs (sampleEvents 0) final ∧
      parseAllowedClientPorts (some ["80-90"]) = .ok sampleArgs.allowedClientPorts ∧
      Authorized Crypto.Sha512.digest sampleArgs (some ["80-90"]) (sampleDraw 0)
        (heard 0 (sampleEvents 0)) (written 0 (sampleEvents 0)) port := by
  obtain ⟨final, ran, found⟩ := run_sampleEvents 0
  have running := running_sampleEvents 0 ran
  have parsed : parseAllowedClientPorts (some ["80-90"]) =
      .ok sampleArgs.allowedClientPorts := by
    rfl
  obtain ⟨_, _, every⟩ := binds_authorized parsed running
  obtain ⟨draw, drawn, authorized⟩ := every 0 _ _ found
  cases drawn
  rcases authorized with ⟨unbound, _⟩ | ⟨port, authorized, _⟩
  · cases unbound
  · exact ⟨final, port, running, parsed, authorized⟩

/-- A response opens a port in one session at most, of those of this run of the server and
of any other with this hash: where two sessions have drawn different bytes or minutes, or
have different keys, and their digests do not collide, the responses that they have
accepted differ. -/
theorem response_admitted_once {firstConfig secondConfig : ServerConfig ServerAppData}
    {firstEvents secondEvents : List Event} {firstFinal secondFinal : ServerProgram}
    {firstIndex secondIndex : Nat} {firstDraw secondDraw : Draw} {first second : Session}
    (firstRan : run (step sha512 firstConfig) {} firstEvents = some firstFinal)
    (secondRan : run (step sha512 secondConfig) {} secondEvents = some secondFinal)
    (firstFound : firstFinal.process.sessions[firstIndex]? =
      some (setting sha512 firstConfig firstDraw, first))
    (secondFound : secondFinal.process.sessions[secondIndex]? =
      some (setting sha512 secondConfig secondDraw, second))
    (noCollision : ∀ firstBytes secondBytes, firstDraw.randomBytes = .ok firstBytes →
      secondDraw.randomBytes = .ok secondBytes →
      sha512 (hashInput (challenge firstBytes (elapsedMinutes firstDraw.now))
          firstConfig.appData.connectionAuthPsk) =
        sha512 (hashInput (challenge secondBytes (elapsedMinutes secondDraw.now))
          secondConfig.appData.connectionAuthPsk) →
      hashInput (challenge firstBytes (elapsedMinutes firstDraw.now))
          firstConfig.appData.connectionAuthPsk =
        hashInput (challenge secondBytes (elapsedMinutes secondDraw.now))
          secondConfig.appData.connectionAuthPsk)
    (differ : ¬ (firstDraw.randomBytes = secondDraw.randomBytes ∧
      elapsedMinutes firstDraw.now = elapsedMinutes secondDraw.now ∧
      firstConfig.appData.connectionAuthPsk = secondConfig.appData.connectionAuthPsk))
    (firstOpened : first.binds ≠ []) (secondOpened : second.binds ≠ []) :
    (heard firstIndex firstEvents).take 128 ≠ (heard secondIndex secondEvents).take 128 := by
  intro replayed
  obtain ⟨firstBytes, firstDrawn, firstHeard⟩ := response_of_binds firstRan firstFound
    firstOpened
  obtain ⟨secondBytes, secondDrawn, secondHeard⟩ := response_of_binds secondRan secondFound
    secondOpened
  rw [firstHeard, secondHeard] at replayed
  have sameDigest := Vector.toList_inj.mp (hexEncode_injective (utf8_injective replayed))
  obtain ⟨bytes, minutes, psk⟩ :=
    hashInput_injective (noCollision _ _ firstDrawn secondDrawn sameDigest)
  exact differ ⟨by rw [firstDrawn, secondDrawn, bytes], minutes, psk⟩

/-- The same draw again, a minute later. -/
theorem response_admitted_once_a_minute_later :
    ∃ first second,
      run (step Crypto.Sha512.digest sampleConfig) {} (sampleEvents 0) = some first ∧
      run (step Crypto.Sha512.digest sampleConfig) {} (sampleEvents 60000000000) =
        some second ∧
      (heard 0 (sampleEvents 0)).take 128 ≠
        (heard 0 (sampleEvents 60000000000)).take 128 := by
  obtain ⟨first, firstRan, firstFound⟩ := run_sampleEvents 0
  obtain ⟨second, secondRan, secondFound⟩ := run_sampleEvents 60000000000
  have digests : Crypto.Sha512.digest
        (hashInput (challenge (Vector.replicate 32 0) (elapsedMinutes 0)) "key") ≠
      Crypto.Sha512.digest
        (hashInput (challenge (Vector.replicate 32 0) (elapsedMinutes 60000000000)) "key") := by
    decide +kernel
  refine ⟨first, second, firstRan, secondRan, ?_⟩
  refine response_admitted_once firstRan secondRan firstFound secondFound ?_ ?_
    (List.cons_ne_nil _ _) (List.cons_ne_nil _ _)
  · rintro firstBytes secondBytes ⟨⟩ ⟨⟩ same
    exact absurd same digests
  · rintro ⟨_, minutes, _⟩
    exact absurd minutes (by decide)

end ServerProgram

end PortRedirect.Server
