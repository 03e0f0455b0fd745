import PortRedirect.Crypto.Sha512
import PortRedirect.Server.Orderly
import PortRedirect.Server.SessionTranscript

namespace PortRedirect.Server

open PortRedirect.Text
open PortRedirect.Stream
open PortRedirect.Protocol
open PortRedirect.Transition

/-! A session whose client writes a given stream, in reads of any size.  It binds
exactly when the stream begins with a gate. -/

namespace Session

def runOn (setting : Setting) (stream : Bytes) (events : List Event) :
    Option (Duplex Session Unit) :=
  run (Duplex.step (party setting) Party.departed) (Duplex.fed {} stream)
    (events.map .inl)

variable {setting : Setting} {challenge : String} {stream : Bytes}
  {final : Duplex Session Unit} {events : List Event} {refused : Prop}

private theorem transcript_runOn (allowed : Event → Prop)
    (drawn : setting.challenge = .ok challenge)
    (refuse : ∀ event received pending, allowed event → received ++ pending = stream →
      (event = .control .eof → pending = []) →
      Refusal setting challenge event received → refused)
    (every : ∀ event ∈ events, allowed event)
    (ran : runOn setting stream events = some final) :
    Transcript setting challenge refused final.left final.toLeft.delivered
        final.toRight.sent ∧ final.toLeft.sent = stream := by
  refine run_invariant_of_forall
    (fun label : Event ⊕ Empty => ∃ event, label = .inl event ∧ allowed event)
    (fun duplex => Transcript setting challenge refused duplex.left
      duplex.toLeft.delivered duplex.toRight.sent ∧ duplex.toLeft.sent = stream)
    ?_ ⟨transcript_start, rfl⟩ ?_ ran
  · rintro duplex _ next ⟨event, rfl, permitted⟩ ⟨holds, whole⟩ taken
    obtain ⟨resumed, _, delivered, sentIn, _, sentOut⟩ := Duplex.step_inl_eq_some taken
    rw [← sentIn] at whole
    refine ⟨?_, whole⟩
    rw [delivered, sentOut]
    refine transcript_step drawn holds resumed (fun refusal => ?_)
    rw [← delivered] at refusal
    refine refuse event _ next.toLeft.pending permitted whole ?_ refusal
    rintro rfl
    obtain ⟨drained, _⟩ := transfer_eof (Duplex.step_inl_transfer taken rfl)
    have same := sentIn
    rw [Channel.sent, Channel.sent, delivered, drained] at same
    simpa [Party.input, party] using same
  · intro label member
    obtain ⟨event, inside, rfl⟩ := List.mem_map.mp member
    exact ⟨event, rfl, every event inside⟩

private theorem transcript_any (drawn : setting.challenge = .ok challenge)
    (ran : runOn setting stream events = some final) :
    Transcript setting challenge True final.left final.toLeft.delivered
        final.toRight.sent ∧ final.toLeft.sent = stream :=
  transcript_runOn (fun _ => True) drawn (fun _ _ _ _ _ _ _ => trivial)
    (fun _ _ => trivial) ran

private theorem take_stream {front rest pending : Bytes}
    (whole : front ++ rest ++ pending = stream) {port : UInt16}
    (gate : IsGate setting challenge port front) : stream.take 141 = front := by
  rw [← whole, List.append_assoc, ← gate.length_eq, List.take_left]

/-- Whatever happens, a bind comes after a gate. -/
theorem gate_of_bound (drawn : setting.challenge = .ok challenge)
    (ran : runOn setting stream events = some final) (bound : ¬ final.left.Unbound) :
    ∃ port, final.left.Bound setting challenge port (stream.take 141) ∧
      greeting challenge <+: final.toRight.sent := by
  obtain ⟨holds, whole⟩ := transcript_any drawn ran
  obtain ⟨port, front, rest, pongs, bound, heard, written⟩ := holds.bound bound
  rw [Channel.sent, heard] at whole
  rw [take_stream whole bound.2.1, written]
  exact ⟨port, bound, List.prefix_append _ _⟩

private theorem not_gate_of_unbound (drawn : setting.challenge = .ok challenge)
    (ran : runOn setting stream events = some final)
    (faultless : ∀ event ∈ events, event.fault = false)
    (past : final.left.gating = false) (unbound : final.left.binds = []) (port : UInt16) :
    ¬ IsGate setting challenge port (stream.take 141) := by
  have refuse : ∀ event received pending, event.fault = false →
      received ++ pending = stream → (event = .control .eof → pending = []) →
      Refusal setting challenge event received →
        ∀ port, ¬ IsGate setting challenge port (stream.take 141) := by
    rintro event received pending sound rfl drained (fault | ⟨ended, short⟩ | never) port
      gate
    · rw [sound] at fault
      cases fault
    · have size := gate.length_eq
      rw [drained ended, List.append_nil, List.length_take] at size
      omega
    · exact never pending port gate
  obtain ⟨holds, _⟩ :=
    transcript_runOn (fun event => event.fault = false) drawn refuse faultless ran
  have bindless {session : Session} {other : UInt16} {front : Bytes}
      (bound : session.Bound setting challenge other front) (none : session.binds = []) :
      False := by
    rw [bound.1] at none
    cases none
  unfold gating at past
  unfold Session.Transcript at holds
  cases stage : final.left.stage with
  | openControl | authenticate known auth | configure config =>
      simp only [stage] at past
      cases past
  | bind requested =>
      simp only [stage] at holds
      exact (bindless holds.1 unbound).elim
  | controlLoop loop | joinListener =>
      simp only [stage] at holds
      obtain ⟨_, _, _, _, bound, _⟩ := holds
      exact (bindless bound unbound).elim
  | returned result =>
      simp only [stage] at holds
      rcases holds with ⟨_, refused⟩ | ⟨_, _, _, _, bound, _⟩
      · exact refused port
      · exact (bindless bound unbound).elim

/-- A session in these stages can always go on without a fault. -/
private theorem exists_step (drawn : setting.challenge = .ok challenge)
    (ran : runOn setting stream events = some final) (gating : final.left.gating = true) :
    ∃ event next, event.fault = false ∧
      runOn setting stream (events ++ [event]) = some next := by
  obtain ⟨holds, _⟩ := transcript_any drawn ran
  suffices taken : ∃ event next, event.fault = false ∧
      Duplex.step (party setting) Party.departed final (.inl event) = some next by
    obtain ⟨event, next, sound, taken⟩ := taken
    refine ⟨event, next, sound, ?_⟩
    rw [runOn, List.map_append, run_append_eq_some]
    exact ⟨final, ran, run_singleton_eq_some.mpr taken⟩
  unfold Session.gating at gating
  unfold Session.Transcript at holds
  cases stage : final.left.stage with
  | openControl =>
      refine ⟨.opened, { final with left := final.left.authenticate setting }, rfl, ?_⟩
      simp [Duplex.step, party, step, stage]
  | authenticate known auth =>
      simp only [stage] at holds
      obtain ⟨_, running, rfl, holds⟩ := holds
      obtain ⟨event, next, after, sound, resumed, moved⟩ :=
        ServerAuthenticate.step_enabled holds running final.toLeft final.toRight
      have inTime : event ≠ .elapsed := by
        rintro rfl
        cases sound
      have stepped : (party setting).step final.left (.control event) =
          some (final.left.afterAuthenticate setting known next) := by
        simp [party, step, control, stage, inTime, resumed]
      exact ⟨.control event, _, sound, Duplex.step_inl_eq stepped rfl moved⟩
  | configure config =>
      simp only [stage] at holds
      obtain ⟨_, running, _, response, message, _, _, holds⟩ := holds
      obtain ⟨event, next, after, sound, resumed, moved⟩ :=
        ConfigureQuicClient.step_enabled holds running final.toLeft final.toRight
      have inTime : event ≠ .elapsed := by
        rintro rfl
        cases sound
      have stepped : (party setting).step final.left (.control event) =
          some (final.left.afterConfigure setting next) := by
        simp [party, step, control, stage, inTime, resumed]
      exact ⟨.control event, _, sound, Duplex.step_inl_eq stepped rfl moved⟩
  | _ => simp [stage] at gating

def gatingReasons : List String :=
  ["ERR failed authentication", "ERR authentication timed out",
    "ERR failed configuration", "ERR configuration timed out"]

/-- A fault or the end of the stream in one of these stages ends the session. -/
private theorem step_fault {session next : Session} {event : Event}
    (early : session.gating = true)
    (fault : event.fault = true ∨ event = .control .eof)
    (taken : step setting session event = some next) :
    ∃ reason ∈ gatingReasons, ∃ error, next = session.fail reason error := by
  have named {cause : Stream.Event} (fault : Event.fault (.control cause) = true ∨
      Event.control cause = .control .eof) : cause.fault = true ∨ cause = .eof :=
    fault.imp id Event.control.inj
  rcases step_cases taken with
    ⟨_, opening⟩ | ⟨challenge, auth, cause, _, rfl, authenticating⟩ |
      ⟨config, cause, _, rfl, configuring⟩ | ⟨requested, stage, _⟩ |
      ⟨loop, cause, after, stage, _⟩ | ⟨listener, cause, moved, rfl, _⟩ |
      ⟨listener, result, stage, _⟩
  · rcases opening with ⟨_, rfl⟩ | ⟨rfl, _⟩ | ⟨reason, _, rfl⟩
    · exact ⟨_, by simp [gatingReasons], _, rfl⟩
    · simp [Event.fault] at fault
    · exact ⟨_, by simp [gatingReasons], _, rfl⟩
  · rcases authenticating with ⟨_, rfl⟩ | ⟨after, resumed, rfl⟩
    · exact ⟨_, by simp [gatingReasons], _, rfl⟩
    · obtain ⟨error, rfl⟩ := ServerAuthenticate.step_fault (named fault) resumed
      exact ⟨_, by simp [gatingReasons], _, rfl⟩
  · rcases configuring with ⟨_, rfl⟩ | ⟨after, resumed, rfl⟩
    · exact ⟨_, by simp [gatingReasons], _, rfl⟩
    · obtain ⟨error, rfl⟩ := ConfigureQuicClient.step_fault (named fault) resumed
      exact ⟨_, by simp [gatingReasons], _, rfl⟩
  · simp [gating, stage] at early
  · simp [gating, stage] at early
  · simp [Event.fault] at fault
  · simp [gating, stage] at early

private theorem run_failed {before : Duplex Session Unit} {session : Session}
    {reason : String} {error : Error} (failed : before.left = session.fail reason error)
    (unbound : session.listener = none)
    (ran : run (Duplex.step (party setting) Party.departed) before (events.map .inl) =
      some final) : final.left = session.fail reason error := by
  refine run_invariant (fun duplex : Duplex Session Unit =>
    duplex.left = session.fail reason error) ?_ failed ran
  rintro duplex (event | event) next failed taken
  · obtain ⟨resumed, _⟩ := Duplex.step_inl_eq_some taken
    rw [failed] at resumed
    cases event with
    | control event => simp [party, step, control, fail] at resumed
    | listener event => simp [party, step, fail, close, unbound] at resumed
    | _ => simp [party, step, fail] at resumed
  · exact event.elim

theorem orderly_runOn (ran : runOn setting stream events = some final) :
    final.left.Orderly := by
  refine run_invariant (fun duplex : Duplex Session Unit => duplex.left.Orderly)
    ?_ orderly_start ran
  rintro duplex (event | event) next orderly taken
  · obtain ⟨resumed, _⟩ := Duplex.step_inl_eq_some taken
    exact orderly_step orderly resumed
  · exact event.elim

/-- At the bind the session has read the gate and written the greeting, and the
control loop begins right behind the gate. -/
private theorem gate_at_bind (drawn : setting.challenge = .ok challenge)
    (ran : runOn setting stream events = some final) {port : UInt16}
    (stage : final.left.stage = .bind port) :
    final.left.Bound setting challenge port (stream.take 141) ∧
      final.toRight.sent = greeting challenge ∧
      ∀ picked next, runOn setting stream (events ++ [.bound picked]) = some next →
        next.left.stage = .controlLoop .start ∧
          next.toLeft.delivered = stream.take 141 ∧
          next.toLeft.pending = stream.drop 141 := by
  obtain ⟨holds, whole⟩ := transcript_any drawn ran
  simp only [Session.Transcript, stage] at holds
  obtain ⟨bound, _, written⟩ := holds
  have all : final.toLeft.delivered ++ [] ++ final.toLeft.pending = stream := by
    rw [List.append_nil]
    exact whole
  have front := take_stream all bound.2.1
  refine ⟨front ▸ bound, written, ?_⟩
  intro picked next resumed
  rw [runOn, List.map_append, run_append_eq_some] at resumed
  obtain ⟨middle, same, taken⟩ := resumed
  rw [runOn] at ran
  cases ran.symm.trans same
  have taken := run_singleton_eq_some.mp taken
  obtain ⟨resumed, _, delivered, sent, _, _⟩ := Duplex.step_inl_eq_some taken
  simp only [party, step, stage] at resumed
  split at resumed
  · have spawned := Option.some.inj resumed
    have unread : next.toLeft.delivered = stream.take 141 := by
      rw [front]
      simpa [Party.input, party] using delivered
    refine ⟨by rw [← spawned, Session.bound], unread, ?_⟩
    rw [whole, Channel.sent, unread] at sent
    apply List.append_cancel_left
    rw [sent, List.take_append_drop]
  · cases resumed

theorem run_of_runOn (ran : runOn setting stream events = some final) :
    run (step setting) {} events = some final.left := by
  let own : Event ⊕ Empty → List Event := Sum.elim (fun event => [event]) Empty.elim
  have resumed : ∀ (state : Duplex Session Unit) event next,
      state.step (party setting) Party.departed event = some next →
        run (step setting) state.left (own event) = some next.left := by
    intro state event next taken
    cases event with
    | inl event => exact run_singleton_eq_some.mpr (Duplex.step_inl_eq_some taken).1
    | inr event => exact event.elim
  have projected := run_project Duplex.left own resumed ran
  have unchanged : (events.map .inl).flatMap own = events := by simp [own, List.flatMap_map]
  rwa [unchanged] at projected

def gateEvents (challenge : String) (response : Bytes) (high low : UInt8) : List Event :=
  [.opened, .control (.sent (utf8 (request challenge))), .control .flushed,
    .control (.received response), .control (.sent (verdict true)), .control .flushed,
    .control (.received (utf8 "LISTENPORT")), .control (.received [high, low])]

/-- Every gate leads to a bind. -/
theorem run_gateEvents (drawn : setting.challenge = .ok challenge) {response : Bytes}
    {high low : UInt8}
    (valid : IsResponse setting.sha512 challenge setting.config.connectionAuthPsk response)
    (allowed : allows setting.config.localBindPorts (fromBeBytes high low) = true)
    (rest : Bytes) :
    runOn setting (response ++ (utf8 "LISTENPORT" ++ [high, low]) ++ rest)
      (gateEvents challenge response high low) =
      some
        { left :=
            { stage := .bind (fromBeBytes high low)
              binds := [tcpAddr setting (fromBeBytes high low)] }
          right := ()
          toRight := { pending := greeting challenge }
          toLeft :=
            { delivered := response ++ (utf8 "LISTENPORT" ++ [high, low])
              pending := rest } } := by
  have started : ServerAuthenticate.start challenge =
      .writeRequest (utf8 (request challenge)) := by
    obtain ⟨randomBytes, coarseUnixTime, rfl⟩ := exists_draw drawn
    exact start_challenge randomBytes coarseUnixTime
  have nonempty : response ≠ [] := by
    rintro rfl
    cases valid.length_eq
  have heard : pollReadExact 129 [] (.received response) = some (.filled response) :=
    pollReadExact_filled nonempty valid.length_eq
  have judged : ServerAuthenticate.verify setting.sha512 challenge
      setting.config.connectionAuthPsk response = .writeVerdict true (verdict true) := by
    rcases ServerAuthenticate.verify_cases setting.sha512 challenge
        setting.config.connectionAuthPsk valid.length_eq with ⟨_, judged⟩ | ⟨wrong, _⟩
    · exact judged
    · exact absurd valid wrong
  have header : pollReadExact 10 [] (.received (utf8 "LISTENPORT")) =
      some (.filled (utf8 "LISTENPORT")) := pollReadExact_filled (by decide) (by decide)
  have checked : ConfigureQuicClient.checkHeader (utf8 "LISTENPORT") = .readPort [] := by
    simp [ConfigureQuicClient.checkHeader]
  have port : pollReadExact 2 [] (.received [high, low]) = some (.filled [high, low]) :=
    pollReadExact_filled (List.cons_ne_nil _ _) rfl
  have asked : (ConfigureQuicClient.requested [high, low]).port = fromBeBytes high low :=
    rfl
  simp [runOn, gateEvents, run, Duplex.step, Duplex.fed, party, step, control,
    authenticate, drawn, started, afterAuthenticate, ServerAuthenticate.step, transfer,
    Channel.write, Channel.deliver, pollFlush, heard, judged, afterConfigure,
    ConfigureQuicClient.start, ConfigureQuicClient.step, header, checked, port, asked,
    configured, allowed, greeting]

theorem exists_run_to_bind (drawn : setting.challenge = .ok challenge) {port : UInt16}
    (gate : IsGate setting challenge port (stream.take 141)) :
    ∃ events final, runOn setting stream events = some final ∧
      final.left.stage = .bind port := by
  obtain ⟨response, message, front, valid, ⟨high, low, rfl, rfl⟩, allowed⟩ := gate
  have ran := run_gateEvents drawn valid allowed (stream.drop 141)
  rw [← front, List.take_append_drop] at ran
  exact ⟨_, _, ran, rfl⟩

/-- The whole of a session on a stream, for every split of it into reads. -/
theorem session_gate (drawn : setting.challenge = .ok challenge) (stream : Bytes) :
    (∀ events final, runOn setting stream events = some final →
      (∀ event ∈ events, event.fault = false) →
        (final.left.gating = false →
          (final.left.binds ≠ [] ↔
            ∃ port, IsGate setting challenge port (stream.take 141))) ∧
        (final.left.gating = true →
          ∃ event next, event.fault = false ∧
            runOn setting stream (events ++ [event]) = some next)) ∧
    (∀ events final, runOn setting stream events = some final →
      final.left.binds ≠ [] →
        ∃ port, IsGate setting challenge port (stream.take 141) ∧
          final.left.binds = [tcpAddr setting port] ∧
          greeting challenge <+: final.toRight.sent) ∧
    (∀ events final port, runOn setting stream events = some final →
      final.left.stage = .bind port →
        IsGate setting challenge port (stream.take 141) ∧
        final.left.binds = [tcpAddr setting port] ∧
        final.toRight.sent = utf8 (request challenge) ++ utf8 "HAPPY\n" ∧
        ∀ picked next, runOn setting stream (events ++ [.bound picked]) = some next →
          next.left.stage = .controlLoop .start ∧
            next.toLeft.delivered = stream.take 141 ∧
            next.toLeft.pending = stream.drop 141) ∧
    (∀ before event after middle final, runOn setting stream before = some middle →
      middle.left.gating = true → (event.fault = true ∨ event = .control .eof) →
      runOn setting stream (before ++ event :: after) = some final →
        final.left.binds = [] ∧ (∃ reason ∈ gatingReasons, final.left.closes = [reason]) ∧
          ∃ error, final.left.stage = .returned (.error error)) := by
  refine ⟨?_, ?_, ?_, ?_⟩
  · intro events final ran faultless
    refine ⟨fun past => ⟨?_, ?_⟩, exists_step drawn ran⟩
    · intro binds
      obtain ⟨port, ⟨_, gate, _⟩, _⟩ := gate_of_bound drawn ran (binds ·.1)
      exact ⟨port, gate⟩
    · rintro ⟨port, gate⟩ unbound
      exact not_gate_of_unbound drawn ran faultless past unbound port gate
  · intro events final ran binds
    obtain ⟨port, ⟨address, gate, _⟩, written⟩ := gate_of_bound drawn ran (binds ·.1)
    exact ⟨port, gate, address, written⟩
  · intro events final port ran stage
    obtain ⟨⟨address, gate, _⟩, written, later⟩ := gate_at_bind drawn ran stage
    exact ⟨gate, address, written, later⟩
  · intro before event after middle final ranBefore early fault ran
    obtain ⟨holds, _⟩ := transcript_any drawn ranBefore
    have unbound := holds.unbound early
    have unclosed := Orderly.unclosed (orderly_runOn ranBefore) early
    rw [runOn, List.map_append, List.map_cons, run_append_eq_some] at ran
    obtain ⟨same, again, rest⟩ := ran
    cases ranBefore.symm.trans again
    obtain ⟨next, taken, rest⟩ := run_cons_eq_some.mp rest
    obtain ⟨resumed, _⟩ := Duplex.step_inl_eq_some taken
    obtain ⟨reason, listed, error, failed⟩ := step_fault early fault resumed
    rw [run_failed failed unbound.2 rest]
    exact ⟨unbound.1, ⟨reason, listed, by simp [fail, close, unclosed]⟩, error, rfl⟩

def sampleSetting (ports : List PortSpec) : Setting where
  sha512 := Crypto.Sha512.digest
  config :=
    { connectionAuthPsk := "key"
      localBindIp := "127.0.0.1"
      localBindPorts := ports }
  remoteAddress := "127.0.0.1:50000"
  now := 0
  randomBytes := .ok (Vector.replicate 32 0)

def sampleChallenge : String := Protocol.challenge (Vector.replicate 32 0) 0

theorem sample_drawn (ports : List PortSpec) :
    (sampleSetting ports).challenge = .ok sampleChallenge := by
  simp [Setting.challenge, sampleSetting, generateRandomBytes, sampleChallenge,
    elapsedMinutes]

def sampleResponse : Bytes :=
  utf8 (expectedResponse Crypto.Sha512.digest sampleChallenge "key") ++ [10]

theorem sample_isResponse (ports : List PortSpec) :
    IsResponse (sampleSetting ports).sha512 sampleChallenge
      (sampleSetting ports).config.connectionAuthPsk sampleResponse :=
  ⟨10, by decide, rfl⟩

/-- A client that asks for port 80 of the ports 80 to 90. -/
theorem session_gate_port80 :
    ∃ events final, runOn (sampleSetting [.range 80 90])
        (sampleResponse ++ (utf8 "LISTENPORT" ++ [0, 80]) ++ []) events = some final ∧
      final.left.binds ≠ [] ∧
      ∃ port, IsGate (sampleSetting [.range 80 90]) sampleChallenge port
        ((sampleResponse ++ (utf8 "LISTENPORT" ++ [0, 80]) ++ []).take 141) := by
  have allowed : allows (sampleSetting [.range 80 90]).config.localBindPorts
      (fromBeBytes 0 80) = true := by decide
  have ran := run_gateEvents (sample_drawn [.range 80 90]) (sample_isResponse _) allowed []
  obtain ⟨whole, _⟩ := session_gate (sample_drawn [.range 80 90])
    (sampleResponse ++ (utf8 "LISTENPORT" ++ [0, 80]) ++ [])
  obtain ⟨settled, _⟩ := whole _ _ ran (by simp [gateEvents, Event.fault, Stream.Event.fault])
  exact ⟨_, _, ran, List.cons_ne_nil _ _, (settled rfl).mp (List.cons_ne_nil _ _)⟩

end Session

end PortRedirect.Server
