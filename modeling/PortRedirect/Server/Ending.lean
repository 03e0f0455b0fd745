import PortRedirect.Server.Orderly
import PortRedirect.Server.SessionHistory
import PortRedirect.Server.Teardown

namespace PortRedirect.Server

open PortRedirect.Text
open PortRedirect.Stream
open PortRedirect.Protocol
open PortRedirect.Transition

/-! How a session ends: what its client is told, what `run_quic_server` gets to know, and
what had happened until then. -/

inductive Ending where
  | unauthenticated (error : Error)
  | authenticationTimedOut
  | unconfigured (error : Error)
  | configurationTimedOut
  | forbidden (port : UInt16)
  | unbindable (port : UInt16)
  /-- The listener was bound, and its task has returned this. -/
  | served (listened : Except Error Unit)

namespace Ending

/-- The reason that the QUIC connection is closed with. -/
def reason : Ending → String
  | .unauthenticated _ => "ERR failed authentication"
  | .authenticationTimedOut => "ERR authentication timed out"
  | .unconfigured _ => "ERR failed configuration"
  | .configurationTimedOut => "ERR configuration timed out"
  | .forbidden _ => "ERR port not allowed"
  | .unbindable _ => "ERR failed binding tcp listener"
  | .served _ => "OK normal shutdown"

/-- What `handle_quic_client_connection` returns. -/
def result (setting : Setting) : Ending → Except Error Unit
  | .unauthenticated error =>
      .error (.context
        ("failed to authenticate PR QUIC client from " ++ setting.remoteAddress) error)
  | .authenticationTimedOut =>
      .error (.context
        ("authentication timeout for PR QUIC client from " ++ setting.remoteAddress)
        (.message "authentication timed out"))
  | .unconfigured error =>
      .error (.context
        ("failed to receive configuration from " ++ setting.remoteAddress) error)
  | .configurationTimedOut =>
      .error (.context ("configuration timeout from " ++ setting.remoteAddress)
        (.message "configuration timed out"))
  | .forbidden port =>
      .error (.message ("requested port " ++ decimal port.toNat ++ " is not allowed"))
  | .unbindable port =>
      .error (.context
        ("Failed to bind TCP listener to " ++ Session.tcpAddr setting port) (.io .bind))
  | .served listened => listened

/-- The client has been found to know the key. -/
def authenticated : Ending → Bool
  | .unauthenticated _ | .authenticationTimedOut => false
  | _ => true

end Ending

namespace Session

variable {setting : Setting} {session next : Session} {heard more : Bytes}

/-- The client has answered the challenge of this session. -/
def Answered (setting : Setting) (heard : Bytes) : Prop :=
  ∃ challenge response, setting.challenge = .ok challenge ∧
    IsResponse setting.sha512 challenge setting.config.connectionAuthPsk response ∧
    response <+: heard

/-- The client has answered it and then asked for a port. -/
def Asked (setting : Setting) (heard : Bytes) (port : UInt16) : Prop :=
  ∃ challenge response message, setting.challenge = .ok challenge ∧
    IsResponse setting.sha512 challenge setting.config.connectionAuthPsk response ∧
    ConfigureQuicClient.IsListenPort port message ∧ response ++ message <+: heard

/-- What an ending says about the session and about what its client has written. -/
def EndsBy (setting : Setting) (heard : Bytes) (session : Session) (ending : Ending) : Prop :=
  session.closes = [ending.reason] ∧
    (ending.authenticated = true → Answered setting heard) ∧
    match ending with
    | .forbidden port =>
        session.Unbound ∧ Asked setting heard port ∧
          allows setting.config.localBindPorts port = false
    | .unbindable port =>
        session.binds = [tcpAddr setting port] ∧ session.listener = none ∧
          Asked setting heard port ∧ allows setting.config.localBindPorts port = true
    | .served listened =>
        ∃ port listener, session.binds = [tcpAddr setting port] ∧
          Asked setting heard port ∧ allows setting.config.localBindPorts port = true ∧
          session.listener = some listener ∧ listener.phase = .finished listened
    | _ => session.Unbound

/-- A socket was asked for, and what listens, if anything does, listens because of it. -/
def Opened (setting : Setting) (heard : Bytes) (session : Session) : Prop :=
  ∃ port, session.binds = [tcpAddr setting port] ∧ Asked setting heard port ∧
    allows setting.config.localBindPorts port = true

/-- How far a session has come, by its stage. -/
def Progressed (setting : Setting) (heard : Bytes) (session : Session) : Prop :=
  match session.stage with
  | .openControl => session.Unbound ∧ heard = []
  | .authenticate _ _ => session.Unbound ∧ ∃ challenge, setting.challenge = .ok challenge
  | .configure _ => session.Unbound ∧ Answered setting heard
  | .bind port =>
      session.binds = [tcpAddr setting port] ∧ session.listener = none ∧
        Asked setting heard port ∧ allows setting.config.localBindPorts port = true
  | .controlLoop _ => session.Opened setting heard
  | .joinListener =>
      session.closes = ["OK normal shutdown"] ∧ session.Opened setting heard
  | .returned result =>
      ∃ ending, result = Ending.result setting ending ∧ session.EndsBy setting heard ending

theorem Answered.mono (answered : Answered setting heard) : Answered setting (heard ++ more) := by
  obtain ⟨challenge, response, drawn, valid, front⟩ := answered
  exact ⟨challenge, response, drawn, valid, front.trans (List.prefix_append _ _)⟩

theorem Asked.answered {port : UInt16} (asked : Asked setting heard port) :
    Answered setting heard := by
  obtain ⟨challenge, response, message, drawn, valid, _, front⟩ := asked
  exact ⟨challenge, response, drawn, valid, (List.prefix_append _ _).trans front⟩

theorem Asked.mono {port : UInt16} (asked : Asked setting heard port) :
    Asked setting (heard ++ more) port := by
  obtain ⟨challenge, response, message, drawn, valid, listens, front⟩ := asked
  exact ⟨challenge, response, message, drawn, valid, listens,
    front.trans (List.prefix_append _ _)⟩

theorem Opened.mono (opened : session.Opened setting heard) :
    session.Opened setting (heard ++ more) := by
  obtain ⟨port, binds, asked, allowed⟩ := opened
  exact ⟨port, binds, asked.mono, allowed⟩

/-- A failure is its own ending. -/
theorem progressed_fail {ending : Ending} {error : Error} {reason : String}
    (unclosed : session.closes = []) (unbound : session.Unbound)
    (named : reason = ending.reason) (returns : .error error = ending.result setting)
    (answered : ending.authenticated = true → Answered setting heard)
    (fits : match ending with
      | .forbidden port =>
          Asked setting heard port ∧ allows setting.config.localBindPorts port = false
      | .unbindable _ | .served _ => False
      | _ => True) :
    Progressed setting heard (session.fail reason error) := by
  refine ⟨ending, returns, ?_, answered, ?_⟩
  · simp [fail, close, unclosed, named]
  · cases ending with
    | forbidden port => exact ⟨unbound, fits⟩
    | unbindable port => exact fits.elim
    | served listened => exact fits.elim
    | _ => exact unbound

theorem progressed_afterAuthenticate {challenge : String} {auth : ServerAuthenticate}
    {sent : Bytes} (unclosed : session.closes = []) (unbound : session.Unbound)
    (drawn : setting.challenge = .ok challenge)
    (holds : auth.Transcript setting.sha512 challenge setting.config.connectionAuthPsk heard
      sent) :
    Progressed setting heard (session.afterAuthenticate setting challenge auth) := by
  unfold afterAuthenticate
  split
  · exact ⟨unbound, challenge, heard, drawn, holds.1, List.prefix_rfl⟩
  · rename_i error
    exact @progressed_fail _ _ _ (.unauthenticated error) _ _ unclosed unbound rfl rfl
      (fun authenticated => by cases authenticated) trivial
  · exact ⟨unbound, challenge, drawn⟩

theorem progressed_authenticate (unclosed : session.closes = [])
    (unbound : session.Unbound) : Progressed setting [] (session.authenticate setting) := by
  unfold authenticate
  split
  · rename_i error _
    exact @progressed_fail _ _ _ (.unauthenticated error) _ _ unclosed unbound rfl rfl
      (fun authenticated => by cases authenticated) trivial
  · rename_i challenge drawn
    obtain ⟨randomBytes, coarseUnixTime, rfl⟩ := exists_draw drawn
    exact progressed_afterAuthenticate unclosed unbound drawn
      (ServerAuthenticate.transcript_start randomBytes coarseUnixTime)

theorem progressed_afterConfigure {config : ConfigureQuicClient} {challenge : String}
    {response message : Bytes} (unclosed : session.closes = []) (unbound : session.Unbound)
    (drawn : setting.challenge = .ok challenge)
    (valid : IsResponse setting.sha512 challenge setting.config.connectionAuthPsk response)
    (holds : config.Transcript message) :
    Progressed setting (response ++ message) (session.afterConfigure setting config) := by
  have answered : Answered setting (response ++ message) :=
    ⟨challenge, response, drawn, valid, List.prefix_append _ _⟩
  unfold afterConfigure
  split
  · rename_i requested
    have asked : Asked setting (response ++ message) requested.port :=
      ⟨challenge, response, message, drawn, valid, holds, List.prefix_rfl⟩
    unfold configured
    split
    · rename_i allowed
      refine ⟨?_, unbound.2, asked, allowed⟩
      simp [unbound.1]
    · rename_i forbidden
      exact @progressed_fail _ _ _ (.forbidden requested.port) _ _ unclosed unbound rfl rfl
        (fun _ => answered) ⟨asked, by simpa using forbidden⟩
  · rename_i error
    exact @progressed_fail _ _ _ (.unconfigured error) _ _ unclosed unbound rfl rfl
      (fun _ => answered) trivial
  · exact ⟨unbound, answered⟩

/-- The listener task goes on without the session. -/
theorem progressed_listener {listener moved : TcpListener} {event : TcpListener.Event}
    (holds : Progressed setting heard session) (spawned : session.listener = some listener)
    (resumed : listener.step session.cancelled session.closed event = some moved) :
    Progressed setting heard { session with listener := some moved } := by
  have unspawned : session.listener ≠ none := by
    rw [spawned]
    exact Option.some_ne_none listener
  unfold Progressed at holds ⊢
  cases stage : session.stage with
  | openControl | authenticate challenge auth | configure config =>
      simp only [stage] at holds
      exact absurd holds.1.2 unspawned
  | bind port =>
      simp only [stage] at holds
      exact absurd holds.2.1 unspawned
  | controlLoop loop | joinListener =>
      simp only [stage] at holds
      exact holds
  | returned result =>
      simp only [stage] at holds
      obtain ⟨ending, _, _, _, fits⟩ := holds
      cases ending with
      | forbidden port => exact absurd fits.1.2 unspawned
      | unbindable port => exact absurd fits.2.1 unspawned
      | served listened =>
          obtain ⟨port, finished, _, _, _, same, phase⟩ := fits
          rw [spawned] at same
          cases same
          simp [TcpListener.step, phase] at resumed
      | _ => exact absurd fits.2 unspawned

theorem progressed_step {event : Event} {sent : Bytes}
    (written : ∀ challenge, setting.challenge = .ok challenge →
      Transcript setting challenge True session heard sent)
    (orderly : session.Orderly) (holds : Progressed setting heard session)
    (taken : step setting session event = some next) :
    Progressed setting (heard ++ event.input) next := by
  have state := holds
  unfold Progressed at state
  unfold Orderly at orderly
  rcases step_cases taken with
    ⟨stage, opening⟩ | ⟨challenge, auth, cause, stage, rfl, authenticating⟩ |
      ⟨config, cause, stage, rfl, configuring⟩ | ⟨requested, stage, binding⟩ |
      ⟨loop, cause, after, stage, rfl, allowed, resumed, rfl⟩ |
      ⟨listener, cause, moved, rfl, spawned, resumed, rfl⟩ |
      ⟨listener, result, stage, rfl, spawned, phase, rfl⟩
  · simp only [stage] at state orderly
    obtain ⟨unbound, rfl⟩ := state
    rcases opening with ⟨rfl, rfl⟩ | ⟨rfl, rfl⟩ | ⟨reason, rfl, rfl⟩
    · exact @progressed_fail _ _ _ .authenticationTimedOut _ _ orderly.1 unbound rfl rfl
        (fun authenticated => by cases authenticated) trivial
    · exact progressed_authenticate orderly.1 unbound
    · exact @progressed_fail _ _ _ (.unauthenticated _) _ _ orderly.1 unbound rfl rfl
        (fun authenticated => by cases authenticated) trivial
  · simp only [stage] at state orderly
    obtain ⟨unbound, known, drawn⟩ := state
    rcases authenticating with ⟨rfl, rfl⟩ | ⟨after, resumed, rfl⟩
    · exact @progressed_fail _ _ _ .authenticationTimedOut _ _ orderly.1 unbound rfl rfl
        (fun authenticated => by cases authenticated) trivial
    · have transcript := written known drawn
      simp only [Session.Transcript, stage] at transcript
      obtain ⟨_, _, rfl, before⟩ := transcript
      exact progressed_afterAuthenticate orderly.1 unbound drawn
        (ServerAuthenticate.transcript_step before resumed)
  · simp only [stage] at state orderly
    obtain ⟨unbound, answered⟩ := state
    rcases configuring with ⟨rfl, rfl⟩ | ⟨after, resumed, rfl⟩
    · exact @progressed_fail _ _ _ .configurationTimedOut _ _ orderly.1 unbound rfl rfl
        (fun _ => answered.mono) trivial
    · obtain ⟨challenge, _, drawn, _⟩ := answered
      have transcript := written challenge drawn
      simp only [Session.Transcript, stage] at transcript
      obtain ⟨_, _, _, response, message, rfl, valid, before⟩ := transcript
      rw [List.append_assoc]
      exact progressed_afterConfigure orderly.1 unbound drawn valid
        (ConfigureQuicClient.transcript_step before resumed)
  · simp only [stage] at state orderly
    obtain ⟨binds, unspawned, asked, allowed⟩ := state
    rcases binding with ⟨port, rfl, _, rfl⟩ | ⟨rfl, rfl⟩
    · exact ⟨requested, binds, asked.mono, allowed⟩
    · refine ⟨.unbindable requested, rfl, ?_, fun _ => asked.answered.mono, binds, unspawned,
        asked.mono, allowed⟩
      simp [bindFailed, fail, close, orderly.1, Ending.reason]
  · simp only [stage] at state orderly
    unfold afterLoop
    split
    · refine ⟨?_, state.mono⟩
      simp [close, orderly.1]
    · exact state.mono
  · rw [show Event.input (.listener cause) = [] from rfl, List.append_nil]
    exact progressed_listener holds spawned resumed
  · simp only [stage] at state
    obtain ⟨closes, port, binds, asked, allowed⟩ := state
    exact ⟨.served result, rfl, closes, fun _ => asked.answered.mono, port, listener, binds,
      asked.mono, allowed, spawned, phase⟩

theorem progressed_run {events : List Event}
    (ran : run (step setting) {} events = some session) :
    Progressed setting (events.flatMap Event.input) session := by
  refine (run_history_invariant (fun history session =>
    session.Orderly ∧
      (∀ challenge, setting.challenge = .ok challenge →
        Transcript setting challenge True session (history.flatMap Event.input)
          (history.flatMap Event.output)) ∧
      Progressed setting (history.flatMap Event.input) session) ?_ ?_ ran).2.2
  · rintro history state event next ⟨orderly, written, holds⟩ taken
    refine ⟨orderly_step orderly taken, ?_, ?_⟩
    · intro challenge drawn
      have moved := transcript_step drawn (written challenge drawn) taken fun _ => trivial
      rw [party_input, party_output] at moved
      simpa using moved
    · have moved := progressed_step written orderly holds taken
      simpa using moved
  · exact ⟨orderly_start, fun _ _ => transcript_start, ⟨rfl, rfl⟩, rfl⟩

/-- Whichever way a session ends: its client is told one reason, which says what the
handler returns, what the client had done and what was opened for it; and it is told of a
normal shutdown exactly when a socket had been listening for it. -/
theorem session_ending {events : List Event} {result : Except Error Unit}
    (ran : run (step setting) {} events = some session)
    (ended : session.stage = .returned result) :
    (∃ ending, result = Ending.result setting ending ∧
        session.EndsBy setting (events.flatMap Event.input) ending) ∧
      (session.closes = ["OK normal shutdown"] ↔ session.listener ≠ none) ∧
      (result = .ok () ↔ ∃ listener, session.listener = some listener ∧
        listener.phase = .finished (.ok ())) := by
  have progressed := progressed_run ran
  simp only [Progressed, ended] at progressed
  obtain ⟨ending, rfl, closes, answered, fits⟩ := progressed
  refine ⟨⟨ending, rfl, closes, answered, fits⟩, ?_⟩
  rw [closes]
  cases ending with
  | served listened =>
      obtain ⟨port, listener, _, _, _, spawned, phase⟩ := fits
      refine ⟨by simp [Ending.reason, spawned], ?_⟩
      rw [spawned]
      constructor
      · rintro rfl
        exact ⟨listener, rfl, phase⟩
      · rintro ⟨_, ⟨⟩, same⟩
        rw [phase] at same
        exact TcpListener.Phase.finished.inj same
  | forbidden port => simp [Ending.reason, Ending.result, fits.1.2]
  | unbindable port => simp [Ending.reason, Ending.result, fits.2.1]
  | _ => simp [Ending.reason, Ending.result, fits.2]

theorem session_ending_byeEvents :
    ∃ session, run (step (sampleSetting [.single 80])) {} byeEvents = some session ∧
      session.stage = .returned (.ok ()) ∧ session.closes = ["OK normal shutdown"] := by
  have allowed : allows (sampleSetting [.single 80]).config.localBindPorts
      (fromBeBytes 0 80) = true := by decide
  have gate := run_of_runOn
    (run_gateEvents (sample_drawn [.single 80]) (sample_isResponse _) allowed [])
  have runs : (run (step (sampleSetting [.single 80])) {} byeEvents).map returnedOk =
      some true := by
    rw [byeEvents, run_append gate]
    decide +kernel
  obtain ⟨session, ran, ended⟩ := Option.map_eq_some_iff.mp runs
  have stage : session.stage = .returned (.ok ()) := by
    unfold returnedOk at ended
    split at ended
    · assumption
    · cases ended
  obtain ⟨_, shutdown, served⟩ := session_ending ran stage
  obtain ⟨listener, spawned, _⟩ := served.mp rfl
  exact ⟨session, ran, stage, shutdown.mpr (by rw [spawned]; exact Option.some_ne_none _)⟩

end Session

end PortRedirect.Server
