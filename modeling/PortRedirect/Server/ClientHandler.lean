import PortRedirect.Protocol.Auth
import PortRedirect.Protocol.Control
import PortRedirect.Protocol.Keepalive
import PortRedirect.Server.Ports
import PortRedirect.Server.TcpListener

namespace PortRedirect.Server

open PortRedirect.Text
open PortRedirect.Stream
open PortRedirect.Protocol

structure ServerAppData where
  connectionAuthPsk : String
  localBindIp : String
  localBindPorts : List PortSpec

/-- What one session is given: the configuration, and what it will draw from its
surroundings. -/
structure Setting where
  sha512 : Bytes → Digest
  config : ServerAppData
  remoteAddress : String
  now : SystemTime
  randomBytes : Except String (Vector UInt8 32)

/-- Step 1 of `server_authenticate`. -/
def Setting.challenge (setting : Setting) : Except Error String :=
  match generateRandomBytes setting.randomBytes with
  | .error error => .error error
  | .ok bytes => .ok (Protocol.challenge bytes (elapsedMinutes setting.now))

/-- What a successful bind listens on: the port asked for, or for port 0 a free
port that the system picks. -/
def BindsTo (requested port : UInt16) : Prop :=
  (requested = 0 ∧ port ≠ 0) ∨ (requested ≠ 0 ∧ port = requested)

instance (requested port : UInt16) : Decidable (BindsTo requested port) :=
  inferInstanceAs (Decidable (_ ∨ _))

/-! `handle_quic_client_connection`, by its await points, with the listener task it
spawns. -/

namespace Session

inductive Stage where
  | openControl
  | authenticate (challenge : String) (auth : ServerAuthenticate)
  | configure (config : ConfigureQuicClient)
  | bind (port : UInt16)
  | controlLoop (loop : ControlChannelLoop)
  | joinListener
  | returned (result : Except Error Unit)

inductive Event where
  /-- Something that resumes the task through its control stream. -/
  | control (event : Stream.Event)
  | opened
  | openFailed (reason : String)
  | bound (port : UInt16)
  | bindFailed
  | listener (event : TcpListener.Event)
  | joined
deriving DecidableEq, Repr

end Session

structure Session where
  stage : Session.Stage := .openControl
  closes : List String := []
  cancelled : Bool := false
  binds : List String := []
  listener : Option TcpListener := none

namespace Session

def closed (session : Session) : Bool := !session.closes.isEmpty

def gating (session : Session) : Bool :=
  match session.stage with
  | .openControl | .authenticate _ _ | .configure _ => true
  | _ => false

def close (session : Session) (reason : String) : Session :=
  { session with closes := session.closes ++ [reason] }

def fail (session : Session) (reason : String) (error : Error) : Session :=
  { session.close reason with stage := .returned (.error error) }

variable (setting : Setting)

def authenticationTimedOut (session : Session) : Session :=
  session.fail "ERR authentication timed out"
    (.context ("authentication timeout for PR QUIC client from " ++ setting.remoteAddress)
      (.message "authentication timed out"))

def authenticationFailed (session : Session) (error : Error) : Session :=
  session.fail "ERR failed authentication"
    (.context ("failed to authenticate PR QUIC client from " ++ setting.remoteAddress)
      error)

/-- Where the task goes on when its authentication awaits or returns. -/
def afterAuthenticate (session : Session) (challenge : String) :
    ServerAuthenticate → Session
  | .returned (.ok ()) => { session with stage := .configure .start }
  | .returned (.error error) => session.authenticationFailed setting error
  | auth => { session with stage := .authenticate challenge auth }

def authenticate (session : Session) : Session :=
  match setting.challenge with
  | .error error => session.authenticationFailed setting error
  | .ok challenge =>
      session.afterAuthenticate setting challenge (.start challenge)

def configurationTimedOut (session : Session) : Session :=
  session.fail "ERR configuration timed out"
    (.context ("configuration timeout from " ++ setting.remoteAddress)
      (.message "configuration timed out"))

def tcpAddr (port : UInt16) : String :=
  setting.config.localBindIp ++ ":" ++ decimal port.toNat

/-- The requested port is checked and then bound. -/
def configured (session : Session) (port : UInt16) : Session :=
  if allows setting.config.localBindPorts port then
    { session with
      stage := .bind port
      binds := session.binds ++ [tcpAddr setting port] }
  else
    session.fail "ERR port not allowed"
      (.message ("requested port " ++ decimal port.toNat ++ " is not allowed"))

def afterConfigure (session : Session) : ConfigureQuicClient → Session
  | .returned (.ok config) => session.configured setting config.port
  | .returned (.error error) =>
      session.fail "ERR failed configuration"
        (.context ("failed to receive configuration from " ++ setting.remoteAddress)
          error)
  | config => { session with stage := .configure config }

def bindFailed (session : Session) (port : UInt16) : Session :=
  session.fail "ERR failed binding tcp listener"
    (.context ("Failed to bind TCP listener to " ++ tcpAddr setting port) (.io .bind))

def bound (session : Session) (port : UInt16) : Session :=
  { session with
    stage := .controlLoop .start
    listener := some { port := port } }

/-- The loop's result is always `Ok`. -/
def afterLoop (session : Session) (loop : ControlChannelLoop) : Session :=
  match loop with
  | .returned _ =>
      { session.close "OK normal shutdown" with
        stage := .joinListener
        cancelled := session.cancelled || loop.cancelsToken }
  | _ => { session with stage := .controlLoop loop }

def control (session : Session) (event : Stream.Event) : Option Session :=
  match session.stage with
  | .openControl =>
      if event = .elapsed then some (session.authenticationTimedOut setting) else none
  | .authenticate challenge auth =>
      if event = .elapsed then some (session.authenticationTimedOut setting)
      else
        (auth.step setting.sha512 challenge setting.config.connectionAuthPsk event).map
          (session.afterAuthenticate setting challenge)
  | .configure config =>
      if event = .elapsed then some (session.configurationTimedOut setting)
      else (config.step event).map (session.afterConfigure setting)
  | .controlLoop loop =>
      if event = .cancelled ∧ session.cancelled = false then none
      else (loop.step event).map session.afterLoop
  | _ => none

def step (session : Session) : Event → Option Session
  | .control event => session.control setting event
  | .opened =>
      match session.stage with
      | .openControl => some (session.authenticate setting)
      | _ => none
  | .openFailed reason =>
      match session.stage with
      | .openControl => some (session.authenticationFailed setting
          (.message ("failed to open AUTH stream: " ++ reason)))
      | _ => none
  | .bound port =>
      match session.stage with
      | .bind requested =>
          if BindsTo requested port then some (session.bound port) else none
      | _ => none
  | .bindFailed =>
      match session.stage with
      | .bind requested => some (session.bindFailed setting requested)
      | _ => none
  | .listener event =>
      match session.listener with
      | none => none
      | some listener =>
          (listener.step session.cancelled session.closed event).map fun listener =>
            { session with listener := some listener }
  | .joined =>
      match session.stage, session.listener with
      | .joinListener, some listener =>
          match listener.phase with
          | .finished result => some { session with stage := .returned result }
          | _ => none
      | _, _ => none

variable {setting} in
/-- All that a step of a session can be. -/
theorem step_cases {session next : Session} {event : Event}
    (taken : session.step setting event = some next) :
    (session.stage = .openControl ∧
      ((event = .control .elapsed ∧ next = session.authenticationTimedOut setting) ∨
        (event = .opened ∧ next = session.authenticate setting) ∨
        ∃ reason, event = .openFailed reason ∧ next = session.authenticationFailed setting
          (.message ("failed to open AUTH stream: " ++ reason)))) ∨
    (∃ challenge auth cause, session.stage = .authenticate challenge auth ∧
      event = .control cause ∧
      ((cause = .elapsed ∧ next = session.authenticationTimedOut setting) ∨
        ∃ after, auth.step setting.sha512 challenge setting.config.connectionAuthPsk cause =
            some after ∧
          next = session.afterAuthenticate setting challenge after)) ∨
    (∃ config cause, session.stage = .configure config ∧ event = .control cause ∧
      ((cause = .elapsed ∧ next = session.configurationTimedOut setting) ∨
        ∃ after, config.step cause = some after ∧
          next = session.afterConfigure setting after)) ∨
    (∃ requested, session.stage = .bind requested ∧
      ((∃ port, event = .bound port ∧ BindsTo requested port ∧ next = session.bound port) ∨
        (event = .bindFailed ∧ next = session.bindFailed setting requested))) ∨
    (∃ loop cause after, session.stage = .controlLoop loop ∧ event = .control cause ∧
      ¬ (cause = .cancelled ∧ session.cancelled = false) ∧ loop.step cause = some after ∧
      next = session.afterLoop after) ∨
    (∃ listener cause moved, event = .listener cause ∧ session.listener = some listener ∧
      listener.step session.cancelled session.closed cause = some moved ∧
      next = { session with listener := some moved }) ∨
    ∃ listener result, session.stage = .joinListener ∧ event = .joined ∧
      session.listener = some listener ∧ listener.phase = .finished result ∧
      next = { session with stage := .returned result } := by
  cases event with
  | control cause =>
      simp only [step, control] at taken
      split at taken
      · rename_i stage
        split at taken
        · rename_i elapsed
          cases taken
          exact .inl ⟨stage, .inl ⟨by rw [elapsed], rfl⟩⟩
        · cases taken
      · rename_i challenge auth stage
        refine .inr (.inl ⟨challenge, auth, cause, stage, rfl, ?_⟩)
        split at taken
        · rename_i elapsed
          cases taken
          exact .inl ⟨elapsed, rfl⟩
        · obtain ⟨after, resumed, rfl⟩ := Option.map_eq_some_iff.mp taken
          exact .inr ⟨after, resumed, rfl⟩
      · rename_i config stage
        refine .inr (.inr (.inl ⟨config, cause, stage, rfl, ?_⟩))
        split at taken
        · rename_i elapsed
          cases taken
          exact .inl ⟨elapsed, rfl⟩
        · obtain ⟨after, resumed, rfl⟩ := Option.map_eq_some_iff.mp taken
          exact .inr ⟨after, resumed, rfl⟩
      · rename_i loop stage
        split at taken
        · cases taken
        · rename_i allowed
          obtain ⟨after, resumed, rfl⟩ := Option.map_eq_some_iff.mp taken
          exact .inr (.inr (.inr (.inr (.inl
            ⟨loop, cause, after, stage, rfl, allowed, resumed, rfl⟩))))
      · cases taken
  | opened =>
      simp only [step] at taken
      split at taken
      · cases taken
        exact .inl ⟨‹_›, .inr (.inl ⟨rfl, rfl⟩)⟩
      · cases taken
  | openFailed reason =>
      simp only [step] at taken
      split at taken
      · cases taken
        exact .inl ⟨‹_›, .inr (.inr ⟨reason, rfl, rfl⟩)⟩
      · cases taken
  | bound port =>
      simp only [step] at taken
      split at taken
      · rename_i requested stage
        split at taken
        · rename_i picked
          cases taken
          exact .inr (.inr (.inr (.inl
            ⟨requested, stage, .inl ⟨port, rfl, picked, rfl⟩⟩)))
        · cases taken
      · cases taken
  | bindFailed =>
      simp only [step] at taken
      split at taken
      · rename_i requested stage
        cases taken
        exact .inr (.inr (.inr (.inl ⟨requested, stage, .inr ⟨rfl, rfl⟩⟩)))
      · cases taken
  | listener cause =>
      simp only [step] at taken
      split at taken
      · cases taken
      · rename_i listener spawned
        obtain ⟨moved, resumed, rfl⟩ := Option.map_eq_some_iff.mp taken
        exact .inr (.inr (.inr (.inr (.inr (.inl
          ⟨listener, cause, moved, rfl, spawned, resumed, rfl⟩)))))
  | joined =>
      simp only [step] at taken
      split at taken
      · rename_i listener stage spawned
        split at taken
        · rename_i result phase
          cases taken
          exact .inr (.inr (.inr (.inr (.inr (.inr
            ⟨listener, result, stage, rfl, spawned, phase, rfl⟩)))))
        · cases taken
      · cases taken

/-- The port that a socket of the session listens on. -/
def listening (session : Session) : Option UInt16 :=
  match session.listener with
  | none => none
  | some listener => if listener.finished then none else some listener.port

def party : Party Session Event where
  step := step setting
  io
    | .control event => some event
    | _ => none
  gone := closed

end Session

end PortRedirect.Server
