import PortRedirect.Protocol.KeepaliveTranscript
import PortRedirect.Protocol.Transcript
import PortRedirect.Server.ClientHandler

namespace PortRedirect.Server

open PortRedirect.Text
open PortRedirect.Stream
open PortRedirect.Protocol

/-! What a session has read and written in each of its stages.  The three readers of
the control stream follow each other without a gap. -/

namespace Session

/-- An event that ends a stage whatever the client has written. -/
def Event.fault : Event → Bool
  | .openFailed _ => true
  | .control event => event.fault
  | _ => false

section

variable (setting : Setting) (challenge : String)

/-- A response and then a control message that asks for an allowed port. -/
def IsGate (port : UInt16) (front : Bytes) : Prop :=
  ∃ response message, front = response ++ message ∧
    IsResponse setting.sha512 challenge setting.config.connectionAuthPsk response ∧
    ConfigureQuicClient.IsListenPort port message ∧
    allows setting.config.localBindPorts port = true

/-- All that the server writes before the control loop. -/
def greeting : Bytes := utf8 (request challenge) ++ verdict true

/-- Why a session may end without a bind: a fault, the end of the stream, or bytes
that no continuation makes a gate. -/
def Refusal (event : Event) (received : Bytes) : Prop :=
  event.fault = true ∨ (event = .control .eof ∧ received.length < 141) ∨
    ∀ rest port, ¬ IsGate setting challenge port ((received ++ rest).take 141)

def Unbound (session : Session) : Prop :=
  session.binds = [] ∧ session.listener = none

def Bound (session : Session) (port : UInt16) (front : Bytes) : Prop :=
  session.binds = [tcpAddr setting port] ∧ IsGate setting challenge port front ∧
    ∀ listener, session.listener = some listener → BindsTo port listener.port

def Transcript (refused : Prop) (session : Session) (received sent : Bytes) : Prop :=
  match session.stage with
  | .openControl => session.Unbound ∧ received = [] ∧ sent = []
  | .authenticate drawn auth =>
      session.Unbound ∧ (∀ result, auth ≠ .returned result) ∧ drawn = challenge ∧
        auth.Transcript setting.sha512 challenge setting.config.connectionAuthPsk
          received sent
  | .configure config =>
      session.Unbound ∧ (∀ result, config ≠ .returned result) ∧
        sent = greeting challenge ∧ ∃ response message,
          received = response ++ message ∧
          IsResponse setting.sha512 challenge setting.config.connectionAuthPsk response ∧
          config.Transcript message
  | .bind port =>
      session.Bound setting challenge port received ∧ session.listener = none ∧
        sent = greeting challenge
  | .controlLoop loop =>
      ∃ port front rest pongs, session.Bound setting challenge port front ∧
        received = front ++ rest ∧ sent = greeting challenge ++ pongs ∧
        loop.Transcript rest pongs
  | .joinListener =>
      ∃ port front rest pongs, session.Bound setting challenge port front ∧
        received = front ++ rest ∧ sent = greeting challenge ++ pongs
  | .returned _ =>
      (session.Unbound ∧ refused) ∨
        ∃ port front rest pongs, session.Bound setting challenge port front ∧
          received = front ++ rest ∧ sent = greeting challenge ++ pongs

end

variable {setting : Setting} {challenge : String} {session next : Session}
  {received sent : Bytes} {refused : Prop}

theorem IsGate.length_eq {port : UInt16} {front : Bytes}
    (gate : IsGate setting challenge port front) : front.length = 141 := by
  obtain ⟨response, message, rfl, valid, listens, _⟩ := gate
  rw [List.length_append, valid.length_eq, listens.length_eq]

theorem IsGate.split {port : UInt16} {response message : Bytes}
    (size : response.length = 129)
    (gate : IsGate setting challenge port (response ++ message)) :
    IsResponse setting.sha512 challenge setting.config.connectionAuthPsk response ∧
      ConfigureQuicClient.IsListenPort port message ∧
      allows setting.config.localBindPorts port = true := by
  obtain ⟨first, second, joined, valid, listens, allowed⟩ := gate
  obtain ⟨rfl, rfl⟩ := List.append_inj joined (size.trans valid.length_eq.symm)
  exact ⟨valid, listens, allowed⟩

private theorem take_gate {response rest : Bytes} (size : response.length = 129) :
    (response ++ rest).take 141 = response ++ rest.take 12 := by
  rw [List.take_append, List.take_of_length_le (by omega), size]

private theorem refusal_of_response {event : Event} {response : Bytes}
    (size : response.length = 129)
    (wrong : ¬ IsResponse setting.sha512 challenge setting.config.connectionAuthPsk
      response) :
    Refusal setting challenge event response := by
  refine .inr (.inr ?_)
  intro rest port gate
  rw [take_gate size] at gate
  exact wrong (gate.split size).1

private theorem refusal_of_header {event : Event} {response message : Bytes}
    (size : response.length = 129) (headerSize : message.length = 10)
    (wrong : message ≠ utf8 "LISTENPORT") :
    Refusal setting challenge event (response ++ message) := by
  refine .inr (.inr ?_)
  intro rest port gate
  rw [List.append_assoc, take_gate size] at gate
  obtain ⟨_, ⟨high, low, listens, _⟩, _⟩ := gate.split size
  rw [List.take_append, List.take_of_length_le (by omega)] at listens
  exact wrong (List.append_inj listens headerSize).1

private theorem refusal_of_port {event : Event} {response message : Bytes}
    {port : UInt16} (size : response.length = 129)
    (listens : ConfigureQuicClient.IsListenPort port message)
    (forbidden : allows setting.config.localBindPorts port = false) :
    Refusal setting challenge event (response ++ message) := by
  refine .inr (.inr ?_)
  intro rest other gate
  have full := listens.length_eq
  rw [List.append_assoc, take_gate size, List.take_append,
    List.take_of_length_le full.le, full, Nat.sub_self, List.take_zero,
    List.append_nil] at gate
  obtain ⟨_, ⟨high, low, same, rfl⟩, allowed⟩ := gate.split size
  obtain ⟨high', low', rfl, rfl⟩ := listens
  cases List.append_cancel_left same
  rw [forbidden] at allowed
  cases allowed

theorem Transcript.unbound
    (holds : Transcript setting challenge refused session received sent)
    (early : session.gating = true) : session.Unbound := by
  unfold gating at early
  unfold Session.Transcript at holds
  split at early
  · rename_i stage
    simp only [stage] at holds
    exact holds.1
  · rename_i stage
    simp only [stage] at holds
    exact holds.1
  · rename_i stage
    simp only [stage] at holds
    exact holds.1
  · cases early

theorem Transcript.bound
    (holds : Transcript setting challenge refused session received sent)
    (bound : ¬ session.Unbound) :
    ∃ port front rest pongs, session.Bound setting challenge port front ∧
      received = front ++ rest ∧ sent = greeting challenge ++ pongs := by
  unfold Session.Transcript at holds
  split at holds
  · exact absurd holds.1 bound
  · exact absurd holds.1 bound
  · exact absurd holds.1 bound
  · rename_i port _
    exact ⟨port, received, [], [], holds.1, by simp, by simp [holds.2.2]⟩
  · obtain ⟨port, front, rest, pongs, bound, heard, written, _⟩ := holds
    exact ⟨port, front, rest, pongs, bound, heard, written⟩
  · exact holds
  · exact holds.resolve_left fun unbound => bound unbound.1

theorem transcript_start : Transcript setting challenge refused {} [] [] :=
  ⟨⟨rfl, rfl⟩, rfl, rfl⟩

private theorem transcript_fail (unbound : session.Unbound) (refuse : refused)
    (reason : String) (error : Error) :
    Transcript setting challenge refused (session.fail reason error) received sent :=
  .inl ⟨unbound, refuse⟩

private theorem transcript_afterAuthenticate {event : Event} {auth : ServerAuthenticate}
    (unbound : session.Unbound)
    (holds : auth.Transcript setting.sha512 challenge setting.config.connectionAuthPsk
      received sent)
    (failed : ∀ error, auth = .returned (.error (.io error)) →
      event.fault = true ∨ (event = .control .eof ∧ error = .unexpectedEof))
    (refuse : Refusal setting challenge event received → refused) :
    Transcript setting challenge refused
      (session.afterAuthenticate setting challenge auth) received sent := by
  unfold afterAuthenticate
  split
  · obtain ⟨response, written⟩ := holds
    exact ⟨unbound, fun _ => ConfigureQuicClient.noConfusion, written, received, [],
      by rw [List.append_nil], response, ConfigureQuicClient.transcript_start⟩
  · apply transcript_fail unbound
    apply refuse
    rcases holds with rfl | rfl | ⟨rfl, short⟩ | ⟨full, wrong⟩
    · rcases failed _ rfl with fault | ⟨_, impossible⟩
      · exact .inl fault
      · cases impossible
    · rcases failed _ rfl with fault | ⟨_, impossible⟩
      · exact .inl fault
      · cases impossible
    · rcases failed _ rfl with fault | ⟨ended, _⟩
      · exact .inl fault
      · exact .inr (.inl ⟨ended, by omega⟩)
    · exact refusal_of_response full wrong
  · rename_i notOk notError
    refine ⟨unbound, ?_, rfl, holds⟩
    rintro (error | ⟨⟩) rfl
    · exact notError error rfl
    · exact notOk rfl

theorem exists_draw (drawn : setting.challenge = .ok challenge) :
    ∃ randomBytes coarseUnixTime,
      challenge = Protocol.challenge randomBytes coarseUnixTime := by
  unfold Setting.challenge at drawn
  split at drawn
  · cases drawn
  · cases drawn
    exact ⟨_, _, rfl⟩

private theorem transcript_authenticate (drawn : setting.challenge = .ok challenge)
    (unbound : session.Unbound) :
    Transcript setting challenge refused (session.authenticate setting) [] [] := by
  obtain ⟨randomBytes, coarseUnixTime, rfl⟩ := exists_draw drawn
  have started : ServerAuthenticate.Transcript setting.sha512
      (Protocol.challenge randomBytes coarseUnixTime) setting.config.connectionAuthPsk
      (.start (Protocol.challenge randomBytes coarseUnixTime)) [] [] :=
    ServerAuthenticate.transcript_start randomBytes coarseUnixTime
  simp only [authenticate, drawn]
  rw [start_challenge] at started ⊢
  exact ⟨unbound, fun _ => ServerAuthenticate.noConfusion, rfl, started⟩

private theorem transcript_afterConfigure {event : Event} {config : ConfigureQuicClient}
    {response message : Bytes} (unbound : session.Unbound)
    (written : sent = greeting challenge)
    (valid : IsResponse setting.sha512 challenge setting.config.connectionAuthPsk response)
    (holds : config.Transcript message)
    (failed : ∀ error cause, config = .returned (.error error) →
      error.cause = .io cause →
        event.fault = true ∨ (event = .control .eof ∧ cause = .unexpectedEof))
    (refuse : Refusal setting challenge event (response ++ message) → refused) :
    Transcript setting challenge refused (session.afterConfigure setting config)
      (response ++ message) sent := by
  have size := valid.length_eq
  unfold afterConfigure
  split
  · rename_i requested
    unfold configured
    split
    · rename_i allowed
      refine ⟨⟨?_, ?_, ?_⟩, unbound.2, written⟩
      · simp [unbound.1]
      · exact ⟨response, message, rfl, valid, holds, allowed⟩
      · intro listener spawned
        rw [unbound.2] at spawned
        cases spawned
    · rename_i forbidden
      apply transcript_fail unbound
      apply refuse
      exact refusal_of_port size holds (by simpa using forbidden)
  · rename_i error
    apply transcript_fail unbound
    apply refuse
    rcases holds with caused | ⟨caused, short⟩ | ⟨headerSize, wrong⟩
    · rcases failed error _ rfl caused with fault | ⟨_, impossible⟩
      · exact .inl fault
      · cases impossible
    · rcases failed error _ rfl caused with fault | ⟨ended, _⟩
      · exact .inl fault
      · refine .inr (.inl ⟨ended, ?_⟩)
        rw [List.length_append]
        omega
    · exact refusal_of_header size headerSize wrong
  · rename_i notOk notError
    refine ⟨unbound, ?_, written, response, message, rfl, valid, holds⟩
    rintro (error | requested) rfl
    · exact notError error rfl
    · exact notOk requested rfl

private theorem transcript_listener {listener moved : TcpListener}
    {event : TcpListener.Event}
    (holds : Transcript setting challenge refused session received sent)
    (spawned : session.listener = some listener)
    (resumed : listener.step session.cancelled session.closed event = some moved) :
    Transcript setting challenge refused { session with listener := some moved } received
      sent := by
  have still : ∀ {port front}, session.Bound setting challenge port front →
      Bound setting challenge { session with listener := some moved } port front := by
    intro port front bound
    refine ⟨bound.1, bound.2.1, ?_⟩
    intro last same
    cases same
    rw [TcpListener.step_port resumed]
    exact bound.2.2 listener spawned
  have unspawned : ¬ session.Unbound := by
    intro unbound
    rw [unbound.2] at spawned
    cases spawned
  unfold Session.Transcript at holds ⊢
  cases stage : session.stage with
  | openControl | authenticate drawn auth | configure config =>
      simp only [stage] at holds
      exact absurd holds.1 unspawned
  | bind port =>
      simp only [stage] at holds
      rw [holds.2.1] at spawned
      cases spawned
  | controlLoop loop =>
      simp only [stage] at holds
      obtain ⟨port, front, rest, pongs, bound, joined⟩ := holds
      exact ⟨port, front, rest, pongs, still bound, joined⟩
  | joinListener =>
      simp only [stage] at holds
      obtain ⟨port, front, rest, pongs, bound, joined⟩ := holds
      exact ⟨port, front, rest, pongs, still bound, joined⟩
  | returned result =>
      simp only [stage] at holds
      rcases holds with ⟨unbound, _⟩ | ⟨port, front, rest, pongs, bound, joined⟩
      · exact absurd unbound unspawned
      · exact .inr ⟨port, front, rest, pongs, still bound, joined⟩

theorem transcript_step {event : Event} (drawn : setting.challenge = .ok challenge)
    (holds : Transcript setting challenge refused session received sent)
    (taken : step setting session event = some next)
    (refuse : Refusal setting challenge event
      (received ++ (party setting).input event) → refused) :
    Transcript setting challenge refused next (received ++ (party setting).input event)
      (sent ++ (party setting).output event) := by
  have heard := holds
  unfold Session.Transcript at heard
  rcases step_cases taken with
    ⟨stage, opening⟩ | ⟨known, auth, cause, stage, rfl, authenticating⟩ |
      ⟨config, cause, stage, rfl, configuring⟩ | ⟨requested, stage, binding⟩ |
      ⟨loop, cause, after, stage, rfl, _, resumed, rfl⟩ |
      ⟨listener, cause, moved, rfl, spawned, resumed, rfl⟩ |
      ⟨listener, result, stage, rfl, spawned, _, rfl⟩
  · simp only [stage] at heard
    obtain ⟨unbound, rfl, rfl⟩ := heard
    rcases opening with ⟨rfl, rfl⟩ | ⟨rfl, rfl⟩ | ⟨reason, rfl, rfl⟩
    · exact transcript_fail unbound (refuse (.inl rfl)) _ _
    · exact transcript_authenticate drawn unbound
    · exact transcript_fail unbound (refuse (.inl rfl)) _ _
  · simp only [stage] at heard
    obtain ⟨unbound, _, rfl, heard⟩ := heard
    rcases authenticating with ⟨rfl, rfl⟩ | ⟨after, resumed, rfl⟩
    · exact transcript_fail unbound (refuse (.inl rfl)) _ _
    · refine transcript_afterAuthenticate unbound
        (ServerAuthenticate.transcript_step heard resumed) ?_ refuse
      rintro error rfl
      rcases ServerAuthenticate.step_io resumed with
        ⟨_, rfl⟩ | ⟨_, rfl⟩ | ⟨rfl, rfl⟩
      · exact .inl rfl
      · exact .inl rfl
      · exact .inr ⟨rfl, rfl⟩
  · simp only [stage] at heard
    obtain ⟨unbound, _, written, response, message, rfl, valid, heard⟩ := heard
    rcases configuring with ⟨rfl, rfl⟩ | ⟨after, resumed, rfl⟩
    · exact transcript_fail unbound (refuse (.inl rfl)) _ _
    · change Transcript setting challenge refused _ (response ++ message ++ cause.input)
        (sent ++ cause.output)
      change Refusal setting challenge (.control cause)
        (response ++ message ++ cause.input) → refused at refuse
      rw [List.append_assoc] at refuse ⊢
      rw [ConfigureQuicClient.step_silent resumed, List.append_nil]
      refine transcript_afterConfigure unbound written valid
        (ConfigureQuicClient.transcript_step heard resumed) ?_ refuse
      rintro error cause' rfl caused
      rcases ConfigureQuicClient.step_io resumed caused with ⟨_, rfl⟩ | ⟨rfl, rfl⟩
      · exact .inl rfl
      · exact .inr ⟨rfl, rfl⟩
  · simp only [stage] at heard
    rcases binding with ⟨port, rfl, picked, rfl⟩ | ⟨rfl, rfl⟩
    · obtain ⟨⟨binds, gate, _⟩, _, rfl⟩ := heard
      refine ⟨requested, received, [], [], ⟨binds, gate, ?_⟩, ?_, ?_,
        ControlChannelLoop.transcript_start⟩
      · intro listener spawned
        cases spawned
        exact picked
      · simp [Party.input, party]
      · simp [Party.output, party]
    · obtain ⟨bound, _, rfl⟩ := heard
      refine .inr ⟨requested, received, [], [], bound, ?_, ?_⟩
      · simp [Party.input, party]
      · simp [Party.output, party]
  · simp only [stage] at heard
    obtain ⟨port, front, rest, pongs, bound, rfl, rfl, heard⟩ := heard
    have moved := ControlChannelLoop.transcript_step heard resumed
    change Transcript setting challenge refused _ (front ++ rest ++ cause.input)
      (greeting challenge ++ pongs ++ cause.output)
    rw [List.append_assoc, List.append_assoc]
    unfold afterLoop
    split
    · exact ⟨port, front, _, _, bound, rfl, rfl⟩
    · exact ⟨port, front, _, _, bound, rfl, rfl, moved⟩
  · simp only [Party.input, Party.output, party, Option.map_none, Option.getD_none,
      List.append_nil]
    exact transcript_listener holds spawned resumed
  · simp only [stage] at heard
    simp only [Party.input, Party.output, party, Option.map_none, Option.getD_none,
      List.append_nil]
    exact .inr heard

/-- Refusals aside, a session keeps its transcript whoever is at the other end. -/
theorem party_preserves (drawn : setting.challenge = .ok challenge) :
    (party setting).Preserves (Transcript setting challenge True) := by
  intro session event next received sent holds taken
  exact transcript_step drawn holds taken fun _ => trivial

end Session

end PortRedirect.Server
