import PortRedirect.Protocol.KeepaliveTranscript
import PortRedirect.Protocol.Handshake

namespace PortRedirect.Client

open PortRedirect.Text
open PortRedirect.Stream
open PortRedirect.Protocol

structure ClientAppData where
  connectionAuthPsk : String
  forwardDestination : String

/-! `handle_quic_server_connection`, by its await points, with the keepalive task it
spawns.  The control stream passes from the authentication to that task. -/

namespace Session

inductive Stage where
  | acceptControl
  | authenticate (auth : ClientAuthenticate)
  | acceptStreams
  | returned (result : Except Error Unit)

inductive Event where
  /-- Something that resumes the owner of the control stream. -/
  | control (event : Stream.Event)
  | accepted
  | acceptFailed
deriving DecidableEq, Repr

end Session

structure Session where
  stage : Session.Stage := .acceptControl
  keepalive : Option KeepaliveClient := none
  forwarded : Nat := 0

namespace Session

def authenticationFailed (session : Session) (reason : String) : Session :=
  { session with
    stage := .returned (.error (.context "failed to authenticate against PR QUIC server"
      (.message reason))) }

/-- Where the handler goes on when its authentication awaits or returns. -/
def afterAuthenticate (session : Session) : ClientAuthenticate → Session
  | .returned (.ok ()) =>
      { session with
        stage := .acceptStreams
        keepalive := some {} }
  | .returned (.error _) =>
      session.authenticationFailed "failed to authenticate against PR QUIC server"
  | auth => { session with stage := .authenticate auth }

variable (sha512 : Bytes → Digest) (config : ClientAppData)

def control (session : Session) (event : Stream.Event) : Option Session :=
  match session.stage with
  | .authenticate auth =>
      (auth.step sha512 config.connectionAuthPsk event).map session.afterAuthenticate
  | _ =>
      match session.keepalive with
      | none => none
      | some client =>
          (client.step event).map fun client => { session with keepalive := some client }

def step (session : Session) : Event → Option Session
  | .control event => session.control sha512 config event
  | .accepted =>
      match session.stage with
      | .acceptControl => some { session with stage := .authenticate .start }
      | .acceptStreams => some { session with forwarded := session.forwarded + 1 }
      | _ => none
  | .acceptFailed =>
      match session.stage with
      | .acceptControl =>
          some (session.authenticationFailed "failed to accept bidi AUTH connection")
      | .acceptStreams => some { session with stage := .returned (.ok ()) }
      | _ => none

/-- The control stream is dropped with a failed authentication or with the end of the
keepalive task. -/
def controlGone (session : Session) : Bool :=
  match session.keepalive with
  | some client => KeepaliveClient.party.gone client
  | none =>
      match session.stage with
      | .returned _ => true
      | _ => false

def party : Party Session Event where
  step := step sha512 config
  io
    | .control event => some event
    | _ => none
  gone := controlGone

/-! What a client has read and written on the control stream: the response to the
challenge it heard, and then PINGs. -/

def Transcript (session : Session) (received sent : Bytes) : Prop :=
  match session.keepalive with
  | some client =>
      (session.stage = .acceptStreams ∨ ∃ result, session.stage = .returned result) ∧
        ∃ front challenge rest pings, received = front ++ rest ∧
          sent = utf8 (ClientAuthenticate.response sha512 config.connectionAuthPsk
            challenge) ++ pings ∧
          client.Transcript rest pings
  | none =>
      match session.stage with
      | .acceptControl => received = [] ∧ sent = []
      | .authenticate auth =>
          (∀ result, auth ≠ .returned result) ∧
            auth.Transcript sha512 config.connectionAuthPsk received sent
      | .acceptStreams => False
      | .returned _ => sent.length ≤ 129

variable {sha512 config} {session next : Session} {received sent : Bytes}

/-- All that a step of the handler can be. -/
theorem step_cases {event : Event} (taken : step sha512 config session event = some next) :
    (∃ cause auth after, event = .control cause ∧ session.stage = .authenticate auth ∧
      auth.step sha512 config.connectionAuthPsk cause = some after ∧
      next = session.afterAuthenticate after) ∨
    (∃ cause client after, event = .control cause ∧
      (∀ auth, session.stage ≠ .authenticate auth) ∧ session.keepalive = some client ∧
      client.step cause = some after ∧ next = { session with keepalive := some after }) ∨
    (session.stage = .acceptControl ∧
      ((event = .accepted ∧ next = { session with stage := .authenticate .start }) ∨
        (event = .acceptFailed ∧
          next = session.authenticationFailed "failed to accept bidi AUTH connection"))) ∨
    (session.stage = .acceptStreams ∧
      ((event = .accepted ∧ next = { session with forwarded := session.forwarded + 1 }) ∨
        (event = .acceptFailed ∧ next = { session with stage := .returned (.ok ()) }))) := by
  cases event with
  | control cause =>
      simp only [step, control] at taken
      split at taken
      · rename_i auth stage
        obtain ⟨after, resumed, rfl⟩ := Option.map_eq_some_iff.mp taken
        exact .inl ⟨cause, auth, after, rfl, stage, resumed, rfl⟩
      · rename_i elsewhere
        cases spawned : session.keepalive with
        | none => simp [spawned] at taken
        | some client =>
            simp only [spawned] at taken
            obtain ⟨after, moved, rfl⟩ := Option.map_eq_some_iff.mp taken
            exact .inr (.inl ⟨cause, client, after, rfl, elsewhere, rfl, moved, rfl⟩)
  | accepted =>
      simp only [step] at taken
      split at taken
      · cases taken
        exact .inr (.inr (.inl ⟨‹_›, .inl ⟨rfl, rfl⟩⟩))
      · cases taken
        exact .inr (.inr (.inr ⟨‹_›, .inl ⟨rfl, rfl⟩⟩))
      · cases taken
  | acceptFailed =>
      simp only [step] at taken
      split at taken
      · cases taken
        exact .inr (.inr (.inl ⟨‹_›, .inr ⟨rfl, rfl⟩⟩))
      · cases taken
        exact .inr (.inr (.inr ⟨‹_›, .inr ⟨rfl, rfl⟩⟩))
      · cases taken

theorem transcript_start : Transcript sha512 config {} [] [] := ⟨rfl, rfl⟩

private theorem length_sent_le {auth : ClientAuthenticate} {event : Stream.Event}
    {psk : String} {error : Error} (holds : auth.Transcript sha512 psk received sent)
    (resumed : auth.step sha512 psk event = some (.returned (.error error))) :
    (sent ++ event.output).length ≤ 129 := by
  have running : ∀ result, auth ≠ .returned result := by
    rintro result rfl
    cases resumed
  have silent : event.output = [] := by
    rcases ClientAuthenticate.step_cases resumed with
      ⟨_, message, rfl, _⟩ | ⟨_, reply, rfl, _⟩ | ⟨_, answering, _⟩ | ⟨cut, _⟩
    · rfl
    · rfl
    · cases answering
    · cases event with
      | eof | readFailed | writeFailed => rfl
      | _ => cases cut
  rw [silent, List.append_nil]
  exact holds.length_le running

private theorem transcript_afterAuthenticate {auth : ClientAuthenticate}
    (idle : session.keepalive = none)
    (holds : auth.Transcript sha512 config.connectionAuthPsk received sent)
    (bound : ∀ error, auth = .returned (.error error) → sent.length ≤ 129) :
    Transcript sha512 config (session.afterAuthenticate auth) received sent := by
  unfold afterAuthenticate
  split
  · obtain ⟨message, reply, challenge, _, _, written, _⟩ := holds
    exact ⟨.inl rfl, received, challenge, [], [],
      (List.append_nil _).symm, by rw [written, List.append_nil],
      KeepaliveClient.transcript_start⟩
  · rename_i error
    simp only [Transcript, authenticationFailed, idle]
    exact bound error rfl
  · rename_i notOk notError
    simp only [Transcript, idle]
    refine ⟨?_, holds⟩
    intro result ended
    cases result with
    | ok done => exact notOk ended
    | error error => exact notError error ended

theorem transcript_step {event : Event} (holds : Transcript sha512 config session received sent)
    (taken : step sha512 config session event = some next) :
    Transcript sha512 config next (received ++ (party sha512 config).input event)
      (sent ++ (party sha512 config).output event) := by
  rcases step_cases taken with
    ⟨cause, auth, after, rfl, stage, resumed, rfl⟩ |
      ⟨cause, client, after, rfl, _, spawned, moved, rfl⟩ |
      ⟨stage, begun⟩ | ⟨stage, looped⟩
  · change Transcript sha512 config _ (received ++ cause.input) (sent ++ cause.output)
    unfold Transcript at holds
    cases spawned : session.keepalive with
    | none =>
        simp only [spawned, stage] at holds
        apply transcript_afterAuthenticate spawned
          (ClientAuthenticate.transcript_step holds.2 resumed)
        rintro error rfl
        exact length_sent_le holds.2 resumed
    | some client =>
        simp only [spawned, stage] at holds
        obtain ⟨past | ⟨result, past⟩, _⟩ := holds <;> cases past
  · change Transcript sha512 config _ (received ++ cause.input) (sent ++ cause.output)
    simp only [Transcript, spawned] at holds
    obtain ⟨past, front, challenge, rest, pings, rfl, rfl, holds⟩ := holds
    exact ⟨past, front, challenge, _, _, List.append_assoc _ _ _,
      List.append_assoc _ _ _, KeepaliveClient.transcript_step holds moved⟩
  · cases spawned : session.keepalive with
    | none =>
        simp only [Transcript, spawned, stage] at holds
        obtain ⟨rfl, rfl⟩ := holds
        rcases begun with ⟨rfl, rfl⟩ | ⟨rfl, rfl⟩
        · simp only [Transcript, spawned]
          exact ⟨fun _ => ClientAuthenticate.noConfusion, rfl, rfl⟩
        · simp only [Transcript, authenticationFailed, spawned]
          exact Nat.zero_le _
    | some client =>
        simp only [Transcript, spawned, stage] at holds
        obtain ⟨past | ⟨result, past⟩, _⟩ := holds <;> cases past
  · cases spawned : session.keepalive with
    | none => simp only [Transcript, spawned, stage] at holds
    | some client =>
        simp only [Transcript, spawned] at holds
        rcases looped with ⟨rfl, rfl⟩ | ⟨rfl, rfl⟩
        · simp only [Transcript, spawned, Party.input, Party.output, party, Option.map_none,
            Option.getD_none, List.append_nil]
          exact holds
        · simp only [Transcript, spawned, Party.input, Party.output, party, Option.map_none,
            Option.getD_none, List.append_nil]
          exact ⟨.inr ⟨_, rfl⟩, holds.2⟩

/-- All that follows the response is PINGs. -/
theorem Transcript.pings (holds : Transcript sha512 config session received sent)
    {response message : Bytes} (written : sent = response ++ message)
    (full : response.length = 129) : ∃ count, message <+: repeated pingMessage count := by
  have short (bound : sent.length ≤ 129) :
      ∃ count, message <+: repeated pingMessage count := by
    rw [written, List.length_append, full] at bound
    refine ⟨0, ?_⟩
    rw [List.eq_nil_of_length_eq_zero (by omega : message.length = 0)]
    exact List.nil_prefix
  unfold Transcript at holds
  cases spawned : session.keepalive with
  | some client =>
      simp only [spawned] at holds
      obtain ⟨_, front, challenge, rest, pings, _, sent, holds⟩ := holds
      have whole := ClientAuthenticate.length_response sha512 config.connectionAuthPsk
        challenge
      obtain ⟨_, rfl⟩ := List.append_inj (written.symm.trans sent) (full.trans whole.symm)
      exact ⟨_, holds.bounds.1⟩
  | none =>
      cases stage : session.stage with
      | acceptControl =>
          simp only [spawned, stage] at holds
          apply short
          rw [holds.2]
          exact Nat.zero_le _
      | authenticate auth =>
          simp only [spawned, stage] at holds
          exact short (holds.2.length_le holds.1)
      | acceptStreams => simp only [spawned, stage] at holds
      | returned result =>
          simp only [spawned, stage] at holds
          exact short holds

theorem party_preserves : (party sha512 config).Preserves (Transcript sha512 config) := by
  intro session event next received sent holds taken
  exact transcript_step holds taken

end Session

end PortRedirect.Client
