import PortRedirect.Client.Reported
import PortRedirect.Protocol.KeepaliveFragments

namespace PortRedirect.Client

open PortRedirect.Text
open PortRedirect.Stream
open PortRedirect.Protocol
open PortRedirect.Quic
open PortRedirect.Transition

/-! What the client program reads and writes on its control stream, and that it forwards
nothing before the server has accepted it. -/

section Control

variable (sha512 : Bytes → Digest) (psk : String)

/-- Some of the response to a challenge that has been heard. -/
def Answers (received sent : Bytes) : Prop :=
  ∃ message rest challenge, received = message ++ rest ∧
    heardChallenge message = .ok challenge ∧
    sent <+: utf8 (ClientAuthenticate.response sha512 psk challenge)

/-- The response to a challenge that has been heard, accepted by the reply, and then PINGs,
at most one more than there are PONGs behind the reply.  Between two PONGs stands what the
reader of the first was dropped with. -/
def Welcomed (received sent : Bytes) : Prop :=
  ∃ message reply drops tail challenge pings,
    received = message ++ (reply ++ (KeepaliveClient.answers drops ++ tail)) ∧
    heardChallenge message = .ok challenge ∧ heardReply reply = .ok () ∧
    sent = utf8 (ClientAuthenticate.response sha512 psk challenge) ++ pings ∧
    pings <+: repeated pingMessage (drops.length + 1)

variable {sha512 psk} {auth next : ClientAuthenticate} {received sent : Bytes}

theorem answers_of_transcript (holds : auth.Transcript sha512 psk received sent)
    (running : ∀ result, auth ≠ .returned result) :
    sent = [] ∨ Answers sha512 psk received sent := by
  cases auth with
  | readChallenge => exact .inl holds.2
  | writeResponse rest =>
      obtain ⟨challenge, heard, written⟩ := holds
      exact .inr ⟨received, [], challenge, (List.append_nil _).symm, heard, rest, written⟩
  | flushResponse | readReply =>
      obtain ⟨challenge, heard, rfl⟩ := holds
      exact .inr ⟨received, [], challenge, (List.append_nil _).symm, heard,
        List.prefix_rfl⟩
  | returned result => exact absurd rfl (running result)

theorem Answers.append (holds : Answers sha512 psk received sent) (more : Bytes) :
    Answers sha512 psk (received ++ more) sent := by
  obtain ⟨message, rest, challenge, rfl, heard, written⟩ := holds
  exact ⟨message, rest ++ more, challenge, List.append_assoc _ _ _, heard, written⟩

end Control

namespace Session

def Event.input : Event → Bytes
  | .control event => event.input
  | _ => []

def Event.output : Event → Bytes
  | .control event => event.output
  | _ => []

variable (sha512 : Bytes → Digest) (psk : String)

/-- What has been said on the control stream when a session is in a state. -/
def Dialogue (session : Session) (received sent : Bytes) : Prop :=
  match session.keepalive with
  | some client =>
      (session.stage = .acceptStreams ∨ session.stage = .returned (.ok ())) ∧
        ∃ message reply rest challenge pings, received = message ++ (reply ++ rest) ∧
          heardChallenge message = .ok challenge ∧ heardReply reply = .ok () ∧
          sent = utf8 (ClientAuthenticate.response sha512 psk challenge) ++ pings ∧
          client.Transcript rest pings ∧ client.Answered rest
  | none =>
      session.forwarded = 0 ∧
        match session.stage with
        | .acceptControl => received = [] ∧ sent = []
        | .authenticate auth =>
            (∀ result, auth ≠ .returned result) ∧ auth.Transcript sha512 psk received sent
        | .acceptStreams => False
        | .returned _ => sent = [] ∨ Answers sha512 psk received sent

variable {sha512 psk} {config : ClientAppData} {session next : Session}
  {received sent : Bytes}

theorem dialogue_start : Dialogue sha512 psk {} [] [] := ⟨rfl, rfl, rfl⟩

private theorem dialogue_afterAuthenticate {auth after : ClientAuthenticate}
    {event : Stream.Event} (idle : session.keepalive = none)
    (unused : session.forwarded = 0) (running : ∀ result, auth ≠ .returned result)
    (holds : auth.Transcript sha512 psk received sent)
    (resumed : auth.step sha512 psk event = some after) :
    Dialogue sha512 psk (session.afterAuthenticate after) (received ++ event.input)
      (sent ++ event.output) := by
  have stepped := ClientAuthenticate.transcript_step holds resumed
  unfold afterAuthenticate
  split
  · obtain ⟨message, reply, challenge, split, heard, written, happy⟩ := stepped
    refine ⟨.inl rfl, message, reply, [], challenge, [], ?_, heard, happy, ?_,
      KeepaliveClient.transcript_start, KeepaliveClient.answered_start⟩
    · rw [split, List.append_nil]
    · rw [written, List.append_nil]
  · rename_i error
    have silent : event.output = [] := by
      rcases ClientAuthenticate.step_cases resumed with
        ⟨_, message, rfl, _⟩ | ⟨_, reply, rfl, _⟩ | ⟨_, answering, _⟩ | ⟨cut, _⟩
      · rfl
      · rfl
      · cases answering
      · cases event with
        | eof | readFailed | writeFailed => rfl
        | _ => cases cut
    simp only [Dialogue, authenticationFailed, idle, silent, List.append_nil]
    refine ⟨unused, ?_⟩
    rcases answers_of_transcript holds running with nothing | answers
    · exact .inl nothing
    · exact .inr (answers.append _)
  · rename_i notOk notError
    simp only [Dialogue, idle]
    refine ⟨unused, ?_, stepped⟩
    intro result ended
    cases result with
    | ok done => exact notOk ended
    | error error => exact notError error ended

theorem dialogue_step {event : Event}
    (holds : Dialogue sha512 config.connectionAuthPsk session received sent)
    (taken : step sha512 config session event = some next) :
    Dialogue sha512 config.connectionAuthPsk next (received ++ event.input)
      (sent ++ event.output) := by
  rcases step_cases taken with
    ⟨cause, auth, after, rfl, stage, resumed, rfl⟩ |
      ⟨cause, client, after, rfl, elsewhere, spawned, moved, rfl⟩ |
      ⟨stage, begun⟩ | ⟨stage, looped⟩
  · unfold Dialogue at holds
    cases spawned : session.keepalive with
    | none =>
        simp only [spawned, stage] at holds
        obtain ⟨unused, running, holds⟩ := holds
        exact dialogue_afterAuthenticate spawned unused running holds resumed
    | some client =>
        simp only [spawned, stage] at holds
        rcases holds.1 with past | past <;> cases past
  · simp only [Dialogue, spawned] at holds
    obtain ⟨past, message, reply, rest, challenge, pings, rfl, heard, happy, rfl, holds,
      answered⟩ := holds
    refine ⟨past, message, reply, rest ++ cause.input, challenge, pings ++ cause.output, ?_,
      heard, happy, List.append_assoc _ _ _, KeepaliveClient.transcript_step holds moved,
      KeepaliveClient.answered_step answered moved⟩
    simp [Event.input]
  · cases spawned : session.keepalive with
    | none =>
        simp only [Dialogue, spawned, stage] at holds
        obtain ⟨unused, rfl, rfl⟩ := holds
        rcases begun with ⟨rfl, rfl⟩ | ⟨rfl, rfl⟩
        · simp only [Dialogue, spawned]
          exact ⟨unused, fun _ => ClientAuthenticate.noConfusion, rfl, rfl⟩
        · simp only [Dialogue, authenticationFailed, spawned]
          exact ⟨unused, .inl rfl⟩
    | some client =>
        simp only [Dialogue, spawned, stage] at holds
        rcases holds.1 with past | past <;> cases past
  · cases spawned : session.keepalive with
    | none =>
        simp only [Dialogue, spawned, stage] at holds
        exact holds.2.elim
    | some client =>
        simp only [Dialogue, spawned] at holds
        have kept : received ++ event.input = received ∧ sent ++ event.output = sent := by
          rcases looped with ⟨rfl, _⟩ | ⟨rfl, _⟩ <;> simp [Event.input, Event.output]
        rw [kept.1, kept.2]
        rcases looped with ⟨_, rfl⟩ | ⟨_, rfl⟩
        · simp only [Dialogue, spawned]
          exact holds
        · simp only [Dialogue, spawned]
          exact ⟨.inr trivial, holds.2⟩

/-- A session that has forwarded a stream has been welcomed, and in no state has it sent
anything that is not an answer or a PING after it. -/
theorem Dialogue.outcome (holds : Dialogue sha512 psk session received sent) :
    (sent = [] ∨ Answers sha512 psk received sent ∨ Welcomed sha512 psk received sent) ∧
      (session.forwarded ≠ 0 → Welcomed sha512 psk received sent) := by
  unfold Dialogue at holds
  cases spawned : session.keepalive with
  | some client =>
      simp only [spawned] at holds
      obtain ⟨_, message, reply, rest, challenge, pings, split, heard, happy, written, holds,
        drops, tail, counted⟩ := holds
      have welcomed : Welcomed sha512 psk received sent := by
        refine ⟨message, reply, drops, tail, challenge, pings, ?_, heard, happy, written, ?_⟩
        · rw [split, counted.received]
        · rw [counted.count]
          exact holds.bounds.1
      exact ⟨.inr (.inr welcomed), fun _ => welcomed⟩
  | none =>
      simp only [spawned] at holds
      obtain ⟨unused, holds⟩ := holds
      refine ⟨?_, fun used => absurd unused used⟩
      cases stage : session.stage with
      | acceptControl =>
          simp only [stage] at holds
          exact .inl holds.2
      | authenticate auth =>
          simp only [stage] at holds
          exact (answers_of_transcript holds.2 holds.1).imp_right .inl
      | acceptStreams => simp only [stage] at holds
      | returned result =>
          simp only [stage] at holds
          exact holds.imp_right .inl

end Session

namespace ClientProgram

variable {sha512 : Bytes → Digest} {environment : Environment}
  {surroundings : ClientSurroundings} {args : Args} {program next : ClientProgram}

def heardBy : ClientProgramEvent → Bytes
  | .quic (.handler event) => event.input
  | _ => []

def writtenBy : ClientProgramEvent → Bytes
  | .quic (.handler event) => event.output
  | _ => []

/-- What the program has read from its control stream. -/
def heard (events : List ClientProgramEvent) : Bytes := events.flatMap heardBy

def written (events : List ClientProgramEvent) : Bytes := events.flatMap writtenBy

/-- The program's key is that of its arguments, and its session has said what it must. -/
structure Spoken (sha512 : Bytes → Digest) (args : Args) (received sent : Bytes)
    (program : ClientProgram) : Prop where
  keyed : ∀ config client, program = .running config client →
    config.appData.connectionAuthPsk = args.quicPsk
  silent : program.session = none → received = [] ∧ sent = []
  spoke : ∀ session, program.session = some session →
    session.Dialogue sha512 args.quicPsk received sent

theorem started_psk {config : ClientConfig ClientAppData} {call : RunClientCall}
    (called : main environment args = .ok call)
    (configured : runClient environment call = .ok config) :
    config.appData.connectionAuthPsk = args.quicPsk := by
  unfold main at called
  simp only [bind_eq_ok] at called
  obtain ⟨_, _, _, _, _, _, _, _, _, _, ⟨⟩⟩ := called
  obtain ⟨_, _, ⟨⟩⟩ := bind_eq_ok.mp configured
  rfl

theorem spoken_of_none
    (keyed : ∀ config client, program = .running config client →
      config.appData.connectionAuthPsk = args.quicPsk)
    (none : program.session = none) : Spoken sha512 args [] [] program where
  keyed := keyed
  silent := fun _ => ⟨rfl, rfl⟩
  spoke := fun _ there => absurd (there.symm.trans none) (Option.some_ne_none _)

theorem spoken_of_some {received sent : Bytes} {session : Session}
    (keyed : ∀ config client, program = .running config client →
      config.appData.connectionAuthPsk = args.quicPsk)
    (some : program.session = some session)
    (spoke : session.Dialogue sha512 args.quicPsk received sent) :
    Spoken sha512 args received sent program where
  keyed := keyed
  silent := fun none => absurd (some.symm.trans none) (Option.some_ne_none _)
  spoke := fun other there => by
    obtain rfl := Option.some.inj (some.symm.trans there)
    exact spoke

theorem spoken_start : Spoken sha512 args [] [] .starting :=
  spoken_of_none (fun _ _ other => ClientProgram.noConfusion other) rfl

private theorem spoken_started
    (taken : step sha512 environment surroundings args .starting .started = some next) :
    Spoken sha512 args [] [] next := by
  simp only [step] at taken
  split at taken
  · cases taken
    exact spoken_of_none (fun _ _ other => ClientProgram.noConfusion other) rfl
  · rename_i call called
    split at taken
    · cases taken
      exact spoken_of_none (fun _ _ other => ClientProgram.noConfusion other) rfl
    · rename_i config configured
      cases taken
      refine spoken_of_none ?_ rfl
      rintro config client ⟨⟩
      exact started_psk called configured

theorem spoken_step {received sent : Bytes} {event : ClientProgramEvent}
    (holds : Spoken sha512 args received sent program)
    (taken : program.step sha512 environment surroundings args event = some next) :
    Spoken sha512 args (received ++ heardBy event) (sent ++ writtenBy event) next := by
  rcases step_cases taken with
    ⟨rfl, rfl, _⟩ | ⟨config, client, resumed, after, rfl, rfl, moved, rfl⟩ |
      ⟨config, session, result, rfl, rfl, rfl⟩ | ⟨client, result, rfl, rfl, rfl⟩
  · obtain ⟨rfl, rfl⟩ := holds.silent rfl
    exact spoken_started taken
  · have key := holds.keyed config client rfl
    have keyed (after : QuicClient Session) : ∀ config' client,
        ClientProgram.running config after = .running config' client →
          config'.appData.connectionAuthPsk = args.quicPsk := by
      rintro config' client ⟨⟩
      exact key
    rcases QuicClient.step_cases moved with
      ⟨rfl, rfl, ⟨error, rfl⟩ | rfl⟩ |
        ⟨session, rfl, ⟨resumed, after, rfl, stepped, rfl⟩ | ⟨text, rfl, _, rfl⟩ |
          ⟨result, rfl, _, rfl⟩⟩
    · obtain ⟨rfl, rfl⟩ := holds.silent rfl
      exact spoken_of_none (keyed _) rfl
    · obtain ⟨rfl, rfl⟩ := holds.silent rfl
      exact spoken_of_some (keyed _) rfl Session.dialogue_start
    · have spoke := holds.spoke session rfl
      refine spoken_of_some (keyed _) rfl ?_
      rw [← key] at spoke ⊢
      exact Session.dialogue_step spoke stepped
    · refine spoken_of_some (keyed _) rfl ?_
      simpa [heardBy, writtenBy] using holds.spoke session rfl
    · refine spoken_of_some (keyed _) rfl ?_
      simpa [heardBy, writtenBy] using holds.spoke session rfl
  · simp only [heardBy, writtenBy, List.append_nil]
    exact ⟨fun _ _ other => ClientProgram.noConfusion other, holds.silent, holds.spoke⟩
  · simp only [heardBy, writtenBy, List.append_nil]
    exact ⟨fun _ _ other => ClientProgram.noConfusion other, holds.silent, holds.spoke⟩

/-- In every run of the client it writes nothing on its control stream but the response,
under the key of its arguments, to a challenge that it was sent, and after a reply that
accepts it PINGs, at most one more than it was sent PONGs behind that reply; and it forwards
no stream to the destination before it. -/
theorem forwards_welcomed {events : List ClientProgramEvent} {final : ClientProgram}
    (ran : run (step sha512 environment surroundings args) .starting events =
      some final) :
    (written events = [] ∨ Answers sha512 args.quicPsk (heard events) (written events) ∨
        Welcomed sha512 args.quicPsk (heard events) (written events)) ∧
      ∀ session ∈ final.session, session.forwarded ≠ 0 →
        Welcomed sha512 args.quicPsk (heard events) (written events) := by
  have spoken := run_history_invariant
    (fun history program => Spoken sha512 args (heard history) (written history) program)
    (fun history _ event _ holds taken => by
      simpa [heard, written] using spoken_step holds taken)
    spoken_start ran
  constructor
  · cases there : final.session with
    | none => exact .inl (spoken.silent there).2
    | some session => exact (spoken.spoke session there).outcome.1
  · intro session there forwarded
    exact (spoken.spoke session there).outcome.2 forwarded

/-- Only one of the two PONGs stands at the beginning. -/
example :
    let events : List Stream.Event :=
      [.tick, .sent pingMessage, .flushed, .received (utf8 "PONG\nxx"), .tick,
        .sent pingMessage, .flushed, .received pongMessage, .tick, .sent pingMessage]
    (run KeepaliveClient.step {} events).map KeepaliveClient.pongCount = some 2 ∧
      events.flatMap Stream.Event.output = repeated pingMessage 3 ∧
      leading pongMessage (events.flatMap Stream.Event.input) = 1 := by
  decide

def oneForwarded : List ClientProgramEvent :=
  [.quic (.handler (.control (.received (verdict true)))), .quic (.handler .accepted)]

theorem run_oneForwarded :
    run (step sha512 .loopback .bare sampleArgs)
        (.running sampleConfig (.handling { stage := .authenticate .readReply }))
        oneForwarded =
      some (.running sampleConfig
        (.handling { stage := .acceptStreams, keepalive := some {}, forwarded := 1 })) := by
  have read : pollRead 16 (.received (verdict true)) = some (.read (verdict true)) := by
    rfl
  have happy : heardReply (verdict true) = .ok () := by decide +kernel
  simp [run, oneForwarded, step, QuicClient.step, Session.handler, Session.step,
    Session.control, Session.afterAuthenticate, ClientAuthenticate.step, read, happy]

theorem forwards_welcomed_oneForwarded :
    ∃ final session,
      run (step Crypto.Sha512.digest .loopback .bare sampleArgs) .starting
        (answered Crypto.Sha512.digest sampleChallenge ++ oneForwarded) = some final ∧
      final.session = some session ∧ session.forwarded = 1 ∧
      Welcomed Crypto.Sha512.digest "key"
        (heard (answered Crypto.Sha512.digest sampleChallenge ++ oneForwarded))
        (written (answered Crypto.Sha512.digest sampleChallenge ++ oneForwarded)) := by
  have ran : run (step Crypto.Sha512.digest .loopback .bare sampleArgs) .starting
      (answered Crypto.Sha512.digest sampleChallenge ++ oneForwarded) =
        some (.running sampleConfig
          (.handling { stage := .acceptStreams, keepalive := some {}, forwarded := 1 })) := by
    rw [sampleChallenge, run_append (run_answered _ _), run_oneForwarded]
  exact ⟨_, _, ran, rfl, rfl, (forwards_welcomed ran).2 _ rfl Nat.one_ne_zero⟩

end ClientProgram

end PortRedirect.Client
