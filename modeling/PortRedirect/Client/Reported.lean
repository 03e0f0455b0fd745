import PortRedirect.Client.Main
import PortRedirect.Crypto.Sha512
import PortRedirect.Protocol.Challenge

namespace PortRedirect.Protocol

open PortRedirect.Text
open PortRedirect.Stream

/-- A message that begins with the prompt and a challenge, each in its line. -/
def Challenges (message : Bytes) : Prop :=
  ∃ text challenge rest, fromUtf8 message = some text ∧
    lines text = "WHO THE HECK ARE YOU?" :: challenge :: rest

def Accepts (reply : Bytes) : Prop :=
  ∃ text, fromUtf8 reply = some text ∧ "HAPPY".toList <+: text.toList

theorem heardChallenge_eq_error {message : Bytes} :
    (∃ error, heardChallenge message = .error error) ↔ ¬ Challenges message := by
  unfold heardChallenge Challenges
  split
  · rename_i undecodable
    simp [undecodable]
  · rename_i text decoded
    simp only [decoded, Option.some.injEq, exists_and_left, exists_eq_left']
    split
    · rename_i empty
      simp [empty]
    · rename_i prompt rest split
      simp only [split, List.cons.injEq]
      by_cases asked : prompt = "WHO THE HECK ARE YOU?"
      · cases rest with
        | nil => simp [asked]
        | cons challenge rest => simp [asked]
      · simp [asked]

theorem heardReply_eq_error {reply : Bytes} :
    (∃ error, heardReply reply = .error error) ↔ ¬ Accepts reply := by
  unfold heardReply Accepts
  split
  · rename_i undecodable
    simp [undecodable]
  · rename_i text decoded
    simp only [decoded, Option.some.injEq, exists_eq_left']
    split
    · rename_i happy
      exact iff_of_false (by simp) (not_not_intro happy)
    · rename_i unhappy
      exact iff_of_true ⟨_, rfl⟩ unhappy

namespace ClientAuthenticate

/-- What makes the authentication fail. -/
def Fails : ClientAuthenticate → Event → Prop
  | .readChallenge, .received message => ¬ Challenges message
  | .readReply, .received reply => ¬ Accepts reply
  | _, event => event.cut = true

def Failed (state : ClientAuthenticate) : Prop :=
  ∃ error, state = .returned (.error error)

variable {sha512 : Bytes → Digest} {psk : String} {state next : ClientAuthenticate}
  {event : Event}

theorem failed_of_cut (cut : event.cut = true)
    (taken : state.step sha512 psk event = some next) : next.Failed := by
  rcases step_cases taken with
    ⟨_, message, rfl, _⟩ | ⟨_, reply, rfl, _⟩ | ⟨waiting, _⟩ | ⟨_, _, failed⟩
  · cases cut
  · cases cut
  · cases event with
    | eof | readFailed | writeFailed =>
        cases state with
        | writeResponse rest | flushResponse | readReply =>
            cases taken <;> exact ⟨_, rfl⟩
        | _ => cases waiting
    | _ => cases cut
  · exact failed

theorem failed_iff (taken : state.step sha512 psk event = some next) :
    next.Failed ↔ state.Fails event := by
  by_cases cut : event.cut = true
  · refine iff_of_true (failed_of_cut cut taken) ?_
    cases event with
    | eof | readFailed | writeFailed => cases state <;> rfl
    | _ => cases cut
  · rcases step_cases taken with
      ⟨rfl, message, rfl, heard⟩ | ⟨rfl, reply, rfl, rfl⟩ | ⟨answering, waiting, _⟩ | ⟨was, _⟩
    · rw [Fails, ← heardChallenge_eq_error]
      rcases heard with ⟨challenge, heard, rfl⟩ | ⟨error, heard, rfl⟩
      · simp [Failed, heard]
      · simp [Failed, heard]
    · rw [Fails, ← heardReply_eq_error]
      simp [Failed]
    · refine iff_of_false ?_ ?_
      · rintro ⟨error, rfl⟩
        cases waiting
      · intro fails
        unfold Fails at fails
        split at fails
        · cases answering
        · obtain ⟨outcome, polled, rfl⟩ := Option.map_eq_some_iff.mp taken
          rcases pollRead_eq_some polled with ⟨_, _, rfl, _⟩ | ⟨_, rfl⟩ | ⟨_, rfl⟩
          · cases waiting
          · cases waiting
          · cases waiting
        · exact cut fails
    · exact absurd was cut

end ClientAuthenticate

end PortRedirect.Protocol

namespace PortRedirect.Client

open PortRedirect.Text
open PortRedirect.Protocol
open PortRedirect.Transition
open PortRedirect.Quic

namespace Session

/-- What makes the handler return an error: no control stream, or a failure of the
authentication. -/
def Fails (session : Session) : Event → Prop
  | .control event =>
      match session.stage with
      | .authenticate auth => auth.Fails event
      | _ => False
  | .accepted => False
  | .acceptFailed => session.stage = .acceptControl

def Failed (session : Session) : Prop := ∃ error, session.stage = .returned (.error error)

variable {sha512 : Bytes → Digest} {config : ClientAppData} {session next : Session}
  {event : Event}

private theorem failed_afterAuthenticate {auth : ClientAuthenticate} :
    (session.afterAuthenticate auth).Failed ↔ auth.Failed := by
  unfold afterAuthenticate
  split
  · simp [Failed, ClientAuthenticate.Failed]
  · simp [Failed, ClientAuthenticate.Failed, authenticationFailed]
  · rename_i notError
    simp only [Failed, ClientAuthenticate.Failed, reduceCtorEq, exists_false, false_iff]
    rintro ⟨error, rfl⟩
    exact notError error rfl

theorem failed_step (taken : session.step sha512 config event = some next) :
    next.Failed ↔ session.Failed ∨ session.Fails event := by
  rcases step_cases taken with
    ⟨cause, auth, after, rfl, stage, resumed, rfl⟩ |
      ⟨cause, client, after, rfl, elsewhere, spawned, moved, rfl⟩ |
      ⟨stage, ⟨rfl, rfl⟩ | ⟨rfl, rfl⟩⟩ | ⟨stage, ⟨rfl, rfl⟩ | ⟨rfl, rfl⟩⟩
  · rw [failed_afterAuthenticate, ClientAuthenticate.failed_iff resumed]
    simp [Failed, Fails, stage]
  · have idle : ¬ session.Fails (.control cause) := by
      unfold Fails
      cases stage : session.stage with
      | authenticate auth => exact (elsewhere auth stage).elim
      | _ => exact not_false
    simp [Failed, idle]
  · simp [Failed, Fails, stage]
  · simp [Failed, Fails, stage, authenticationFailed]
  · simp [Failed, Fails, stage]
  · simp [Failed, Fails, stage]

@[simp] theorem handler_result {result : Except Error Unit} :
    (handler sha512 config).result session = some result ↔
      session.stage = .returned result := by
  simp only [handler]
  split
  · rename_i stage
    simp [stage]
  · rename_i running
    exact iff_of_false (Option.some_ne_none _).symm (running result)

end Session

/-! What the functions that await the session return. -/

/-- The session that a call of `run_quic_client` has run or is running. -/
def clientSession : QuicClient Session → Option Session
  | .starting => none
  | .handling session => some session
  | .returned session _ => session

def clientResult : QuicClient Session → Option (Except Error Unit)
  | .returned _ result => some result
  | _ => none

namespace ClientProgram

def session : ClientProgram → Option Session
  | .starting => none
  | .running _ client => clientSession client
  | .ran client _ | .exited client _ _ => client.bind clientSession

/-- What `run_quic_client`, `run_client` and `main` have returned so far. -/
def results : ClientProgram → List (Except Error Unit)
  | .starting => []
  | .running _ client => (clientResult client).toList
  | .ran client result => (client.bind clientResult).toList ++ [result]
  | .exited client runClient exit =>
      (client.bind clientResult).toList ++ runClient.toList ++
        match exit with
        | .returned result => [result]
        | .panicked _ => []

/-- A failed session is an error of every function that has returned, and each returns
`Ok` only if the handler did. -/
structure Reported (program : ClientProgram) : Prop where
  failed : ∀ session ∈ program.session, session.Failed → ∀ result ∈ program.results,
    ∃ error, result = .error error
  returned : .ok () ∈ program.results → ∃ session ∈ program.session,
    session.stage = .returned (.ok ())

/-- What makes the session of the program fail. -/
def Fails : ClientProgram → ClientProgramEvent → Prop
  | .running _ (.handling session), .quic (.handler event) => session.Fails event
  | _, _ => False

def Failed (program : ClientProgram) : Prop := ∃ session ∈ program.session, session.Failed

/-- Every function returns `Ok` where the handler has returned, with an error or without. -/
def Told (program : ClientProgram) : Prop :=
  ∀ result ∈ program.results, (result = .ok () ↔
    ∃ session ∈ program.session, ∃ returned, session.stage = .returned returned)

variable {sha512 : Bytes → Digest} {environment : Environment}
  {surroundings : ClientSurroundings} {args : Args} {program next : ClientProgram}
  {event : ClientProgramEvent}

theorem told_start : Told .starting := by simp [Told, results]

theorem Told.iff_not_failed (told : program.Told) :
    program.Reported ↔ program.results = [] ∨ ¬ program.Failed := by
  constructor
  · rintro ⟨reported, _⟩
    by_contra wrong
    obtain ⟨some', session, member, error, stage⟩ := not_or.mp wrong |>.imp id not_not.mp
    obtain ⟨result, returned⟩ := List.exists_mem_of_ne_nil _ some'
    obtain ⟨error', rfl⟩ := reported session member ⟨error, stage⟩ result returned
    cases (told _ returned).mpr ⟨session, member, _, stage⟩
  · rintro (running | sound)
    · exact ⟨by simp [running], by simp [running]⟩
    · refine ⟨fun session member failed => (sound ⟨session, member, failed⟩).elim, ?_⟩
      intro returned
      obtain ⟨session, member, result, stage⟩ := (told _ returned).mp rfl
      cases result with
      | ok done => exact ⟨session, member, stage⟩
      | error error => exact (sound ⟨session, member, error, stage⟩).elim

theorem step_cases
    (taken : program.step sha512 environment surroundings args event = some next) :
    (program = .starting ∧ event = .started ∧
      ((∃ early : EarlyExit, next = .exited none none early.exit) ∨
        (∃ error, next = .ran none (.error error)) ∨
        ∃ config, next = .running config .starting)) ∨
    (∃ config client resumed after, program = .running config client ∧
      event = .quic resumed ∧
      client.step (Session.handler sha512 config.appData) config surroundings resumed =
        some after ∧
      next = .running config after) ∨
    (∃ config session result, program = .running config (.returned session result) ∧
      event = .resumed ∧ next = .ran (some (.returned session result)) result) ∨
    ∃ client result, program = .ran client result ∧ event = .resumed ∧
      next = .exited client (some result) (.returned result) := by
  have same (result : Except Error Unit) : (do result; return ()) = result := by
    cases result <;> rfl
  unfold step at taken
  split at taken
  · refine .inl ⟨rfl, rfl, ?_⟩
    split at taken
    · cases taken
      exact .inl ⟨_, rfl⟩
    · split at taken
      · cases taken
        exact .inr (.inl ⟨_, rfl⟩)
      · cases taken
        exact .inr (.inr ⟨_, rfl⟩)
  · obtain ⟨after, resumed, rfl⟩ := Option.map_eq_some_iff.mp taken
    exact .inr (.inl ⟨_, _, _, after, rfl, rfl, resumed, rfl⟩)
  · rw [same] at taken
    cases taken
    exact .inr (.inr (.inl ⟨_, _, _, rfl, rfl, rfl⟩))
  · rw [same] at taken
    cases taken
    exact .inr (.inr (.inr ⟨_, _, rfl, rfl, rfl⟩))
  · cases taken

theorem told_step (told : program.Told)
    (taken : program.step sha512 environment surroundings args event = some next) :
    next.Told := by
  rcases step_cases taken with
    ⟨rfl, rfl, ⟨early, rfl⟩ | ⟨error, rfl⟩ | ⟨config, rfl⟩⟩ |
      ⟨config, client, resumed, after, rfl, rfl, moved, rfl⟩ |
      ⟨config, session, result, rfl, rfl, rfl⟩ | ⟨client, result, rfl, rfl, rfl⟩
  · cases early <;> simp [Told, results, session, EarlyExit.exit]
  · simp [Told, results, session]
  · simp [Told, results, clientResult]
  · rcases QuicClient.step_cases moved with
      ⟨rfl, rfl, ⟨error, rfl⟩ | rfl⟩ |
        ⟨session, rfl, ⟨resumed, after, rfl, _, rfl⟩ | ⟨text, rfl, running, rfl⟩ |
          ⟨result, rfl, returned, rfl⟩⟩
    · simp [Told, results, session, clientResult, clientSession]
    · simp [Told, results, clientResult]
    · simp [Told, results, clientResult]
    · have unreturned : ∀ result, session.stage ≠ .returned result := by
        intro result stage
        rw [← Session.handler_result, running] at stage
        cases stage
      simp [Told, results, ClientProgram.session, clientResult, clientSession, unreturned]
    · rw [Session.handler_result] at returned
      simp [Told, results, ClientProgram.session, clientResult, clientSession, returned]
  · simpa [Told, results, ClientProgram.session, clientResult] using told
  · simpa [Told, results, ClientProgram.session] using told

theorem failed_step
    (taken : program.step sha512 environment surroundings args event = some next) :
    next.Failed ↔ program.Failed ∨ program.Fails event := by
  rcases step_cases taken with
    ⟨rfl, rfl, ⟨early, rfl⟩ | ⟨error, rfl⟩ | ⟨config, rfl⟩⟩ |
      ⟨config, client, resumed, after, rfl, rfl, moved, rfl⟩ |
      ⟨config, session, result, rfl, rfl, rfl⟩ | ⟨client, result, rfl, rfl, rfl⟩
  · simp [Failed, Fails, session]
  · simp [Failed, Fails, session]
  · simp [Failed, Fails, session, clientSession]
  · rcases QuicClient.step_cases moved with
      ⟨rfl, rfl, ⟨error, rfl⟩ | rfl⟩ |
        ⟨session, rfl, ⟨resumed, after, rfl, stepped, rfl⟩ | ⟨text, rfl, running, rfl⟩ |
          ⟨result, rfl, returned, rfl⟩⟩
    · simp [Failed, Fails, session, clientSession]
    · simp [Failed, Fails, ClientProgram.session, clientSession, Session.Failed, Session.handler]
    · simpa [Failed, Fails, ClientProgram.session, clientSession] using
        Session.failed_step stepped
    · simp [Failed, Fails, ClientProgram.session, clientSession]
    · simp [Failed, Fails, ClientProgram.session, clientSession]
  · simp [Failed, Fails, ClientProgram.session]
  · simp [Failed, Fails, ClientProgram.session]

/-- The functions report the session exactly in the runs in which it does not fail, or
has failed and is still awaited. -/
theorem reported_iff {events : List ClientProgramEvent} {final : ClientProgram}
    (ran : run (step sha512 environment surroundings args) .starting events =
      some final) :
    final.Reported ↔ final.results = [] ∨
      Along (step sha512 environment surroundings args)
        (fun program event => ¬ program.Fails event) .starting events := by
  have told := run_invariant Told (fun _ _ _ holds taken => told_step holds taken)
    told_start ran
  have sound := run_along_iff (fun program event => ¬ program.Fails event)
    (fun _ => True) (fun program => ¬ program.Failed) (fun _ _ _ _ _ => trivial)
    (fun program event next _ taken => by rw [failed_step taken, not_or])
    trivial ran
  have fresh : ¬ Failed .starting := by simp [Failed, session]
  rw [told.iff_not_failed, sound, and_iff_right fresh]

def sampleChallenge : String := challenge (Vector.replicate 32 0) 0

/-- The program until its session has answered the challenge. -/
def answered (sha512 : Bytes → Digest) (challenge : String) : List ClientProgramEvent :=
  [.started, .quic .established, .quic (.handler .accepted),
    .quic (.handler (.control (.received (utf8 (request challenge))))),
    .quic (.handler (.control (.sent (utf8 (ClientAuthenticate.response sha512 "key"
      challenge))))),
    .quic (.handler (.control .flushed))]

def sampleAppConfig : ClientAppData where
  connectionAuthPsk := "key"
  forwardDestination := "127.0.0.1:4433"

def sampleConfig : ClientConfig ClientAppData :=
  .createDefaultConfig ["home", ".config", "portredirect"]
    { ip := .v4 ⟨127, 0, 0, 1⟩, port := 4433 } { ip := .v4 ⟨127, 0, 0, 1⟩, port := 4433 }
    none none sampleAppConfig

theorem run_answered (randomBytes : Vector UInt8 32) (coarseUnixTime : UInt64) :
    run (step sha512 .loopback .bare sampleArgs) .starting
        (answered sha512 (challenge randomBytes coarseUnixTime)) =
      some (.running sampleConfig (.handling { stage := .authenticate .readReply })) := by
  have called : main .loopback sampleArgs = .ok
      { appConfig := sampleAppConfig
        tcpLocalAddr := { ip := .v4 ⟨127, 0, 0, 1⟩, port := 4433 }
        quicRemoteAddr := { ip := .v4 ⟨127, 0, 0, 1⟩, port := 4433 }
        metricsEnabled := false } := by
    rfl
  have configured : runClient .loopback
      { appConfig := sampleAppConfig
        tcpLocalAddr := { ip := .v4 ⟨127, 0, 0, 1⟩, port := 4433 }
        quicRemoteAddr := { ip := .v4 ⟨127, 0, 0, 1⟩, port := 4433 }
        metricsEnabled := false } = .ok sampleConfig := by
    rfl
  have connected : establish sampleConfig .bare = .ok () := by rfl
  have asked := pollRead_request randomBytes coarseUnixTime
  have heard := heardChallenge_request randomBytes coarseUnixTime
  have key : sampleConfig.appData.connectionAuthPsk = "key" := rfl
  simp [run, answered, step, QuicClient.step, Session.handler, Session.step, Session.control,
    Session.afterAuthenticate, ClientAuthenticate.start, ClientAuthenticate.step,
    challengeRequestBufferLength, Stream.pollFlush, called, configured, connected, asked, heard, key]

def accepted : List ClientProgramEvent :=
  [.quic (.handler (.control (.received (verdict true)))), .quic (.handler .acceptFailed),
    .quic .joined, .resumed, .resumed]

def rejected : List ClientProgramEvent :=
  [.quic (.handler (.control (.received (verdict false)))), .quic .joined, .resumed, .resumed]

/-- The program once its session has returned. -/
def exitedOk (session : Session) : ClientProgram :=
  .exited (some (.returned (some session) (.ok ()))) (some (.ok ())) (.returned (.ok ()))

private theorem run_accepted :
    run (step sha512 .loopback .bare sampleArgs)
        (.running sampleConfig (.handling { stage := .authenticate .readReply })) accepted =
      some (exitedOk { stage := .returned (.ok ()), keepalive := some {} }) := by
  have read : Stream.pollRead 16 (.received (verdict true)) =
      some (.read (verdict true)) := by
    rfl
  have happy : heardReply (verdict true) = .ok () := by decide +kernel
  simp [run, accepted, step, QuicClient.step, Session.handler, Session.step, Session.control,
    Session.afterAuthenticate, ClientAuthenticate.step, read, happy, exitedOk]

private theorem run_rejected :
    run (step sha512 .loopback .bare sampleArgs)
        (.running sampleConfig (.handling { stage := .authenticate .readReply })) rejected =
      some (exitedOk (Session.authenticationFailed {}
        "failed to authenticate against PR QUIC server")) := by
  have read : Stream.pollRead 16 (.received (verdict false)) =
      some (.read (verdict false)) := by
    rfl
  have unhappy : heardReply (verdict false) =
      .error (.message "Server rejected authentication: BAD") := by
    decide +kernel
  simp [run, rejected, step, QuicClient.step, Session.handler, Session.step, Session.control,
    Session.afterAuthenticate, Session.authenticationFailed, ClientAuthenticate.step, read,
    unhappy, exitedOk]

theorem reported_iff_accepted :
    ∃ final, run (step Crypto.Sha512.digest .loopback .bare sampleArgs) .starting
        (answered Crypto.Sha512.digest sampleChallenge ++ accepted) = some final ∧
      final.results = [.ok (), .ok (), .ok ()] ∧ final.Reported ∧
      Along (step Crypto.Sha512.digest .loopback .bare sampleArgs)
        (fun program event => ¬ program.Fails event) .starting
        (answered Crypto.Sha512.digest sampleChallenge ++ accepted) := by
  have ran : run (step Crypto.Sha512.digest .loopback .bare sampleArgs) .starting
      (answered Crypto.Sha512.digest sampleChallenge ++ accepted) =
        some (exitedOk { stage := .returned (.ok ()), keepalive := some {} }) := by
    rw [sampleChallenge, run_append (run_answered _ _), run_accepted]
  have reported : Reported
      (exitedOk { stage := .returned (.ok ()), keepalive := some {} }) := by
    constructor
    · rintro session ⟨⟩ ⟨error, stage⟩
      cases stage
    · intro _
      exact ⟨_, rfl, rfl⟩
  refine ⟨_, ran, rfl, reported, ?_⟩
  exact ((reported_iff ran).mp reported).resolve_left (by simp [results, exitedOk])

/-- The server rejects the response, and everything returns `Ok`. -/
theorem not_reported_rejected :
    ∃ final, run (step Crypto.Sha512.digest .loopback .bare sampleArgs) .starting
        (answered Crypto.Sha512.digest sampleChallenge ++ rejected) = some final ∧
      final.Failed ∧ final.results = [.ok (), .ok (), .ok ()] ∧ ¬ final.Reported := by
  have ran : run (step Crypto.Sha512.digest .loopback .bare sampleArgs) .starting
      (answered Crypto.Sha512.digest sampleChallenge ++ rejected) =
        some (exitedOk (Session.authenticationFailed {}
          "failed to authenticate against PR QUIC server")) := by
    rw [sampleChallenge, run_append (run_answered _ _), run_rejected]
  refine ⟨_, ran, ?_, rfl, ?_⟩
  · exact ⟨_, rfl, _, rfl⟩
  · intro reported
    obtain ⟨session, ⟨⟩, stage⟩ := reported.returned (by simp [results, exitedOk])
    cases stage

end ClientProgram

end PortRedirect.Client
