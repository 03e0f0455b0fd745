import PortRedirect.Server.SessionGate

namespace PortRedirect.Server

open PortRedirect.Text
open PortRedirect.Stream
open PortRedirect.Protocol
open PortRedirect.Transition

/-! What a session leaves behind when it returns. -/

namespace Session

variable {setting : Setting} {session next : Session}

private theorem orderly_run {events : List Event}
    (ran : run (step setting) {} events = some session) : session.Orderly := by
  refine run_invariant Orderly ?_ orderly_start ran
  exact fun _ _ _ orderly taken => orderly_step orderly taken

theorem Orderly.closes_le (orderly : session.Orderly) : session.closes.length ≤ 1 := by
  unfold Orderly at orderly
  split at orderly
  all_goals
    obtain ⟨closes, _⟩ := orderly
    simp [closes]

theorem Orderly.accounted (orderly : session.Orderly) {listener : TcpListener}
    (spawned : session.listener = some listener) :
    ∃ closed, listener.Accounted closed := by
  unfold Orderly at orderly
  cases stage : session.stage with
  | openControl | authenticate challenge auth | configure config | bind port =>
      simp only [stage] at orderly
      rw [orderly.2.2] at spawned
      cases spawned
  | controlLoop loop | joinListener =>
      simp only [stage] at orderly
      obtain ⟨_, _, same, spawned', accounted⟩ := orderly
      rw [spawned] at spawned'
      cases spawned'
      exact ⟨_, accounted⟩
  | returned result =>
      simp only [stage] at orderly
      exact ⟨_, (orderly.2 listener spawned).2.2⟩

private theorem finished_phase {listener : TcpListener} (finished : listener.finished = true) :
    TcpListener.unsettled listener.phase = 0 ∧ TcpListener.refusing listener.phase = 0 := by
  unfold TcpListener.finished at finished
  split at finished
  · rename_i phase
    rw [phase]
    exact ⟨rfl, rfl⟩
  · cases finished

private theorem returns_by_join {event : Event} {result : Except Error Unit}
    {listener : TcpListener} (orderly : session.Orderly)
    (taken : step setting session event = some next)
    (spawned : session.listener = some listener)
    (running : ∀ result, session.stage ≠ .returned result)
    (ended : next.stage = .returned result) :
    session.stage = .joinListener ∧ listener.finished = true := by
  unfold Orderly at orderly
  rcases step_cases taken with
    ⟨stage, _⟩ | ⟨challenge, auth, cause, stage, _⟩ | ⟨config, cause, stage, _⟩ |
      ⟨requested, stage, _⟩ | ⟨loop, cause, after, stage, _, _, _, rfl⟩ |
      ⟨_, cause, moved, _, _, _, rfl⟩ | ⟨_, finished, stage, _, same, phase, rfl⟩
  · simp only [stage, spawned] at orderly
    cases orderly.2.2
  · simp only [stage, spawned] at orderly
    cases orderly.2.2
  · simp only [stage, spawned] at orderly
    cases orderly.2.2
  · simp only [stage, spawned] at orderly
    cases orderly.2.2
  · unfold afterLoop at ended
    split at ended <;> cases ended
  · exact absurd ended (running result)
  · rw [spawned] at same
    cases same
    exact ⟨stage, by simp [TcpListener.finished, phase]⟩

/-- On every path, in every order of the two tasks' steps. -/
theorem session_teardown {events : List Event}
    (ran : run (step setting) {} events = some session) :
    session.closes.length ≤ 1 ∧
    (∀ result, session.stage = .returned result →
      session.closes.length = 1 ∧ session.listening = none ∧
      ∀ listener, session.listener = some listener →
        session.cancelled = true ∧ listener.finished = true ∧
          listener.tcpConnectionsAccepted = listener.settled.length ∧
          listener.quicDataStreamOpeningErrors = listener.refused) ∧
    (∀ listener, session.listener = some listener →
      (∀ connection ∈ listener.settled, connection.late = true →
        connection.outcome = .shutDown) ∧
      listener.tcpConnectionsAccepted =
        listener.settled.length + TcpListener.unsettled listener.phase ∧
      listener.quicDataStreamOpeningErrors =
        listener.refused + TcpListener.refusing listener.phase) ∧
    (∀ event next result listener, step setting session event = some next →
      session.listener = some listener → (∀ result, session.stage ≠ .returned result) →
      next.stage = .returned result →
        session.cancelled = true ∧ listener.finished = true ∧
          session.closes.length = 1) := by
  have orderly := orderly_run ran
  refine ⟨orderly.closes_le, ?_, ?_, ?_⟩
  · intro result ended
    have returned := orderly
    simp only [Orderly, ended] at returned
    obtain ⟨once, joined⟩ := returned
    refine ⟨once, ?_, ?_⟩
    · unfold listening
      split
      · rfl
      · rename_i listener spawned
        exact if_pos (joined listener spawned).2.1
    · intro listener spawned
      obtain ⟨cancelled, finished, accounted⟩ := joined listener spawned
      obtain ⟨unsettled, refusing⟩ := finished_phase finished
      refine ⟨cancelled, finished, ?_, ?_⟩
      · rw [accounted.accepted, unsettled, Nat.add_zero]
      · rw [accounted.errors, refusing, Nat.add_zero]
  · intro listener spawned
    obtain ⟨_, accounted⟩ := orderly.accounted spawned
    exact ⟨accounted.late, accounted.accepted, accounted.errors⟩
  · intro event next result listener taken spawned running ended
    obtain ⟨stage, finished⟩ := returns_by_join orderly taken spawned running ended
    simp only [Orderly, stage] at orderly
    exact ⟨orderly.2.1, finished, orderly.1⟩

def byeEvents : List Event :=
  gateEvents sampleChallenge sampleResponse 0 80 ++
    [.bound 80, .listener (.localAddr true), .listener .accepted,
      .control (.received (utf8 "B")), .control (.received (utf8 "Y")),
      .control (.received (utf8 "E")), .control (.received (utf8 "\n")),
      .listener .openFailed, .listener .shutdown, .listener .accepted,
      .listener .openFailed, .listener .shutdown, .listener .cancelled, .joined]

def returnedOk (session : Session) : Bool :=
  match session.stage with
  | .returned (.ok ()) => true
  | _ => false

theorem session_teardown_byeEvents :
    ∃ session, run (step (sampleSetting [.single 80])) {} byeEvents = some session ∧
      session.stage = .returned (.ok ()) ∧ session.closes.length = 1 ∧
      session.listening = none := by
  have allowed : allows (sampleSetting [.single 80]).config.localBindPorts
      (fromBeBytes 0 80) = true := by decide
  have gate := run_of_runOn
    (run_gateEvents (sample_drawn [.single 80]) (sample_isResponse _) allowed [])
  have runs : (run (step (sampleSetting [.single 80])) {} byeEvents).map returnedOk =
      some true := by
    rw [byeEvents, run_append gate]
    decide +kernel
  obtain ⟨session, ran, ended⟩ := Option.map_eq_some_iff.mp runs
  have stage : session.stage = .returned (.ok ()) := by
    unfold returnedOk at ended
    split at ended
    · assumption
    · cases ended
  obtain ⟨_, returned, _⟩ := session_teardown ran
  obtain ⟨once, unbound, _⟩ := returned _ stage
  exact ⟨session, ran, stage, once, unbound⟩

end Session

end PortRedirect.Server
