import PortRedirect.Protocol.KeepaliveTranscript
import PortRedirect.Server.ClientHandler

namespace PortRedirect.Server

open PortRedirect.Text
open PortRedirect.Stream
open PortRedirect.Protocol

/-! What a session owes its surroundings in each of its stages. -/

namespace Session

/-- Nothing is closed or cancelled before the control loop ends, and afterwards
everything is, on every path. -/
def Orderly (session : Session) : Prop :=
  match session.stage with
  | .openControl | .authenticate _ _ | .configure _ | .bind _ =>
      session.closes = [] ∧ session.cancelled = false ∧ session.listener = none
  | .controlLoop _ =>
      session.closes = [] ∧ session.cancelled = false ∧
        ∃ listener, session.listener = some listener ∧ listener.Accounted false
  | .joinListener =>
      session.closes.length = 1 ∧ session.cancelled = true ∧
        ∃ listener, session.listener = some listener ∧ listener.Accounted true
  | .returned _ =>
      session.closes.length = 1 ∧
        ∀ listener, session.listener = some listener →
          session.cancelled = true ∧ listener.finished = true ∧ listener.Accounted true

variable {setting : Setting} {session next : Session}

theorem orderly_start : Orderly {} := ⟨rfl, rfl, rfl⟩

theorem Orderly.unclosed (holds : session.Orderly) (early : session.gating = true) :
    session.closes = [] := by
  unfold gating at early
  unfold Orderly at holds
  split at early
  · rename_i stage
    simp only [stage] at holds
    exact holds.1
  · rename_i stage
    simp only [stage] at holds
    exact holds.1
  · rename_i stage
    simp only [stage] at holds
    exact holds.1
  · cases early

private theorem orderly_fail (unclosed : session.closes = [])
    (unbound : session.listener = none) (reason : String) (error : Error) :
    (session.fail reason error).Orderly := by
  refine ⟨by simp [fail, close, unclosed], ?_⟩
  intro listener spawned
  simp only [fail, close, unbound] at spawned
  cases spawned

private theorem orderly_afterAuthenticate (unclosed : session.closes = [])
    (active : session.cancelled = false) (unbound : session.listener = none)
    (challenge : String) (auth : ServerAuthenticate) :
    (session.afterAuthenticate setting challenge auth).Orderly := by
  unfold afterAuthenticate
  split
  · exact ⟨unclosed, active, unbound⟩
  · exact orderly_fail unclosed unbound _ _
  · exact ⟨unclosed, active, unbound⟩

private theorem orderly_authenticate (unclosed : session.closes = [])
    (active : session.cancelled = false) (unbound : session.listener = none) :
    (session.authenticate setting).Orderly := by
  unfold authenticate
  split
  · exact orderly_fail unclosed unbound _ _
  · exact orderly_afterAuthenticate unclosed active unbound _ _

private theorem orderly_afterConfigure (unclosed : session.closes = [])
    (active : session.cancelled = false) (unbound : session.listener = none)
    (config : ConfigureQuicClient) :
    (session.afterConfigure setting config).Orderly := by
  unfold afterConfigure
  split
  · unfold configured
    split
    · exact ⟨unclosed, active, unbound⟩
    · exact orderly_fail unclosed unbound _ _
  · exact orderly_fail unclosed unbound _ _
  · exact ⟨unclosed, active, unbound⟩

private theorem orderly_afterLoop {listener : TcpListener} {loop : ControlChannelLoop}
    (unclosed : session.closes = []) (active : session.cancelled = false)
    (spawned : session.listener = some listener) (accounted : listener.Accounted false)
    (cancels : ∀ exit, loop = .returned exit → loop.cancelsToken = true) :
    (session.afterLoop loop).Orderly := by
  unfold afterLoop
  split
  · rename_i exit
    refine ⟨by simp [close, unclosed], ?_, listener, spawned, accounted.close⟩
    simp [active, cancels exit rfl]
  · exact ⟨unclosed, active, listener, spawned, accounted⟩

private theorem orderly_listener {event : TcpListener.Event}
    {listener moved : TcpListener} (holds : session.Orderly)
    (spawned : session.listener = some listener)
    (taken : listener.step session.cancelled session.closed event = some moved) :
    Orderly { session with listener := some moved } := by
  unfold Orderly at holds ⊢
  cases stage : session.stage with
  | openControl | authenticate challenge auth | configure config | bind port =>
      simp only [stage] at holds
      rw [holds.2.2] at spawned
      cases spawned
  | controlLoop loop =>
      simp only [stage] at holds
      obtain ⟨unclosed, active, same, spawned', accounted⟩ := holds
      rw [spawned] at spawned'
      cases spawned'
      have opened : session.closed = false := by simp [closed, unclosed]
      rw [opened] at taken
      exact ⟨unclosed, active, moved, rfl, accounted.step taken⟩
  | joinListener =>
      simp only [stage] at holds
      obtain ⟨once, cancelled, same, spawned', accounted⟩ := holds
      rw [spawned] at spawned'
      cases spawned'
      have shut : session.closed = true := by
        cases closes : session.closes with
        | nil => simp [closes] at once
        | cons reason reasons => simp [closed, closes]
      rw [shut] at taken
      exact ⟨once, cancelled, moved, rfl, accounted.step taken⟩
  | returned result =>
      simp only [stage] at holds
      obtain ⟨_, finished, _⟩ := holds.2 listener spawned
      unfold TcpListener.finished at finished
      unfold TcpListener.step at taken
      split at finished
      · rename_i phase
        simp [phase] at taken
      · cases finished

theorem orderly_step {event : Event} (holds : session.Orderly)
    (taken : step setting session event = some next) : next.Orderly := by
  have orderly := holds
  unfold Orderly at orderly
  rcases step_cases taken with
    ⟨stage, opening⟩ | ⟨challenge, auth, cause, stage, _, authenticating⟩ |
      ⟨config, cause, stage, _, configuring⟩ | ⟨requested, stage, binding⟩ |
      ⟨loop, cause, after, stage, _, allowed, resumed, rfl⟩ |
      ⟨listener, cause, moved, _, spawned, resumed, rfl⟩ |
      ⟨listener, result, stage, _, spawned, phase, rfl⟩
  · simp only [stage] at orderly
    obtain ⟨unclosed, active, unbound⟩ := orderly
    rcases opening with ⟨_, rfl⟩ | ⟨_, rfl⟩ | ⟨reason, _, rfl⟩
    · exact orderly_fail unclosed unbound _ _
    · exact orderly_authenticate unclosed active unbound
    · exact orderly_fail unclosed unbound _ _
  · simp only [stage] at orderly
    obtain ⟨unclosed, active, unbound⟩ := orderly
    rcases authenticating with ⟨_, rfl⟩ | ⟨after, _, rfl⟩
    · exact orderly_fail unclosed unbound _ _
    · exact orderly_afterAuthenticate unclosed active unbound _ _
  · simp only [stage] at orderly
    obtain ⟨unclosed, active, unbound⟩ := orderly
    rcases configuring with ⟨_, rfl⟩ | ⟨after, _, rfl⟩
    · exact orderly_fail unclosed unbound _ _
    · exact orderly_afterConfigure unclosed active unbound _
  · simp only [stage] at orderly
    obtain ⟨unclosed, active, unbound⟩ := orderly
    rcases binding with ⟨port, _, _, rfl⟩ | ⟨_, rfl⟩
    · exact ⟨unclosed, active, _, rfl, TcpListener.Accounted.start port false⟩
    · exact orderly_fail unclosed unbound _ _
  · simp only [stage] at orderly
    obtain ⟨unclosed, active, listener, spawned, accounted⟩ := orderly
    refine orderly_afterLoop unclosed active spawned accounted ?_
    -- The token is not cancelled yet, so the loop cannot end by its cancellation.
    rintro exit rfl
    cases exit with
    | cancelled =>
        obtain ⟨_, cancelled⟩ := ControlChannelLoop.step_cause resumed
        exact absurd ⟨cancelled, active⟩ allowed
    | _ => rfl
  · exact orderly_listener holds spawned resumed
  · simp only [stage] at orderly
    obtain ⟨once, cancelled, same, spawned', accounted⟩ := orderly
    rw [spawned] at spawned'
    cases spawned'
    refine ⟨once, ?_⟩
    intro last joined
    rw [spawned] at joined
    cases joined
    exact ⟨cancelled, by simp [TcpListener.finished, phase], accounted⟩

end Session

end PortRedirect.Server
