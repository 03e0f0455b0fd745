import PortRedirect.Interop.ControlStream
import PortRedirect.Server.SessionGate
import PortRedirect.Server.SessionHistory
import PortRedirect.Transition.Timeout

namespace PortRedirect

open PortRedirect.Text
open PortRedirect.Stream
open PortRedirect.Protocol
open PortRedirect.Transition

/-! How long a client can hold a session: by the timeouts that the handler awaits in,
and by what the client has sent to be given more time. -/

namespace Protocol

/-- One line of the control loop may take this long. -/
def lineTimeout : Nat := connectionKeepaliveInterval + connectionKeepaliveReadTimeout

namespace ControlChannelLoop

/-- How many lines the loop has waited for, by what it has heard. -/
def linesAwaited : ControlChannelLoop → Bytes → Nat
  | .writePong _, heard | .flushPong, heard => leading pingMessage heard
  | .readLine _, heard | .returned _, heard => leading pingMessage heard + 1

/-- A step begins to wait for the next line. -/
def turnsToLine : ControlChannelLoop → ControlChannelLoop → Bool
  | .flushPong, .readLine _ => true
  | _, _ => false

theorem linesAwaited_le (loop : ControlChannelLoop) (heard : Bytes) :
    loop.linesAwaited heard ≤ leading pingMessage heard + 1 := by
  cases loop with
  | readLine buf | returned exit => exact Nat.le_refl _
  | writePong rest | flushPong => exact Nat.le_succ _

private theorem leading_of_line {buf : Bytes} (clean : 10 ∉ buf) (count : Nat) :
    leading pingMessage (repeated pingMessage count ++ buf) = count := by
  have other : ¬ pingMessage <+: buf := fun ping =>
    clean (ping.subset isLine_pingMessage.mem)
  rw [leading_append isLine_pingMessage.ne_nil,
    leading_eq_zero isLine_pingMessage.ne_nil other, Nat.add_zero]

/-- Every line but the first that the loop waits for was bought with a PING. -/
theorem linesAwaited_step {loop next : ControlChannelLoop} {event : Event}
    {heard sent : Bytes} (holds : loop.Transcript heard sent)
    (taken : step loop event = some next) :
    loop.linesAwaited heard + (loop.turnsToLine next).toNat ≤
      next.linesAwaited (heard ++ event.input) := by
  have more : leading pingMessage heard ≤ leading pingMessage (heard ++ event.input) :=
    leading_mono isLine_pingMessage.ne_nil (List.prefix_append _ _)
  have after := transcript_step holds taken
  rcases step_cases taken with
    ⟨buf, rfl, ⟨byte, rfl, rfl⟩ | ⟨ended, rfl⟩⟩ | ⟨⟨rest, rfl⟩, _, ⟨tail, rfl⟩ | rfl⟩ |
      ⟨rfl, _, rfl⟩ | ⟨exit, _, rfl⟩
  · exact Nat.succ_le_succ more
  · obtain ⟨count, rfl, clean, rfl⟩ := holds
    obtain ⟨answered, pings, pongs⟩ := after
    have silent : event.output = [] := by
      rcases ended with rfl | rfl <;> rfl
    have sizes := congrArg List.length pongs
    rw [silent, List.append_nil, ← repeated_succ, length_repeated, length_repeated] at sizes
    have once : answered = count + 1 :=
      (Nat.mul_right_cancel (by decide) sizes).symm
    have whole := leading_of_line List.not_mem_nil answered
    rw [List.append_nil, ← pings] at whole
    simp only [linesAwaited, turnsToLine, Bool.toNat_false, leading_of_line clean, whole]
    omega
  · exact more
  · exact more
  · exact Nat.succ_le_succ more
  · have bound := loop.linesAwaited_le heard
    have still : loop.turnsToLine (.returned exit) = false := by
      cases loop <;> rfl
    rw [still, Bool.toNat_false, Nat.add_zero]
    exact bound.trans (Nat.succ_le_succ more)

end ControlChannelLoop

end Protocol

namespace Server

namespace Session

open Interop.ControlStream (entersTimeout)

variable {setting : Setting} {challenge : String} {session next : Session} {event : Event}

/-- The stages that the handler awaits in under a timeout. -/
def guarded (session : Session) : Bool :=
  match session.stage with
  | .openControl | .authenticate _ _ | .configure _ | .controlLoop (.readLine _) => true
  | _ => false

theorem guarded_step (taken : step setting session event = some next)
    (awaits : next.guarded = true) :
    session.guarded = true ∨ (entersTimeout session next).isSome = true := by
  rcases step_cases taken with
    ⟨stage, _⟩ | ⟨_, _, _, stage, _⟩ | ⟨_, _, stage, _⟩ | ⟨requested, stage, binding⟩ |
      ⟨loop, cause, after, stage, rfl, _, resumed, rfl⟩ |
      ⟨listener, cause, moved, rfl, spawned, resumed, rfl⟩ |
      ⟨listener, result, stage, rfl, spawned, _, rfl⟩
  · exact .inl (by simp [guarded, stage])
  · exact .inl (by simp [guarded, stage])
  · exact .inl (by simp [guarded, stage])
  · rcases binding with ⟨port, rfl, _, rfl⟩ | ⟨rfl, rfl⟩
    · exact .inr (by simp [entersTimeout, stage, bound, ControlChannelLoop.start])
    · simp [guarded, bindFailed, fail] at awaits
  · rcases ControlChannelLoop.step_cases resumed with
      ⟨buf, rfl, _⟩ | ⟨⟨rest, rfl⟩, _, ⟨tail, rfl⟩ | rfl⟩ | ⟨rfl, _, rfl⟩ | ⟨exit, _, rfl⟩
    · exact .inl (by simp [guarded, stage])
    · simp [guarded, afterLoop] at awaits
    · simp [guarded, afterLoop] at awaits
    · exact .inr (by simp [entersTimeout, stage, afterLoop])
    · simp [guarded, afterLoop] at awaits
  · exact .inl awaits
  · simp [guarded] at awaits

variable (setting) in
def timeouts : Timeouts (step setting) where
  guarded := guarded
  enters := entersTimeout
  elapsed event := decide (event = .control .elapsed)
  guarded_step := guarded_step

/-- The handler's clock starts with the timeout around the authentication. -/
def timed : Timed Session := .start {} authenticationTimeout

/-- How much time a session may have been given, by what it has heard. -/
def allowance (session : Session) (heard : Bytes) : Nat :=
  match session.stage with
  | .openControl | .authenticate _ _ => authenticationTimeout
  | .configure _ | .bind _ => authenticationTimeout + configurationTimeout
  | .controlLoop loop =>
      authenticationTimeout + configurationTimeout +
        lineTimeout * loop.linesAwaited (heard.drop 141)
  -- whatever it was given before it ended
  | .joinListener | .returned _ =>
      authenticationTimeout + configurationTimeout +
        lineTimeout * (leading pingMessage (heard.drop 141) + 1)

theorem authenticationTimeout_le_allowance (session : Session) (heard : Bytes) :
    authenticationTimeout ≤ session.allowance heard := by
  unfold allowance
  split <;> omega

theorem allowance_le (session : Session) (heard : Bytes) :
    session.allowance heard ≤ authenticationTimeout + configurationTimeout +
      lineTimeout * (leading pingMessage (heard.drop 141) + 1) := by
  unfold allowance
  split
  · omega
  · omega
  · omega
  · omega
  · rename_i loop _
    have lines := loop.linesAwaited_le (heard.drop 141)
    exact Nat.add_le_add_left (Nat.mul_le_mul_left lineTimeout lines) _
  · exact Nat.le_refl _
  · exact Nat.le_refl _

private theorem granted_afterAuthenticate {drawn : String} {auth after : ServerAuthenticate}
    (stage : session.stage = .authenticate drawn auth) (heard : Bytes) :
    authenticationTimeout +
        (entersTimeout session (session.afterAuthenticate setting drawn after)).getD 0 ≤
      (session.afterAuthenticate setting drawn after).allowance heard := by
  unfold afterAuthenticate
  split
  · simp [entersTimeout, stage, allowance]
  · simp [entersTimeout, stage, allowance, authenticationFailed, fail, Nat.add_assoc]
  · simp [entersTimeout, stage, allowance]

private theorem granted_afterConfigure (session : Session) (after : ConfigureQuicClient)
    (heard : Bytes) :
    authenticationTimeout + configurationTimeout ≤
      (session.afterConfigure setting after).allowance heard := by
  unfold afterConfigure configured
  split
  · split
    · exact Nat.le_refl _
    · exact Nat.le_add_right _ _
  · exact Nat.le_add_right _ _
  · exact Nat.le_refl _

private theorem enters_afterLoop {loop after : ControlChannelLoop}
    (stage : session.stage = .controlLoop loop) :
    (entersTimeout session (session.afterLoop after)).getD 0 =
      lineTimeout * (loop.turnsToLine after).toNat := by
  cases loop <;> cases after <;>
    simp [entersTimeout, stage, afterLoop, ControlChannelLoop.turnsToLine, lineTimeout]

private theorem allowance_afterLoop (session : Session) (after : ControlChannelLoop)
    (heard : Bytes) :
    (session.afterLoop after).allowance heard =
      authenticationTimeout + configurationTimeout +
        lineTimeout * after.linesAwaited (heard.drop 141) := by
  cases after <;> rfl

/-- A step gives no more time than what it has heard allows. -/
theorem allowance_step {heard sent : Bytes}
    (holds : Transcript setting challenge True session heard sent)
    (taken : step setting session event = some next) :
    session.allowance heard + (entersTimeout session next).getD 0 ≤
      next.allowance (heard ++ event.input) := by
  rcases step_cases taken with
    ⟨stage, _⟩ | ⟨drawn, auth, cause, stage, rfl, authenticating⟩ |
      ⟨config, cause, stage, rfl, configuring⟩ | ⟨requested, stage, binding⟩ |
      ⟨loop, cause, after, stage, rfl, _, resumed, rfl⟩ |
      ⟨listener, cause, moved, rfl, spawned, resumed, rfl⟩ |
      ⟨listener, result, stage, rfl, spawned, _, rfl⟩
  · have begins : session.allowance heard = authenticationTimeout := by
      simp only [allowance, stage]
    have still : entersTimeout session next = none := by
      simp [entersTimeout, stage]
    rw [begins, still]
    exact next.authenticationTimeout_le_allowance _
  · have begins : session.allowance heard = authenticationTimeout := by
      simp only [allowance, stage]
    rw [begins]
    rcases authenticating with ⟨rfl, rfl⟩ | ⟨after, resumed, rfl⟩
    · have still : entersTimeout session (session.authenticationTimedOut setting) = none := by
        simp [entersTimeout, stage, authenticationTimedOut, fail]
      rw [still]
      exact authenticationTimeout_le_allowance _ _
    · exact granted_afterAuthenticate stage _
  · have configures : session.allowance heard =
        authenticationTimeout + configurationTimeout := by
      simp only [allowance, stage]
    have still : entersTimeout session next = none := by
      simp [entersTimeout, stage]
    rw [configures, still, Option.getD_none, Nat.add_zero]
    rcases configuring with ⟨rfl, rfl⟩ | ⟨after, resumed, rfl⟩
    · exact Nat.le_add_right _ _
    · exact granted_afterConfigure session after _
  · have binds : session.allowance heard =
        authenticationTimeout + configurationTimeout := by
      simp only [allowance, stage]
    rw [binds]
    rcases binding with ⟨port, rfl, _, rfl⟩ | ⟨rfl, rfl⟩
    · have entered : entersTimeout session (session.bound port) = some lineTimeout := by
        simp [entersTimeout, stage, bound, ControlChannelLoop.start, lineTimeout]
      rw [entered, Option.getD_some]
      exact Nat.add_le_add_left (Nat.le_mul_of_pos_right _ (Nat.succ_pos _)) _
    · have still : entersTimeout session (session.bindFailed setting requested) = none := by
        simp [entersTimeout, stage, bindFailed, fail]
      rw [still]
      exact Nat.le_add_right _ _
  -- behind the gate only the loop's own lines count
  · simp only [Session.Transcript, stage] at holds
    obtain ⟨port, front, rest, pongs, ⟨_, gate, _⟩, rfl, rfl, heard⟩ := holds
    have lines := ControlChannelLoop.linesAwaited_step heard resumed
    have looping : session.allowance (front ++ rest) =
        authenticationTimeout + configurationTimeout +
          lineTimeout * loop.linesAwaited rest := by
      simp only [allowance, stage, List.drop_left' gate.length_eq]
    rw [looping, enters_afterLoop stage, allowance_afterLoop, List.append_assoc,
      List.drop_left' gate.length_eq, Nat.add_assoc, ← Nat.mul_add]
    exact Nat.add_le_add_left (Nat.mul_le_mul_left lineTimeout lines) _
  · have still : entersTimeout session { session with listener := some moved } = none := by
      unfold entersTimeout
      split <;> simp_all
    have silent : Event.input (.listener cause) = [] := rfl
    rw [still, silent, List.append_nil]
    exact Nat.le_refl _
  · have still : entersTimeout session { session with stage := .returned result } = none := by
      simp [entersTimeout, stage]
    have silent : Event.input .joined = [] := rfl
    rw [still, silent, List.append_nil]
    simp [allowance, stage]

theorem binds_grow (taken : step setting session event = some next) :
    session.binds <+: next.binds := by
  rcases step_cases taken with
    ⟨stage, opening⟩ | ⟨drawn, auth, cause, stage, rfl, authenticating⟩ |
      ⟨config, cause, stage, rfl, configuring⟩ | ⟨requested, stage, binding⟩ |
      ⟨loop, cause, after, stage, rfl, _, resumed, rfl⟩ |
      ⟨listener, cause, moved, rfl, spawned, resumed, rfl⟩ |
      ⟨listener, result, stage, rfl, spawned, _, rfl⟩
  · rcases opening with ⟨_, rfl⟩ | ⟨_, rfl⟩ | ⟨reason, _, rfl⟩
    · exact List.prefix_rfl
    · unfold authenticate afterAuthenticate
      split
      · exact List.prefix_rfl
      · split <;> exact List.prefix_rfl
    · exact List.prefix_rfl
  · rcases authenticating with ⟨_, rfl⟩ | ⟨after, resumed, rfl⟩
    · exact List.prefix_rfl
    · unfold afterAuthenticate
      split <;> exact List.prefix_rfl
  · rcases configuring with ⟨_, rfl⟩ | ⟨after, resumed, rfl⟩
    · exact List.prefix_rfl
    · unfold afterConfigure configured
      split
      · split
        · exact List.prefix_append _ _
        · exact List.prefix_rfl
      · exact List.prefix_rfl
      · exact List.prefix_rfl
  · rcases binding with ⟨port, _, _, rfl⟩ | ⟨_, rfl⟩
    · exact List.prefix_rfl
    · exact List.prefix_rfl
  · unfold afterLoop
    split <;> exact List.prefix_rfl
  · exact List.prefix_rfl
  · exact List.prefix_rfl

/-- A timeout is entered for the configuration or for a line. -/
theorem entersTimeout_eq_some {duration : Nat}
    (entered : entersTimeout session next = some duration) :
    (∃ drawn auth config, session.stage = .authenticate drawn auth ∧
      next.stage = .configure config ∧ duration = configurationTimeout) ∨
    ∃ loop, next.stage = .controlLoop loop := by
  unfold entersTimeout at entered
  split at entered
  · rename_i drawn auth config before after
    exact .inl ⟨drawn, auth, config, before, after, (Option.some.inj entered).symm⟩
  · rename_i after
    exact .inr ⟨_, after⟩
  · rename_i after
    exact .inr ⟨_, after⟩
  · cases entered

/-- Who is given more time than for the authentication has sent the response. -/
theorem answered_of_entered {received sent : Bytes} {duration : Nat}
    (holds : Transcript setting challenge True next received sent)
    (entered : entersTimeout session next = some duration) :
    ∃ response, response <+: received ∧
      IsResponse setting.sha512 challenge setting.config.connectionAuthPsk response := by
  rcases entersTimeout_eq_some entered with ⟨_, _, config, _, stage, _⟩ | ⟨loop, stage⟩
  · simp only [Session.Transcript, stage] at holds
    obtain ⟨_, _, _, response, message, rfl, valid, _⟩ := holds
    exact ⟨response, List.prefix_append _ _, valid⟩
  · simp only [Session.Transcript, stage] at holds
    obtain ⟨port, front, rest, pongs, ⟨_, ⟨response, message, rfl, valid, _⟩, _⟩, rfl, _⟩ :=
      holds
    rw [List.append_assoc]
    exact ⟨response, List.prefix_append _ _, valid⟩

/-- What the timeouts entered so far add up to, and what each of them took. -/
structure Granted (setting : Setting) (challenge : String) (heard : Bytes)
    (session : Session) (granted : Nat) : Prop where
  within : granted ≤ session.allowance heard
  authenticated : authenticationTimeout < granted → ∃ response, response <+: heard ∧
    IsResponse setting.sha512 challenge setting.config.connectionAuthPsk response
  opened : authenticationTimeout + configurationTimeout < granted → session.binds ≠ []

theorem granted_start : Granted setting challenge [] {} authenticationTimeout :=
  ⟨Nat.le_refl _, fun more => absurd more (Nat.lt_irrefl _),
    fun more => absurd more (Nat.not_lt.mpr (Nat.le_add_right _ _))⟩

theorem granted_step {heard sent : Bytes} {granted : Nat}
    (drawn : setting.challenge = .ok challenge)
    (holds : Transcript setting challenge True session heard sent)
    (paid : Granted setting challenge heard session granted)
    (taken : step setting session event = some next) :
    Granted setting challenge (heard ++ event.input) next
      (granted + (entersTimeout session next).getD 0) := by
  have after := transcript_step drawn holds taken fun _ => trivial
  rw [party_input, party_output] at after
  refine ⟨(Nat.add_le_add_right paid.within _).trans (allowance_step holds taken), ?_, ?_⟩
  · intro more
    by_cases before : authenticationTimeout < granted
    · obtain ⟨response, front, valid⟩ := paid.authenticated before
      exact ⟨response, front.trans (List.prefix_append _ _), valid⟩
    · cases entered : entersTimeout session next with
      | none =>
          rw [entered] at more
          exact absurd more before
      | some duration => exact answered_of_entered after entered
  · intro more
    by_cases before : authenticationTimeout + configurationTimeout < granted
    · intro none
      have grown := binds_grow taken
      rw [none, List.prefix_nil] at grown
      exact paid.opened before grown
    · cases entered : entersTimeout session next with
      | none =>
          rw [entered] at more
          exact absurd more before
      | some duration =>
          rw [entered, Option.getD_some] at more
          rcases entersTimeout_eq_some entered with
            ⟨_, auth, config, stage, _, rfl⟩ | ⟨loop, stage⟩
          · have within := paid.within
            simp only [allowance, stage] at within
            omega
          · simp only [Session.Transcript, stage] at after
            obtain ⟨port, _, _, _, ⟨binds, _⟩, _⟩ := after
            rw [binds]
            exact List.cons_ne_nil _ _

/-- The bytes that the events of a timed session have brought. -/
def heardBy (labels : List (Timed.Label Event)) : Bytes :=
  (labels.flatMap Timed.Label.events).flatMap Event.input

variable {final : Timed Session} {labels : List (Timed.Label Event)}

theorem granted_run (drawn : setting.challenge = .ok challenge)
    (ran : run (Timed.step (timeouts setting)) timed labels = some final) :
    Granted setting challenge (heardBy labels) final.state final.granted := by
  suffices both : (∃ sent, Transcript setting challenge True final.state (heardBy labels) sent) ∧
      Granted setting challenge (heardBy labels) final.state final.granted from both.2
  refine run_history_invariant
    (fun history timed =>
      (∃ sent, Transcript setting challenge True timed.state (heardBy history) sent) ∧
        Granted setting challenge (heardBy history) timed.state timed.granted)
    ?_ ⟨⟨[], transcript_start⟩, granted_start⟩ ran
  rintro history timed label next ⟨⟨sent, holds⟩, paid⟩ taken
  rcases Timed.step_cases taken with ⟨duration, rfl, rfl⟩ | ⟨event, state, rfl, moved, _, rfl⟩
  · have same : heardBy (history ++ [.delay duration]) = heardBy history := by
      simp [heardBy, Timed.Label.events]
    rw [same]
    exact ⟨⟨sent, holds⟩, paid⟩
  · have more : heardBy (history ++ [.event event]) = heardBy history ++ event.input := by
      simp [heardBy, Timed.Label.events]
    have after := transcript_step drawn holds moved fun _ => trivial
    rw [party_input, party_output] at after
    rw [more, Timed.move_state, Timed.move_granted]
    exact ⟨⟨_, after⟩, granted_step drawn holds paid moved⟩

theorem granted_undrawn {error : Error} (undrawn : setting.challenge = .error error)
    (ran : run (Timed.step (timeouts setting)) timed labels = some final) :
    final.granted = authenticationTimeout := by
  suffices both : final.state.Undrawn ∧ final.granted = authenticationTimeout from both.2
  refine run_invariant
    (fun timed : Timed Session => timed.state.Undrawn ∧ timed.granted = authenticationTimeout)
    ?_ ⟨⟨⟨rfl, rfl⟩, trivial⟩, rfl⟩ ran
  rintro timed label next ⟨early, paid⟩ taken
  rcases Timed.step_cases taken with ⟨duration, rfl, rfl⟩ | ⟨event, state, rfl, moved, _, rfl⟩
  · exact ⟨early, paid⟩
  · have still : entersTimeout timed.state state = none := by
      have stages := early.2
      unfold entersTimeout
      split
      · simp_all
      · simp_all
      · simp_all
      · rfl
    have unchanged : (timed.move (timeouts setting) state).granted = timed.granted := by
      rw [Timed.move_granted]
      change timed.granted + (entersTimeout timed.state state).getD 0 = _
      rw [still, Option.getD_none, Nat.add_zero]
    rw [Timed.move_state, unchanged]
    exact ⟨undrawn_step undrawn early moved, paid⟩

theorem elapsed_ends (setting : Setting) (awaits : session.guarded = true) :
    ∃ next, step setting session (.control .elapsed) = some next ∧
      next.guarded = false ∧ next.closed = true := by
  unfold guarded at awaits
  split at awaits
  · rename_i stage
    exact ⟨session.authenticationTimedOut setting, by simp [step, control, stage], rfl,
      by simp [closed, authenticationTimedOut, fail, close]⟩
  · rename_i stage
    exact ⟨session.authenticationTimedOut setting, by simp [step, control, stage], rfl,
      by simp [closed, authenticationTimedOut, fail, close]⟩
  · rename_i stage
    exact ⟨session.configurationTimedOut setting, by simp [step, control, stage], rfl,
      by simp [closed, configurationTimedOut, fail, close]⟩
  · rename_i stage
    exact ⟨session.afterLoop (.returned .timedOut),
      by simp [step, control, stage, ControlChannelLoop.step], rfl,
      by simp [closed, afterLoop, close]⟩
  · cases awaits

/-- The time that a client has earned: ten seconds to authenticate, ten more once it sent
the response, and a minute for the bind and for each PING. -/
def Earned (setting : Setting) (heard : Bytes) (session : Session) (time : Nat) : Prop :=
  time ≤ authenticationTimeout ∨
    (∃ challenge response, setting.challenge = .ok challenge ∧ response <+: heard ∧
      IsResponse setting.sha512 challenge setting.config.connectionAuthPsk response) ∧
    (time ≤ authenticationTimeout + configurationTimeout ∨
      session.binds ≠ [] ∧ time ≤ authenticationTimeout + configurationTimeout +
        lineTimeout * (leading pingMessage (heard.drop 141) + 1))

theorem Granted.earned {heard : Bytes} {granted time : Nat}
    (drawn : setting.challenge = .ok challenge)
    (paid : Granted setting challenge heard session granted) (within : time ≤ granted) :
    Earned setting heard session time := by
  by_cases short : time ≤ authenticationTimeout
  · exact .inl short
  · obtain ⟨response, front, valid⟩ := paid.authenticated (by omega)
    refine .inr ⟨⟨challenge, response, drawn, front, valid⟩, ?_⟩
    by_cases unbound : time ≤ authenticationTimeout + configurationTimeout
    · exact .inl unbound
    · exact .inr ⟨paid.opened (by omega),
        within.trans (paid.within.trans (session.allowance_le heard))⟩

/-- A session spends no more time under its timeouts than its client has earned, and once
the deadline of one has passed, the handler can give up. -/
theorem lifetime_earned
    (ran : run (Timed.step (timeouts setting)) timed labels = some final) :
    Earned setting (heardBy labels) final.state (final.now - final.unguarded) ∧
    (final.state.guarded = true → final.deadline ≤ final.now →
      ∃ next, final.step (timeouts setting) (.event (.control .elapsed)) = some next ∧
        next.state.guarded = false ∧ next.state.closed = true) := by
  constructor
  · have within : final.now - final.unguarded ≤ final.granted := by
      have clock := Timed.now_le ran
      omega
    cases drawn : setting.challenge with
    | error error =>
        rw [granted_undrawn drawn ran] at within
        exact .inl within
    | ok challenge => exact (granted_run drawn ran).earned drawn within
  · intro awaits due
    obtain ⟨after, moved, given, told⟩ := elapsed_ends setting awaits
    refine ⟨final.move (timeouts setting) after, ?_, ?_⟩
    · simp [Timed.step, due, moved]
    · rw [Timed.move_state]
      exact ⟨given, told⟩

/-- A PING comes at the last moment, and nothing after it. -/
def lastMoment : List (Timed.Label Event) :=
  [.event (.bound 80), .delay lineTimeout, .event (.control (.received [80])),
    .event (.control (.received [73])), .event (.control (.received [78])),
    .event (.control (.received [71])), .event (.control (.received [10])),
    .event (.control (.sent pongMessage)), .event (.control .flushed), .delay lineTimeout]

theorem lifetime_earned_lastMoment :
    ∃ final, run (Timed.step (timeouts (sampleSetting [.single 80]))) timed
        ((gateEvents sampleChallenge sampleResponse 0 80).map .event ++ lastMoment) =
          some final ∧
      final.now - final.unguarded = lineTimeout + lineTimeout ∧
      Earned (sampleSetting [.single 80])
        (heardBy ((gateEvents sampleChallenge sampleResponse 0 80).map .event ++ lastMoment))
        final.state (final.now - final.unguarded) ∧
      ∃ next, final.step (timeouts (sampleSetting [.single 80]))
          (.event (.control .elapsed)) = some next ∧
        next.state.guarded = false ∧ next.state.closed = true := by
  have allowed : allows (sampleSetting [.single 80]).config.localBindPorts
      (fromBeBytes 0 80) = true := by decide
  have gate := run_of_runOn
    (run_gateEvents (sample_drawn [.single 80]) (sample_isResponse _) allowed [])
  obtain ⟨bound, ran, state, now, unguarded⟩ := Timed.exists_run_at_once
    (timeouts (sampleSetting [.single 80])) timed (by simp [gateEvents, timeouts]) gate
  obtain ⟨_, _, deadline, granted, _⟩ := bound
  simp only at state now unguarded
  subst state now unguarded
  have asked : fromBeBytes 0 80 = 80 := by decide
  have address : tcpAddr (sampleSetting [.single 80]) 80 = "127.0.0.1:80" := by decide
  have ping : [80, 73, 78, 71, 10] = pingMessage := by decide
  rw [asked, address] at ran
  let last : Timed Session :=
    { state :=
        { stage := .controlLoop .start
          binds := ["127.0.0.1:80"]
          listener := some { port := 80 } }
      now := lineTimeout + lineTimeout
      deadline := lineTimeout + lineTimeout
      granted := granted + lineTimeout + lineTimeout }
  have waits : run (Timed.step (timeouts (sampleSetting [.single 80])))
      { state :=
          { stage := .bind 80
            binds := ["127.0.0.1:80"] }
        now := 0
        deadline := deadline
        granted := granted
        unguarded := 0 } lastMoment = some last := by
    simp [lastMoment, run, Timed.step, Timed.wait, Timed.move, timeouts, guarded, entersTimeout,
      step, control, bound, afterLoop, BindsTo, ControlChannelLoop.start, ControlChannelLoop.step,
      ControlChannelLoop.heardMessage, pollRead, pollFlush, lineTimeout, ping, last]
  have whole := run_append_eq_some.mpr ⟨_, ran, waits⟩
  obtain ⟨earned, ends⟩ := lifetime_earned whole
  exact ⟨last, whole, rfl, earned, ends rfl (Nat.le_refl _)⟩

end Session

end Server

end PortRedirect
