import PortRedirect.Transition.Run

namespace PortRedirect.Transition

universe u v

/-! Machines that wait under timeouts, with a clock.  A deadline can fire once it is
reached, and nothing says how soon after that it does. -/

section Timeout

variable {σ : Type u} {ε : Type v}

/-- Where a machine waits under a timeout, and where it enters one. -/
structure Timeouts (step : σ → ε → Option σ) where
  guarded : σ → Bool
  enters : σ → σ → Option Nat
  /-- The events of the timeouts themselves. -/
  elapsed : ε → Bool
  guarded_step : ∀ {state : σ} {event : ε} {next : σ}, step state event = some next →
    guarded next = true → guarded state = true ∨ (enters state next).isSome = true

structure Timed (σ : Type u) where
  state : σ
  now : Nat := 0
  deadline : Nat
  /-- What all timeouts entered so far add up to. -/
  granted : Nat
  /-- The time spent under no timeout, or past the deadline of one. -/
  unguarded : Nat := 0

namespace Timed

inductive Label (ε : Type v) where
  | delay (duration : Nat)
  | event (event : ε)

def Label.events : Label ε → List ε
  | .delay _ => []
  | .event occurred => [occurred]

def start (state : σ) (timeout : Nat) : Timed σ :=
  { state := state, deadline := timeout, granted := timeout }

section

variable {machine : σ → ε → Option σ} (timeouts : Timeouts machine)

def wait (timed : Timed σ) (duration : Nat) : Timed σ :=
  { timed with
    now := timed.now + duration
    unguarded := timed.unguarded +
      if timeouts.guarded timed.state then
        timed.now + duration - max timed.now timed.deadline
      else duration }

def move (timed : Timed σ) (next : σ) : Timed σ :=
  match timeouts.enters timed.state next with
  | some duration =>
      { timed with
        state := next
        deadline := timed.now + duration
        granted := timed.granted + duration }
  | none => { timed with state := next }

def step (timed : Timed σ) : Label ε → Option (Timed σ)
  | .delay duration => some (timed.wait timeouts duration)
  | .event event =>
      if timeouts.elapsed event = true → timed.deadline ≤ timed.now then
        (machine timed.state event).map (timed.move timeouts)
      else
        none

end

variable {machine : σ → ε → Option σ} {timeouts : Timeouts machine}
  {timed next final : Timed σ}

theorem move_state (state : σ) : (timed.move timeouts state).state = state := by
  unfold move
  split <;> rfl

theorem move_granted (state : σ) : (timed.move timeouts state).granted =
    timed.granted + (timeouts.enters timed.state state).getD 0 := by
  unfold move
  split
  · rename_i entered
    rw [entered, Option.getD_some]
  · rename_i entered
    rw [entered, Option.getD_none, Nat.add_zero]

/-- All that a step of a timed machine can be. -/
theorem step_cases {label : Label ε} (taken : timed.step timeouts label = some next) :
    (∃ duration, label = .delay duration ∧ next = timed.wait timeouts duration) ∨
    ∃ event state, label = .event event ∧ machine timed.state event = some state ∧
      (timeouts.elapsed event = true → timed.deadline ≤ timed.now) ∧
      next = timed.move timeouts state := by
  cases label with
  | delay duration =>
      cases taken
      exact .inl ⟨duration, rfl, rfl⟩
  | event event =>
      simp only [step] at taken
      split at taken
      · rename_i due
        obtain ⟨state, moved, rfl⟩ := Option.map_eq_some_iff.mp taken
        exact .inr ⟨event, state, rfl, moved, due, rfl⟩
      · cases taken

/-- Events that are no timeouts need no time to pass. -/
theorem exists_run_at_once (timeouts : Timeouts machine) (timed : Timed σ) {state : σ}
    {events : List ε}
    (inTime : ∀ event ∈ events, timeouts.elapsed event = false)
    (ran : run machine timed.state events = some state) :
    ∃ final, run (step timeouts) timed (events.map .event) = some final ∧
      final.state = state ∧ final.now = timed.now ∧ final.unguarded = timed.unguarded := by
  induction events generalizing timed with
  | nil =>
      cases ran
      exact ⟨timed, rfl, rfl, rfl, rfl⟩
  | cons event events ih =>
      rw [List.forall_mem_cons] at inTime
      obtain ⟨next, taken, rest⟩ := run_cons_eq_some.mp ran
      have moved : timed.step timeouts (.event event) = some (timed.move timeouts next) := by
        simp [step, inTime.1, taken]
      have clock : (timed.move timeouts next).now = timed.now ∧
          (timed.move timeouts next).unguarded = timed.unguarded := by
        unfold move
        split <;> exact ⟨rfl, rfl⟩
      have still : (timed.move timeouts next).state = next := move_state next
      rw [← still] at rest
      obtain ⟨final, later, same, now, unguarded⟩ := ih _ inTime.2 rest
      exact ⟨final, run_cons_eq_some.mpr ⟨_, moved, later⟩, same, now.trans clock.1,
        unguarded.trans clock.2⟩

/-- The clock, and under a timeout its deadline too, are paid for. -/
structure Paid (timeouts : Timeouts machine) (timed : Timed σ) : Prop where
  now : timed.now ≤ timed.granted + timed.unguarded
  deadline : timeouts.guarded timed.state = true →
    timed.deadline ≤ timed.granted + timed.unguarded

theorem paid_wait (paid : Paid timeouts timed) (duration : Nat) :
    Paid timeouts (timed.wait timeouts duration) := by
  obtain ⟨clock, deadline⟩ := paid
  by_cases guarded : timeouts.guarded timed.state = true
  · have within := deadline guarded
    constructor
    · simp only [wait, if_pos guarded]
      omega
    · intro _
      simp only [wait, if_pos guarded]
      omega
  · constructor
    · simp only [wait, if_neg guarded]
      omega
    · intro still
      exact absurd still guarded

theorem paid_move {event : ε} {state : σ} (paid : Paid timeouts timed)
    (moved : machine timed.state event = some state) :
    Paid timeouts (timed.move timeouts state) := by
  obtain ⟨clock, deadline⟩ := paid
  unfold move
  split
  · constructor
    · simp only
      omega
    · intro _
      simp only
      omega
  · rename_i entered
    refine ⟨clock, fun guarded => deadline ?_⟩
    rcases timeouts.guarded_step moved guarded with before | entering
    · exact before
    · rw [entered] at entering
      cases entering

/-- No more time passes than the timeouts entered allow, but for the time that no timeout
was there to end. -/
theorem now_le {state : σ} {timeout : Nat} {labels : List (Label ε)}
    (ran : run (step timeouts) (start state timeout) labels = some final) :
    final.now ≤ final.granted + final.unguarded := by
  have paid : Paid timeouts final := by
    refine run_invariant (Paid timeouts) ?_
      ⟨Nat.zero_le _, fun _ => Nat.le_refl timeout⟩ ran
    intro timed label next paid taken
    rcases step_cases taken with ⟨duration, rfl, rfl⟩ | ⟨event, state, rfl, moved, _, rfl⟩
    · exact paid_wait paid duration
    · exact paid_move paid moved
  exact paid.now

end Timed

end Timeout

end PortRedirect.Transition
