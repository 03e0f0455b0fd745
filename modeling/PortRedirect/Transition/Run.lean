import Mathlib.Data.List.Basic

namespace PortRedirect.Transition

universe u v w x

/-! Runs of a partial step function.  A machine is its step function: `none`
means that the event cannot happen in that state. -/

section Run

variable {σ : Type u} {ε : Type v}

def run (step : σ → ε → Option σ) : σ → List ε → Option σ
  | state, [] => some state
  | state, event :: events =>
      match step state event with
      | none => none
      | some next => run step next events

def Reachable (step : σ → ε → Option σ) (start state : σ) : Prop :=
  ∃ events, run step start events = some state

variable {step : σ → ε → Option σ}

@[simp] theorem run_nil (state : σ) : run step state [] = some state := rfl

theorem run_cons_eq_some {state final : σ} {event : ε} {events : List ε} :
    run step state (event :: events) = some final ↔
      ∃ next, step state event = some next ∧
        run step next events = some final := by
  cases taken : step state event with
  | none => simp [run, taken]
  | some next => simp [run, taken]

theorem run_append_eq_some {state final : σ} {first second : List ε} :
    run step state (first ++ second) = some final ↔
      ∃ middle, run step state first = some middle ∧
        run step middle second = some final := by
  induction first generalizing state with
  | nil => simp
  | cons event events ih =>
      rw [List.cons_append, run_cons_eq_some]
      constructor
      · rintro ⟨next, taken, rest⟩
        obtain ⟨middle, before, after⟩ := ih.mp rest
        exact ⟨middle, run_cons_eq_some.mpr ⟨next, taken, before⟩, after⟩
      · rintro ⟨middle, before, after⟩
        obtain ⟨next, taken, before⟩ := run_cons_eq_some.mp before
        exact ⟨next, taken, ih.mpr ⟨middle, before, after⟩⟩

theorem run_append {state middle : σ} {first second : List ε}
    (ran : run step state first = some middle) :
    run step state (first ++ second) = run step middle second := by
  induction first generalizing state with
  | nil =>
      cases ran
      rfl
  | cons event events ih =>
      obtain ⟨next, taken, rest⟩ := run_cons_eq_some.mp ran
      rw [List.cons_append, run, taken]
      exact ih rest

theorem run_singleton_eq_some {state final : σ} {event : ε} :
    run step state [event] = some final ↔ step state event = some final := by
  rw [run_cons_eq_some]
  simp

theorem run_invariant_of_forall (allowed : ε → Prop) (invariant : σ → Prop)
    (preserved : ∀ state event next, allowed event → invariant state →
      step state event = some next → invariant next)
    {start final : σ} {events : List ε} (holds : invariant start)
    (every : ∀ event ∈ events, allowed event)
    (ran : run step start events = some final) : invariant final := by
  induction events generalizing start with
  | nil =>
      cases ran
      exact holds
  | cons event events ih =>
      obtain ⟨next, taken, rest⟩ := run_cons_eq_some.mp ran
      rw [List.forall_mem_cons] at every
      exact ih (preserved start event next every.1 holds taken) every.2 rest

/-- What every step preserves, every run preserves. -/
theorem run_invariant (invariant : σ → Prop)
    (preserved : ∀ state event next, invariant state →
      step state event = some next → invariant next)
    {start final : σ} {events : List ε} (holds : invariant start)
    (ran : run step start events = some final) : invariant final := by
  apply run_invariant_of_forall (fun _ => True) invariant _ holds _ ran
  · exact fun state event next _ => preserved state event next
  · exact fun _ _ => trivial

/-- An invariant that also looks at the events so far. -/
theorem run_history_invariant (invariant : List ε → σ → Prop)
    (preserved : ∀ history state event next, invariant history state →
      step state event = some next → invariant (history ++ [event]) next)
    {start final : σ} {events : List ε} (holds : invariant [] start)
    (ran : run step start events = some final) : invariant events final := by
  suffices general : ∀ (history : List ε) (state : σ), invariant history state →
      run step state events = some final → invariant (history ++ events) final by
    simpa using general [] start holds ran
  clear holds ran
  intro history state holds ran
  induction events generalizing history state with
  | nil =>
      cases ran
      simpa using holds
  | cons event events ih =>
      obtain ⟨next, taken, rest⟩ := run_cons_eq_some.mp ran
      have extended := preserved history state event next holds taken
      simpa using ih (history ++ [event]) next extended rest

def Stuck (step : σ → ε → Option σ) (state : σ) : Prop :=
  ∀ event, step state event = none

/-- Where every allowed step from a state of an invariant leads to another, and never raises a
measure, those that lower it are no more than the measure at the start. -/
theorem run_countP_le_of_forall (allowed : ε → Prop) (invariant : σ → Prop)
    (measure : σ → Nat) (counts : ε → Bool)
    (lowered : ∀ state event next, allowed event → invariant state →
      step state event = some next →
        invariant next ∧ measure next + (counts event).toNat ≤ measure state)
    {start final : σ} {events : List ε} (holds : invariant start)
    (every : ∀ event ∈ events, allowed event)
    (ran : run step start events = some final) :
    events.countP counts + measure final ≤ measure start := by
  induction events generalizing start with
  | nil =>
      cases ran
      simp
  | cons event events ih =>
      obtain ⟨next, taken, rest⟩ := run_cons_eq_some.mp ran
      rw [List.forall_mem_cons] at every
      obtain ⟨kept, less⟩ := lowered start event next every.1 holds taken
      have tail := ih kept every.2 rest
      have here : (if counts event = true then 1 else 0) = (counts event).toNat := by
        cases counts event <;> rfl
      rw [List.countP_cons, here]
      omega

theorem run_length_le_of_forall (allowed : ε → Prop) (invariant : σ → Prop)
    (measure : σ → Nat)
    (lowered : ∀ state event next, allowed event → invariant state →
      step state event = some next → invariant next ∧ measure next < measure state)
    {start final : σ} {events : List ε} (holds : invariant start)
    (every : ∀ event ∈ events, allowed event)
    (ran : run step start events = some final) :
    events.length + measure final ≤ measure start := by
  rw [← List.countP_true]
  exact run_countP_le_of_forall allowed invariant measure (fun _ => true) lowered holds every ran

theorem run_length_le (measure : σ → Nat)
    (lowered : ∀ state event next, step state event = some next →
      measure next < measure state)
    {start final : σ} {events : List ε} (ran : run step start events = some final) :
    events.length + measure final ≤ measure start := by
  apply run_length_le_of_forall (fun _ => True) (fun _ => True) measure _ trivial _ ran
  · exact fun state event next _ _ taken => ⟨trivial, lowered state event next taken⟩
  · exact fun _ _ => trivial

/-- Where a step is always left that lowers a measure, some run gets to the end. -/
theorem exists_run_of_progress (measure : σ → Nat) (allowed : ε → Prop) (done : σ → Prop)
    (progress : ∀ state, ¬ done state → ∃ event next, allowed event ∧
      step state event = some next ∧ measure next < measure state) (start : σ) :
    ∃ events final, (∀ event ∈ events, allowed event) ∧
      run step start events = some final ∧ done final := by
  induction size : measure start using Nat.strongRecOn generalizing start with
  | ind size ih =>
      by_cases ended : done start
      · exact ⟨[], start, by simp, rfl, ended⟩
      · obtain ⟨event, next, permitted, taken, less⟩ := progress start ended
        obtain ⟨events, final, every, ran, finished⟩ := ih _ (size ▸ less) next rfl
        refine ⟨event :: events, final, ?_, ?_, finished⟩
        · exact List.forall_mem_cons.mpr ⟨permitted, every⟩
        · exact run_cons_eq_some.mpr ⟨next, taken, ran⟩

/-- Every state that a run visits, its first and last included, has a property. -/
def Throughout (step : σ → ε → Option σ) (property : σ → Prop) : σ → List ε → Prop
  | state, [] => property state
  | state, event :: events =>
      property state ∧
        match step state event with
        | none => True
        | some next => Throughout step property next events

instance Throughout.decidable (property : σ → Prop) [DecidablePred property] :
    ∀ (state : σ) (events : List ε), Decidable (Throughout step property state events)
  | state, [] => inferInstanceAs (Decidable (property state))
  | state, event :: events =>
      match taken : step state event with
      | none => decidable_of_iff (property state) (by simp [Throughout, taken])
      | some next =>
          have := Throughout.decidable property next events
          decidable_of_iff (property state ∧ Throughout step property next events)
            (by simp [Throughout, taken])

/-- An invariant that needs a property of the states on both sides of a step. -/
theorem run_throughout (property invariant : σ → Prop)
    (preserved : ∀ state event next, property state → property next →
      invariant state → step state event = some next → invariant next)
    {start final : σ} {events : List ε} (holds : invariant start)
    (visited : Throughout step property start events)
    (ran : run step start events = some final) : property final ∧ invariant final := by
  induction events generalizing start with
  | nil =>
      cases ran
      exact ⟨visited, holds⟩
  | cons event events ih =>
      obtain ⟨next, taken, rest⟩ := run_cons_eq_some.mp ran
      obtain ⟨before, later⟩ := visited
      rw [taken] at later
      have after : property next := by
        cases events with
        | nil => exact later
        | cons event events => exact later.1
      exact ih (preserved start event next before after holds taken) later rest

/-- Every event of a run is allowed in the state that it happens in. -/
def Along (step : σ → ε → Option σ) (allowed : σ → ε → Prop) : σ → List ε → Prop
  | _, [] => True
  | state, event :: events =>
      allowed state event ∧
        match step state event with
        | none => True
        | some next => Along step allowed next events

theorem along_cons {allowed : σ → ε → Prop} {state next : σ} {event : ε}
    {events : List ε} (taken : step state event = some next) :
    Along step allowed state (event :: events) ↔
      allowed state event ∧ Along step allowed next events := by
  simp [Along, taken]

/-- What the allowed steps preserve, a run along allowed events preserves. -/
theorem run_along (allowed : σ → ε → Prop) (invariant : σ → Prop)
    (preserved : ∀ state event next, allowed state event → invariant state →
      step state event = some next → invariant next)
    {start final : σ} {events : List ε} (holds : invariant start)
    (along : Along step allowed start events)
    (ran : run step start events = some final) : invariant final := by
  induction events generalizing start with
  | nil =>
      cases ran
      exact holds
  | cons event events ih =>
      obtain ⟨next, taken, rest⟩ := run_cons_eq_some.mp ran
      rw [along_cons taken] at along
      exact ih (preserved start event next along.1 holds taken) along.2 rest

/-- Where exactly the allowed steps keep a property that is never regained, a run has
it at its end if and only if it was a run along allowed events. -/
theorem run_along_iff (allowed : σ → ε → Prop) (invariant property : σ → Prop)
    (preserved : ∀ state event next, invariant state →
      step state event = some next → invariant next)
    (kept : ∀ state event next, invariant state → step state event = some next →
      (property next ↔ property state ∧ allowed state event))
    {start final : σ} {events : List ε} (holds : invariant start)
    (ran : run step start events = some final) :
    property final ↔ property start ∧ Along step allowed start events := by
  induction events generalizing start with
  | nil =>
      cases ran
      simp [Along]
  | cons event events ih =>
      obtain ⟨next, taken, rest⟩ := run_cons_eq_some.mp ran
      rw [ih (preserved start event next holds taken) rest,
        kept start event next holds taken, along_cons taken, and_assoc]

theorem Reachable.invariant (invariant : σ → Prop)
    (preserved : ∀ state event next, invariant state →
      step state event = some next → invariant next)
    {start state : σ} (reached : Reachable step start state)
    (holds : invariant start) : invariant state := by
  obtain ⟨events, ran⟩ := reached
  exact run_invariant invariant preserved holds ran

end Run

section Projection

variable {σ : Type u} {ε : Type v} {τ : Type w} {κ : Type x}

variable {step : σ → ε → Option σ} {step' : τ → κ → Option τ}

/-- Where each step of one machine is a run of another on a view of the state,
every run is one. -/
theorem run_project_of_invariant (invariant : σ → Prop)
    (preserved : ∀ state event next, invariant state →
      step state event = some next → invariant next)
    (view : σ → τ) (label : ε → List κ)
    (simulated : ∀ state event next, invariant state → step state event = some next →
      run step' (view state) (label event) = some (view next))
    {start final : σ} {events : List ε} (holds : invariant start)
    (ran : run step start events = some final) :
    run step' (view start) (events.flatMap label) = some (view final) := by
  induction events generalizing start with
  | nil =>
      cases ran
      rfl
  | cons event events ih =>
      obtain ⟨next, taken, rest⟩ := run_cons_eq_some.mp ran
      rw [List.flatMap_cons, run_append (simulated start event next holds taken)]
      exact ih (preserved start event next holds taken) rest

theorem run_project (view : σ → τ) (label : ε → List κ)
    (simulated : ∀ state event next, step state event = some next →
      run step' (view state) (label event) = some (view next))
    {start final : σ} {events : List ε} (ran : run step start events = some final) :
    run step' (view start) (events.flatMap label) = some (view final) :=
  run_project_of_invariant (fun _ => True) (fun _ _ _ _ _ => trivial) view label
    (fun state event next _ => simulated state event next) trivial ran

end Projection

end PortRedirect.Transition
