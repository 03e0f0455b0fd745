import Mathlib.Algebra.Order.Ring.Nat
import PortRedirect.Transition.Run

namespace PortRedirect.Transition

universe u v w x

/-! Machines side by side: each event is a step of one of them, in any order. -/

section Pool

variable {σ : Type u} {ε : Type v}

/-- One step of the machine at an index. -/
def stepAt (step : σ → ε → Option σ) (states : List σ) (index : Nat) (event : ε) :
    Option (List σ) :=
  match states[index]? with
  | none => none
  | some state => (step state event).map fun next => states.set index next

variable {step : σ → ε → Option σ} {states next : List σ} {index : Nat} {event : ε}

theorem stepAt_eq_some :
    stepAt step states index event = some next ↔
      ∃ state state', states[index]? = some state ∧ step state event = some state' ∧
        next = states.set index state' := by
  unfold stepAt
  cases found : states[index]? with
  | none => simp
  | some state =>
      simp only [Option.map_eq_some_iff, Option.some.injEq]
      constructor
      · rintro ⟨state', taken, rfl⟩
        exact ⟨state, state', rfl, taken, rfl⟩
      · rintro ⟨_, state', rfl, taken, rfl⟩
        exact ⟨state', taken, rfl⟩

/-- An invariant of the machine holds of every one in the pool. -/
theorem forall_stepAt (invariant : σ → Prop)
    (preserved : ∀ state event next, invariant state → step state event = some next →
      invariant next)
    (holds : ∀ state ∈ states, invariant state)
    (taken : stepAt step states index event = some next) :
    ∀ state ∈ next, invariant state := by
  obtain ⟨state, state', found, moved, rfl⟩ := stepAt_eq_some.mp taken
  intro other member
  rcases List.mem_or_eq_of_mem_set member with before | rfl
  · exact holds other before
  · exact preserved state event other (holds state (List.mem_of_getElem? found)) moved

theorem sum_map_set (measure : σ → Nat) {state : σ} (found : states[index]? = some state)
    (state' : σ) :
    ((states.set index state').map measure).sum + measure state =
      (states.map measure).sum + measure state' := by
  induction states generalizing index with
  | nil => simp at found
  | cons head states ih =>
      cases index with
      | zero =>
          cases found
          simp only [List.set_cons_zero, List.map_cons, List.sum_cons]
          omega
      | succ index =>
          have tail := @ih index (by simpa using found)
          simp only [List.set_cons_succ, List.map_cons, List.sum_cons]
          omega

/-- A sum over the pool moves with the machine that does. -/
theorem sum_stepAt (measure : σ → Nat) (taken : stepAt step states index event = some next) :
    ∃ state state', state ∈ states ∧ step state event = some state' ∧
      (next.map measure).sum + measure state = (states.map measure).sum + measure state' := by
  obtain ⟨state, state', found, moved, rfl⟩ := stepAt_eq_some.mp taken
  exact ⟨state, state', List.mem_of_getElem? found, moved, sum_map_set measure found state'⟩

end Pool

section Own

variable {σ : Type u} {ε : Type v} {τ : Type w} {κ : Type x}

/-- The events of the machine at an index, in the order in which they happened. -/
def own (label : κ → Option (Nat × ε)) (index : Nat) (events : List κ) : List ε :=
  events.filterMap fun event =>
    match label event with
    | some (place, event) => if place = index then some event else none
    | none => none

/-- A system with a pool inside: a step moves the machine that it is labelled with, or
none, and may begin others behind them. -/
structure Pooled (step : σ → ε → Option σ) (system : τ → κ → Option τ) (pool : τ → List σ)
    (label : κ → Option (Nat × ε)) (born : κ → List σ) : Prop where
  moves : ∀ state event next, system state event = some next →
    ∃ moved, pool next = moved ++ born event ∧
      match label event with
      | some (index, event) => stepAt step (pool state) index event = some moved
      | none => moved = pool state

/-- Every machine is where its own events have brought it. -/
structure Traced (step : σ → ε → Option σ) (label : κ → Option (Nat × ε))
    (born : κ → List σ) (history : List κ) (states : List σ) : Prop where
  counted : states.length = (history.flatMap born).length
  reached : ∀ index first state, (history.flatMap born)[index]? = some first →
    states[index]? = some state → run step first (own label index history) = some state
  unborn : ∀ index, states.length ≤ index → own label index history = []

variable {step : σ → ε → Option σ} {system : τ → κ → Option τ} {pool : τ → List σ}
  {label : κ → Option (Nat × ε)} {born : κ → List σ}

theorem own_append (index : Nat) (first second : List κ) :
    own label index (first ++ second) = own label index first ++ own label index second :=
  List.filterMap_append ..

theorem own_singleton (index : Nat) (event : κ) :
    own label index [event] =
      match label event with
      | some (place, event) => if place = index then [event] else []
      | none => [] := by
  cases labelled : label event with
  | none => simp [own, labelled]
  | some which =>
      by_cases here : which.1 = index
      · simp [own, labelled, here]
      · simp [own, labelled, here]

theorem Pooled.traced_step (pooled : Pooled step system pool label born) {history : List κ}
    {state next : τ} {event : κ} (traced : Traced step label born history (pool state))
    (taken : system state event = some next) :
    Traced step label born (history ++ [event]) (pool next) := by
  obtain ⟨moved, grown, moves⟩ := pooled.moves state event next taken
  have same : moved.length = (pool state).length := by
    cases labelled : label event with
    | none =>
        simp only [labelled] at moves
        rw [moves]
    | some which =>
        simp only [labelled] at moves
        obtain ⟨_, _, _, _, rfl⟩ := stepAt_eq_some.mp moves
        exact List.length_set
  have births : (history ++ [event]).flatMap born = history.flatMap born ++ born event := by
    simp
  have quiet : ∀ index, (pool state).length ≤ index →
      own label index (history ++ [event]) = [] := by
    intro index late
    rw [own_append, traced.unborn index late, own_singleton, List.nil_append]
    cases labelled : label event with
    | none => rfl
    | some which =>
        simp only [labelled] at moves
        obtain ⟨_, _, found, _, _⟩ := stepAt_eq_some.mp moves
        have early := (List.getElem?_eq_some_iff.mp found).1
        exact if_neg (by omega)
  refine ⟨?_, ?_, ?_⟩
  · rw [grown, births, List.length_append, List.length_append, same, traced.counted]
  · intro index first reached begun found
    rw [births] at begun
    rw [grown] at found
    by_cases early : index < (pool state).length
    · rw [List.getElem?_append_left (traced.counted ▸ early)] at begun
      rw [List.getElem?_append_left (same.symm ▸ early)] at found
      obtain ⟨before, stood⟩ : ∃ before, (pool state)[index]? = some before :=
        ⟨_, List.getElem?_eq_getElem early⟩
      have ran := traced.reached index first before begun stood
      rw [own_append, run_append ran, own_singleton]
      cases labelled : label event with
      | none =>
          simp only [labelled] at moves
          rw [moves, stood] at found
          exact found
      | some which =>
          simp only [labelled] at moves
          obtain ⟨machine, after, here, stepped, rfl⟩ := stepAt_eq_some.mp moves
          by_cases hit : which.1 = index
          · subst hit
            rw [List.getElem?_set_self early] at found
            cases found
            cases stood.symm.trans here
            simp only [if_true]
            exact run_singleton_eq_some.mpr stepped
          · rw [List.getElem?_set_ne hit, stood] at found
            simpa [hit] using found
    · rw [List.getElem?_append_right (by omega), same] at found
      rw [List.getElem?_append_right (by have := traced.counted; omega), ← traced.counted]
        at begun
      rw [quiet index (by omega)]
      exact begun.symm.trans found
  · intro index late
    rw [grown, List.length_append, same] at late
    exact quiet index (by omega)

/-- In a run that begins with an empty pool every machine has had a run of its own, from
where it began, along its own events. -/
theorem Pooled.traced (pooled : Pooled step system pool label born) {start final : τ}
    {events : List κ} (empty : pool start = []) (ran : run system start events = some final) :
    Traced step label born events (pool final) := by
  refine run_history_invariant
    (fun history state => Traced step label born history (pool state))
    (fun _ _ _ _ traced taken => pooled.traced_step traced taken) ?_ ran
  rw [empty]
  exact ⟨rfl, fun _ _ _ begun => by simp at begun, fun _ _ => rfl⟩

end Own

end PortRedirect.Transition
