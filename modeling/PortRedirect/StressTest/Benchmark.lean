import PortRedirect.StressTest.Blocks
import PortRedirect.Transition.Pool

namespace PortRedirect.StressTest

open PortRedirect.Text
open PortRedirect.Transition

/-! `exercise_connection`: both tasks on one connection and the `gather` that waits for
them.  It raises with the first of them that does, and the other one goes on. -/

inductive Outcome where
  | running
  | returned
  | raised
deriving DecidableEq, Repr

structure ExerciseConnection where
  sender : SendBlocks := {}
  receiver : ReceiveBlocks := {}
  outcome : Outcome := .running
deriving DecidableEq, Repr

inductive ExerciseEvent where
  | sending (event : SendEvent)
  | receiving (event : ReceiveEvent)
  | gathered
deriving DecidableEq, Repr

/-! `worker` and `handle_connection`.  A worker has to connect first; both close their
writer before they return or raise, and ignore how that goes. -/

inductive EndpointStage where
  | connecting
  | exercising
  | returned
  | raised
deriving DecidableEq, Repr

structure Endpoint where
  stage : EndpointStage
  connection : Option ExerciseConnection
deriving DecidableEq, Repr

def Endpoint.worker : Endpoint := { stage := .connecting, connection := none }

def Endpoint.handleConnection : Endpoint := { stage := .exercising, connection := some {} }

def Endpoint.ended (endpoint : Endpoint) : Bool :=
  endpoint.stage = .returned ∨ endpoint.stage = .raised

inductive EndpointEvent where
  | connected
  | connectFailed
  | exercise (event : ExerciseEvent)
  | closed
deriving DecidableEq, Repr

/-! `async_main` with the tasks that it starts. -/

inductive ListenerTask where
  | starting
  | serving
  | failed
  | cancelled
deriving DecidableEq, Repr

inductive MonitorTask where
  | absent
  | sleeping
  | returned
deriving DecidableEq, Repr

inductive MainPhase where
  /-- In the `sleep` that gives the listener a moment to start. -/
  | starting
  | launching
  | gathering
  | awaitingMonitor
  | awaitingListener
  /-- The process has ended with the exit code. -/
  | exited (code : Nat)
deriving DecidableEq, Repr

structure Benchmark where
  phase : MainPhase := .starting
  listener : ListenerTask := .starting
  monitor : MonitorTask := .absent
  workers : List Endpoint := []
  accepted : List Endpoint := []
  globals : Globals := {}
deriving DecidableEq, Repr

inductive BenchmarkEvent where
  | listening (started : Bool)
  | accepted
  | worker (index : Nat) (event : EndpointEvent)
  | handler (index : Nat) (event : EndpointEvent)
  | monitorChecked
  | main
deriving DecidableEq, Repr

/-- The test at the end of the monitor's loop, against `2 * workers * total_bytes`. -/
def Benchmark.totalsReached (workers totalBytes : Nat) (state : Benchmark) : Bool :=
  state.globals.globalTotalUpBytes ≥ 2 * workers * totalBytes ∧
    state.globals.globalTotalDownBytes ≥ 2 * workers * totalBytes

/-- `run_workers` raises what one of its workers has raised. -/
def Benchmark.runWorkersRaises (state : Benchmark) : Bool :=
  state.workers.any fun endpoint => endpoint.stage = .raised

/-- `async_main`, and `cli` around it, from one `await` to the next. -/
def Benchmark.mainStep (workers : Nat) (state : Benchmark) : Option Benchmark :=
  match state.phase with
  | .starting => some { state with phase := .launching, monitor := .sleeping }
  | .launching =>
      if state.workers.length < workers then
        some { state with workers := state.workers ++ [Endpoint.worker] }
      else some { state with phase := .gathering }
  | .gathering =>
      if state.workers.all Endpoint.ended then
        if state.runWorkersRaises then some { state with phase := .exited 1 }
        else some { state with phase := .awaitingMonitor }
      else none
  | .awaitingMonitor =>
      if state.monitor = .returned then
        some
          { state with
            phase := .awaitingListener
            listener := if state.listener = .failed then .failed else .cancelled }
      else none
  | .awaitingListener =>
      if state.listener = .failed ∨ state.globals.errorOccurred then
        some { state with phase := .exited 1 }
      else some { state with phase := .exited 0 }
  | .exited _ => none

section System

variable (crc32 : Bytes → UInt32) (workers totalBytes blockSize : Nat)

def ExerciseConnection.step (connection : ExerciseConnection) (globals : Globals) :
    ExerciseEvent → Option (ExerciseConnection × Globals)
  | .sending event =>
      (connection.sender.step crc32 totalBytes blockSize globals event).map
        fun (sender, globals) => ({ connection with sender := sender }, globals)
  | .receiving event =>
      (connection.receiver.step crc32 totalBytes globals event).map
        fun (receiver, globals) => ({ connection with receiver := receiver }, globals)
  | .gathered =>
      if connection.outcome ≠ .running then none
      else if connection.sender.stage = .raised ∨ connection.receiver.stage = .raised then
        some ({ connection with outcome := .raised }, { globals with errorOccurred := true })
      else if connection.sender.stage = .returned ∧
          connection.receiver.stage = .returned then
        some ({ connection with outcome := .returned }, globals)
      else none

def Endpoint.step (endpoint : Endpoint) (globals : Globals) :
    EndpointEvent → Option (Endpoint × Globals)
  | .connected =>
      if endpoint.stage = .connecting then
        some ({ stage := .exercising, connection := some {} }, globals)
      else none
  | .connectFailed =>
      if endpoint.stage = .connecting then
        some ({ endpoint with stage := .raised }, { globals with errorOccurred := true })
      else none
  | .exercise event =>
      match endpoint.connection with
      | none => none
      | some connection =>
          (connection.step crc32 totalBytes blockSize globals event).map
            fun (connection, globals) =>
              ({ endpoint with connection := some connection }, globals)
  | .closed =>
      match endpoint.stage, endpoint.connection with
      | .exercising, some connection =>
          match connection.outcome with
          | .running => none
          | .returned => some ({ endpoint with stage := .returned }, globals)
          | .raised => some ({ endpoint with stage := .raised }, globals)
      | _, _ => none

def Benchmark.step (state : Benchmark) (event : BenchmarkEvent) : Option Benchmark :=
  match state.phase, event with
  | .exited _, _ => none
  | _, .listening started =>
      if state.listener = .starting then
        some { state with listener := if started then .serving else .failed }
      else none
  | _, .accepted =>
      if state.listener = .serving then
        some { state with accepted := state.accepted ++ [Endpoint.handleConnection] }
      else none
  | _, .worker index event =>
      match state.workers[index]? with
      | none => none
      | some endpoint =>
          (endpoint.step crc32 totalBytes blockSize state.globals event).map
            fun (endpoint, globals) =>
              { state with
                workers := state.workers.set index endpoint, globals := globals }
  | _, .handler index event =>
      match state.accepted[index]? with
      | none => none
      | some endpoint =>
          (endpoint.step crc32 totalBytes blockSize state.globals event).map
            fun (endpoint, globals) =>
              { state with
                accepted := state.accepted.set index endpoint, globals := globals }
  | _, .monitorChecked =>
      if state.monitor = .sleeping then
        some
          { state with
            monitor := if state.totalsReached workers totalBytes then .returned else .sleeping }
      else none
  | _, .main => state.mainStep workers

end System

variable {crc32 : Bytes → UInt32} {workers totalBytes blockSize : Nat}

/-- All that a step of the benchmark can be. -/
theorem Benchmark.step_cases {state next : Benchmark} {event : BenchmarkEvent}
    (taken : state.step crc32 workers totalBytes blockSize event = some next) :
    (∀ code, state.phase ≠ .exited code) ∧
      ((∃ listener, event ≠ .main ∧ next = { state with listener := listener }) ∨
        (event = .accepted ∧
          next = { state with accepted := state.accepted ++ [Endpoint.handleConnection] }) ∨
        (∃ index cause endpoint endpoint' globals, event = .worker index cause ∧
          state.workers[index]? = some endpoint ∧
          endpoint.step crc32 totalBytes blockSize state.globals cause =
            some (endpoint', globals) ∧
          next = { state with
            workers := state.workers.set index endpoint', globals := globals }) ∨
        (∃ index cause endpoint endpoint' globals, event = .handler index cause ∧
          state.accepted[index]? = some endpoint ∧
          endpoint.step crc32 totalBytes blockSize state.globals cause =
            some (endpoint', globals) ∧
          next = { state with
            accepted := state.accepted.set index endpoint', globals := globals }) ∨
        (event = .monitorChecked ∧ state.monitor = .sleeping ∧
          next = { state with
            monitor :=
              if state.totalsReached workers totalBytes then .returned else .sleeping }) ∨
        event = .main ∧ state.mainStep workers = some next) := by
  have live : ∀ code, state.phase ≠ .exited code := by
    intro code exited
    simp only [step, exited] at taken
    cases taken
  refine ⟨live, ?_⟩
  unfold step at taken
  split at taken
  · rename_i exited
    exact absurd exited (live _)
  · rename_i started
    split at taken
    · cases taken
      exact .inl ⟨_, BenchmarkEvent.noConfusion, rfl⟩
    · cases taken
  · split at taken
    · cases taken
      exact .inr (.inl ⟨rfl, rfl⟩)
    · cases taken
  · rename_i index cause _
    split at taken
    · cases taken
    · rename_i endpoint found
      obtain ⟨⟨endpoint', globals⟩, stepped, same⟩ := Option.map_eq_some_iff.mp taken
      exact .inr (.inr (.inl
        ⟨index, cause, endpoint, endpoint', globals, rfl, found, stepped, same.symm⟩))
  · rename_i index cause _
    split at taken
    · cases taken
    · rename_i endpoint found
      obtain ⟨⟨endpoint', globals⟩, stepped, same⟩ := Option.map_eq_some_iff.mp taken
      exact .inr (.inr (.inr (.inl
        ⟨index, cause, endpoint, endpoint', globals, rfl, found, stepped, same.symm⟩)))
  · split at taken
    · rename_i sleeping
      cases taken
      exact .inr (.inr (.inr (.inr (.inl ⟨rfl, sleeping, rfl⟩))))
    · cases taken
  · exact .inr (.inr (.inr (.inr (.inr ⟨rfl, taken⟩))))

theorem Benchmark.mainStep_cases {state next : Benchmark}
    (taken : state.mainStep workers = some next) :
    (state.phase = .starting ∧
        next = { state with phase := .launching, monitor := .sleeping }) ∨
      (state.phase = .launching ∧ state.workers.length < workers ∧
        next = { state with workers := state.workers ++ [Endpoint.worker] }) ∨
      (state.phase = .launching ∧ workers ≤ state.workers.length ∧
        next = { state with phase := .gathering }) ∨
      (state.phase = .gathering ∧ (∀ endpoint ∈ state.workers, endpoint.ended = true) ∧
        (state.runWorkersRaises = true ∧ next = { state with phase := .exited 1 } ∨
          state.runWorkersRaises = false ∧ next = { state with phase := .awaitingMonitor })) ∨
      (state.phase = .awaitingMonitor ∧ state.monitor = .returned ∧ ∃ listener,
        next = { state with phase := .awaitingListener, listener := listener }) ∨
      (state.phase = .awaitingListener ∧
        (next = { state with phase := .exited 1 } ∨
          state.globals.errorOccurred = false ∧ next = { state with phase := .exited 0 })) := by
  unfold mainStep at taken
  split at taken
  · rename_i phase
    cases taken
    exact .inl ⟨phase, rfl⟩
  · rename_i phase
    split at taken
    · rename_i more
      cases taken
      exact .inr (.inl ⟨phase, more, rfl⟩)
    · rename_i launched
      cases taken
      exact .inr (.inr (.inl ⟨phase, Nat.le_of_not_lt launched, rfl⟩))
  · rename_i phase
    split at taken
    · rename_i ended
      refine .inr (.inr (.inr (.inl ⟨phase, List.all_eq_true.mp ended, ?_⟩)))
      split at taken
      · rename_i raises
        cases taken
        exact .inl ⟨raises, rfl⟩
      · rename_i quiet
        cases taken
        exact .inr ⟨Bool.eq_false_iff.mpr quiet, rfl⟩
    · cases taken
  · rename_i phase
    split at taken
    · rename_i returned
      cases taken
      exact .inr (.inr (.inr (.inr (.inl ⟨phase, returned, _, rfl⟩))))
    · cases taken
  · rename_i phase
    refine .inr (.inr (.inr (.inr (.inr ⟨phase, ?_⟩))))
    split at taken
    · cases taken
      exact .inl rfl
    · rename_i sound
      cases taken
      rw [not_or] at sound
      exact .inr ⟨Bool.eq_false_iff.mpr sound.2, rfl⟩
  · cases taken

end PortRedirect.StressTest
