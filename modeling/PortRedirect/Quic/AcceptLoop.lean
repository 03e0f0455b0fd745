import Mathlib.Data.List.Basic
import PortRedirect.Transition.Run

namespace PortRedirect.Quic

open PortRedirect.Transition

/-! The accept loop of `run_quic_server` over an endpoint whose connections may close at
any moment, between any two steps of the loop. -/

structure ServerConfig where
  statelessRetry : Bool
  connectionLimit : Option Nat
deriving DecidableEq, Repr

/-- The defaults of `create_default_config`. -/
def ServerConfig.createDefaultConfig (connectionLimit : Option Nat) : ServerConfig where
  statelessRetry := true
  connectionLimit := connectionLimit

structure Incoming where
  connection : Nat
  remoteAddressValidated : Bool
deriving DecidableEq, Repr

inductive AcceptPhase where
  | accepting
  | checkLimit (incoming : Incoming)
  /-- The limit has been checked and the branch is still to be taken. -/
  | admitted (incoming : Incoming)
  | handshake (incoming : Incoming)
  /-- The unwrap on `retry()` has failed. -/
  | panicked
  | returned
deriving DecidableEq, Repr

structure AcceptLoop where
  phase : AcceptPhase := .accepting
  openConnections : List Nat := []
  handled : List Incoming := []
deriving DecidableEq, Repr

inductive AcceptEvent where
  /-- `accept` hands over a connection attempt, or the endpoint is closed. -/
  | incoming (incoming : Incoming)
  | endpointClosed
  | check
  | refuse
  | retry (failed : Bool)
  | accept
  | connected
  | handshakeFailed
  /-- A connection is drained, whoever has closed it. -/
  | drained (connection : Nat)
deriving DecidableEq, Repr

namespace AcceptLoop

/-- `connection_limit.is_some_and(|n| open_connections() >= n)`. -/
def limitReached (config : ServerConfig) (loop : AcceptLoop) : Bool :=
  match config.connectionLimit with
  | some limit => decide (limit ≤ loop.openConnections.length)
  | none => false

def mustRetry (config : ServerConfig) (incoming : Incoming) : Bool :=
  config.statelessRetry && !incoming.remoteAddressValidated

def step (config : ServerConfig) (loop : AcceptLoop) (event : AcceptEvent) :
    Option AcceptLoop :=
  match event with
  | .drained connection =>
      if connection ∈ loop.openConnections then
        some { loop with openConnections := loop.openConnections.erase connection }
      else none
  | event =>
      match loop.phase, event with
      | .accepting, .incoming incoming => some { loop with phase := .checkLimit incoming }
      | .accepting, .endpointClosed => some { loop with phase := .returned }
      | .checkLimit _, .refuse =>
          if loop.limitReached config then some { loop with phase := .accepting } else none
      | .checkLimit incoming, .check =>
          if loop.limitReached config then none
          else some { loop with phase := .admitted incoming }
      | .admitted incoming, .retry failed =>
          -- a retry fails only for an address that is validated already
          if mustRetry config incoming ∧ (failed = true → incoming.remoteAddressValidated) then
            some { loop with phase := if failed then .panicked else .accepting }
          else none
      | .admitted incoming, .accept =>
          if mustRetry config incoming then none
          else
            some { loop with
              phase := .handshake incoming
              openConnections := incoming.connection :: loop.openConnections }
      | .handshake incoming, .connected =>
          some { loop with phase := .accepting, handled := loop.handled ++ [incoming] }
      | .handshake _, .handshakeFailed => some { loop with phase := .accepting }
      | _, _ => none

def Admitting (config : ServerConfig) (loop : AcceptLoop) : Prop :=
  match loop.phase with
  | .admitted _ =>
      ∀ limit, config.connectionLimit = some limit → loop.openConnections.length < limit
  | .handshake incoming =>
      config.statelessRetry = true → incoming.remoteAddressValidated = true
  | .panicked => False
  | _ => True

structure Bounded (config : ServerConfig) (loop : AcceptLoop) : Prop where
  limit : ∀ limit, config.connectionLimit = some limit →
    loop.openConnections.length ≤ limit
  admitting : loop.Admitting config
  validated : config.statelessRetry = true →
    ∀ incoming ∈ loop.handled, incoming.remoteAddressValidated = true

theorem bounded_start (config : ServerConfig) : Bounded config {} where
  limit := fun _ _ => Nat.zero_le _
  admitting := trivial
  validated := fun _ _ member => absurd member List.not_mem_nil

variable {config : ServerConfig} {loop next : AcceptLoop}

private theorem bounded_drained {connection : Nat} (holds : Bounded config loop)
    (taken : loop.step config (.drained connection) = some next) : Bounded config next := by
  simp only [step] at taken
  split at taken
  · cases taken
    have fewer : (loop.openConnections.erase connection).length ≤
        loop.openConnections.length := List.length_erase_le
    refine ⟨fun limit limited => Nat.le_trans fewer (holds.limit limit limited), ?_, holds.validated⟩
    have admitting := holds.admitting
    unfold Admitting at admitting ⊢
    split at admitting
    · rename_i phase
      simp only [phase]
      exact fun limit limited => Nat.lt_of_le_of_lt fewer (admitting limit limited)
    · rename_i phase
      simpa only [phase] using admitting
    · exact admitting.elim
    · trivial
  · cases taken

private theorem limitReached_eq_false {limit : Nat} (limited : config.connectionLimit = some limit)
    (room : loop.limitReached config = false) : loop.openConnections.length < limit := by
  simpa [limitReached, limited] using room

theorem bounded_step {event : AcceptEvent} (holds : Bounded config loop)
    (taken : loop.step config event = some next) : Bounded config next := by
  have admitting := holds.admitting
  unfold Admitting at admitting
  cases event with
  | drained connection => exact bounded_drained holds taken
  | incoming incoming =>
      cases phase : loop.phase with
      | accepting =>
          simp only [step, phase] at taken
          cases taken
          exact ⟨holds.limit, trivial, holds.validated⟩
      | _ => simp [step, phase] at taken
  | endpointClosed =>
      cases phase : loop.phase with
      | accepting =>
          simp only [step, phase] at taken
          cases taken
          exact ⟨holds.limit, trivial, holds.validated⟩
      | _ => simp [step, phase] at taken
  | refuse =>
      cases phase : loop.phase with
      | checkLimit incoming =>
          simp only [step, phase] at taken
          split at taken
          · cases taken
            exact ⟨holds.limit, trivial, holds.validated⟩
          · cases taken
      | _ => simp [step, phase] at taken
  | check =>
      cases phase : loop.phase with
      | checkLimit incoming =>
          simp only [step, phase] at taken
          split at taken
          · cases taken
          · rename_i room
            cases taken
            refine ⟨holds.limit, ?_, holds.validated⟩
            exact fun limit limited =>
              limitReached_eq_false limited (Bool.eq_false_iff.mpr room)
      | _ => simp [step, phase] at taken
  | retry failed =>
      cases phase : loop.phase with
      | admitted incoming =>
          simp only [step, phase] at taken
          split at taken
          · rename_i due
            obtain ⟨must, onlyValidated⟩ := due
            cases taken
            have unvalidated : incoming.remoteAddressValidated = false := by
              simp only [mustRetry, Bool.and_eq_true, Bool.not_eq_true'] at must
              exact must.2
            cases failed with
            | false => exact ⟨holds.limit, trivial, holds.validated⟩
            | true =>
                rw [onlyValidated rfl] at unvalidated
                cases unvalidated
          · cases taken
      | _ => simp [step, phase] at taken
  | accept =>
      cases phase : loop.phase with
      | admitted incoming =>
          simp only [step, phase] at taken
          simp only [phase] at admitting
          split at taken
          · cases taken
          · rename_i exempt
            cases taken
            refine ⟨admitting, ?_, holds.validated⟩
            intro retries
            simpa [mustRetry, retries] using exempt
      | _ => simp [step, phase] at taken
  | connected =>
      cases phase : loop.phase with
      | handshake incoming =>
          simp only [step, phase] at taken
          simp only [phase] at admitting
          cases taken
          refine ⟨holds.limit, trivial, fun retries => ?_⟩
          exact List.forall_mem_append.mpr
            ⟨holds.validated retries, List.forall_mem_singleton.mpr (admitting retries)⟩
      | _ => simp [step, phase] at taken
  | handshakeFailed =>
      cases phase : loop.phase with
      | handshake incoming =>
          simp only [step, phase] at taken
          cases taken
          exact ⟨holds.limit, trivial, holds.validated⟩
      | _ => simp [step, phase] at taken

/-- A completed handshake hands its connection over, and nothing else does. -/
theorem handled_step {event : AcceptEvent} (taken : loop.step config event = some next) :
    (event = .connected ∧ ∃ incoming, next.handled = loop.handled ++ [incoming]) ∨
      (event ≠ .connected ∧ next.handled = loop.handled) := by
  unfold step at taken
  split at taken
  · split at taken
    · cases taken
      exact .inr ⟨AcceptEvent.noConfusion, rfl⟩
    · cases taken
  · split at taken
    · cases taken
      exact .inr ⟨AcceptEvent.noConfusion, rfl⟩
    · cases taken
      exact .inr ⟨AcceptEvent.noConfusion, rfl⟩
    · split at taken
      · cases taken
        exact .inr ⟨AcceptEvent.noConfusion, rfl⟩
      · cases taken
    · split at taken
      · cases taken
      · cases taken
        exact .inr ⟨AcceptEvent.noConfusion, rfl⟩
    · split at taken
      · cases taken
        exact .inr ⟨AcceptEvent.noConfusion, rfl⟩
      · cases taken
    · split at taken
      · cases taken
      · cases taken
        exact .inr ⟨AcceptEvent.noConfusion, rfl⟩
    · cases taken
      exact .inl ⟨rfl, _, rfl⟩
    · cases taken
      exact .inr ⟨AcceptEvent.noConfusion, rfl⟩
    · cases taken

/-- In every state of the accept loop the open connections are within the limit, with
stateless retry only validated addresses have reached the handler, and the unwrap on
`retry()` has not failed. -/
theorem admission_control {events : List AcceptEvent} {final : AcceptLoop}
    (ran : run (step config) {} events = some final) :
    (∀ limit, config.connectionLimit = some limit →
        final.openConnections.length ≤ limit) ∧
      (config.statelessRetry = true →
        ∀ incoming ∈ final.handled, incoming.remoteAddressValidated = true) ∧
      final.phase ≠ .panicked := by
  have bounded := run_invariant (Bounded config)
    (fun _ _ _ holds taken => bounded_step holds taken) (bounded_start config) ran
  refine ⟨bounded.limit, bounded.validated, ?_⟩
  intro panicked
  have admitting := bounded.admitting
  unfold Admitting at admitting
  simp only [panicked] at admitting

def oneAdmitted : List AcceptEvent :=
  [.incoming ⟨1, false⟩, .check, .retry false, .incoming ⟨2, true⟩, .check, .accept,
    .connected, .incoming ⟨3, true⟩, .refuse]

theorem admission_control_one :
    ∃ final, run (step (.createDefaultConfig (some 1))) {} oneAdmitted = some final ∧
      final.openConnections.length ≤ 1 ∧
      (∀ incoming ∈ final.handled, incoming.remoteAddressValidated = true) ∧
      final.phase ≠ .panicked := by
  have ran : run (step (.createDefaultConfig (some 1))) {} oneAdmitted =
      some { openConnections := [2], handled := [⟨2, true⟩] } := by decide
  obtain ⟨limit, validated, sound⟩ := admission_control ran
  exact ⟨_, ran, limit 1 rfl, validated rfl, sound⟩

end AcceptLoop

end PortRedirect.Quic
