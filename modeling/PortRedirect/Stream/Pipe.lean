import PortRedirect.Stream.Copy
import PortRedirect.Stream.Duplex

namespace PortRedirect.Stream

open PortRedirect.Text

/-! A channel that its writer can end, and a transfer from one such channel into
another. -/

structure Pipe extends Channel where
  finished : Bool := false
deriving DecidableEq, Repr

namespace Pipe

def write (pipe : Pipe) (bytes : Bytes) : Pipe :=
  { pipe with toChannel := pipe.toChannel.write bytes }

def finish (pipe : Pipe) : Pipe := { pipe with finished := true }

def deliver (pipe : Pipe) (bytes : Bytes) : Option Pipe :=
  (pipe.toChannel.deliver bytes).map fun channel => { pipe with toChannel := channel }

/-- The reader finds the end and nothing before it. -/
def AtEnd (pipe : Pipe) : Prop := pipe.finished = true ∧ pipe.pending = []

instance (pipe : Pipe) : Decidable pipe.AtEnd := inferInstanceAs (Decidable (_ ∧ _))

variable (pipe : Pipe) (bytes : Bytes)

@[simp] theorem sent_write : (pipe.write bytes).sent = pipe.sent ++ bytes :=
  Channel.sent_write pipe.toChannel bytes

@[simp] theorem delivered_write : (pipe.write bytes).delivered = pipe.delivered := rfl

variable {pipe next : Pipe} {bytes : Bytes}

theorem deliver_eq_some (handed : pipe.deliver bytes = some next) :
    next.delivered = pipe.delivered ++ bytes ∧ next.sent = pipe.sent ∧
      pipe.pending = bytes ++ next.pending ∧ next.finished = pipe.finished := by
  obtain ⟨channel, given, rfl⟩ := Option.map_eq_some_iff.mp handed
  obtain ⟨delivered, sent, pending⟩ := Channel.deliver_eq_some given
  exact ⟨delivered, sent, pending, rfl⟩

theorem exists_deliver (front : bytes <+: pipe.pending) :
    ∃ next, pipe.deliver bytes = some next := by
  unfold deliver Channel.deliver
  rw [if_pos front]
  exact ⟨_, rfl⟩

theorem delivered_isPrefix : pipe.delivered <+: pipe.sent := List.prefix_append _ _

theorem AtEnd.finish (atEnd : pipe.AtEnd) : pipe.finish.AtEnd := ⟨rfl, atEnd.2⟩

theorem AtEnd.delivered_eq (atEnd : pipe.AtEnd) : pipe.delivered = pipe.sent := by
  unfold Channel.sent
  rw [atEnd.2, List.append_nil]

theorem AtEnd.deliver (atEnd : pipe.AtEnd) (handed : pipe.deliver bytes = some next) :
    next.AtEnd := by
  obtain ⟨_, _, pending, finished⟩ := deliver_eq_some handed
  rw [atEnd.2] at pending
  exact ⟨finished.trans atEnd.1, (List.append_eq_nil_iff.mp pending.symm).2⟩

end Pipe

/-- What a call of a transfer does to the pipe that it reads and to the one it writes. -/
def TransferEvent.effect (source target : Pipe) : TransferEvent → Option (Pipe × Pipe)
  | .read bytes => (source.deliver bytes).map fun source => (source, target)
  | .eof => if source.AtEnd then some (source, target) else none
  | .wrote bytes => some (source, target.write bytes)
  | .shutdown => some (source, target.finish)
  | .flushed | .readFailed _ | .writeFailed _ => some (source, target)

/-- A call may take from the one pipe and add to the other; only a shutdown ends it. -/
theorem TransferEvent.effect_cases {source target source' target' : Pipe}
    {event : TransferEvent} (moved : event.effect source target = some (source', target')) :
    (source' = source ∨ ∃ bytes, source.deliver bytes = some source') ∧
      (target' = target ∨ (∃ bytes, target' = target.write bytes) ∨
        event = .shutdown ∧ target' = target.finish) := by
  cases event with
  | read bytes =>
      obtain ⟨next, handed, same⟩ := Option.map_eq_some_iff.mp moved
      cases same
      exact ⟨.inr ⟨bytes, handed⟩, .inl rfl⟩
  | eof =>
      simp only [effect] at moved
      split at moved
      · cases moved
        exact ⟨.inl rfl, .inl rfl⟩
      · cases moved
  | wrote bytes =>
      cases moved
      exact ⟨.inl rfl, .inr (.inl ⟨bytes, rfl⟩)⟩
  | shutdown =>
      cases moved
      exact ⟨.inl rfl, .inr (.inr ⟨rfl, rfl⟩)⟩
  | _ =>
      cases moved
      exact ⟨.inl rfl, .inl rfl⟩

/-- The pipe that is read keeps what was written to it. -/
theorem TransferEvent.effect_source {source target source' target' : Pipe}
    {event : TransferEvent} (moved : event.effect source target = some (source', target')) :
    source'.sent = source.sent ∧ source'.finished = source.finished := by
  rcases (effect_cases moved).1 with rfl | ⟨bytes, handed⟩
  · exact ⟨rfl, rfl⟩
  · obtain ⟨_, sent, _, finished⟩ := Pipe.deliver_eq_some handed
    exact ⟨sent, finished⟩

theorem TransferEvent.effect_target {source target source' target' : Pipe}
    {event : TransferEvent} (moved : event.effect source target = some (source', target')) :
    target'.sent = target.sent ++ event.output := by
  cases event with
  | read bytes =>
      obtain ⟨next, _, same⟩ := Option.map_eq_some_iff.mp moved
      cases same
      exact (List.append_nil _).symm
  | eof =>
      simp only [effect] at moved
      split at moved
      · cases moved
        exact (List.append_nil _).symm
      · cases moved
  | wrote bytes =>
      cases moved
      exact Pipe.sent_write target bytes
  | _ =>
      cases moved
      exact (List.append_nil _).symm

/-- A call that ends the pipe it writes is the transfer's last. -/
theorem Transfer.done_of_finished {size : Nat} {source target source' target' : Pipe}
    {transfer transfer' : Transfer} {event : TransferEvent}
    (taken : transfer.step size event = some (.ok transfer'))
    (moved : event.effect source target = some (source', target'))
    (live : target.finished = false) (finished : target'.finished = true) :
    transfer'.stage = .done := by
  rcases (TransferEvent.effect_cases moved).2 with rfl | ⟨bytes, rfl⟩ | ⟨rfl, _⟩
  · cases live.symm.trans finished
  · cases live.symm.trans finished
  · simp only [step] at taken
    split at taken
    · cases taken
      rfl
    · cases taken

/-- How a transfer stands between its two pipes. -/
structure Transfer.Between (source target : Pipe) (transfer : Transfer) : Prop where
  flow : source.delivered = target.sent ++ transfer.buffer
  ended : transfer.stage ≠ .running → source.AtEnd
  drained : transfer.stage = .shuttingDown ∨ transfer.stage = .done → transfer.buffer = []
  closed : transfer.stage = .done → target.finished = true

namespace Transfer.Between

variable {source target source' target' : Pipe} {transfer transfer' : Transfer}
  {bytes : Bytes}

theorem start : Between {} {} {} where
  flow := rfl
  ended := fun ended => (ended rfl).elim
  drained := by rintro (ended | ended) <;> cases ended
  closed := fun ended => by cases ended

theorem step {size : Nat} {event : TransferEvent} (holds : transfer.Between source target)
    (taken : transfer.step size event = some (.ok transfer'))
    (moved : event.effect source target = some (source', target')) :
    transfer'.Between source' target' := by
  rcases step_cases taken with ⟨bytes, rfl, running, _, same⟩ | ⟨rfl, running, same⟩ |
    ⟨bytes, rest, rfl, nonempty, split, same⟩ | ⟨rfl, draining, empty, same⟩ |
    ⟨rfl, closing, same⟩ | ⟨error, _, _, same⟩ | ⟨error, _, _, same⟩
  · cases same
    obtain ⟨source', handed, same⟩ := Option.map_eq_some_iff.mp moved
    cases same
    obtain ⟨delivered, _, _, _⟩ := Pipe.deliver_eq_some handed
    refine ⟨?_, fun ended => absurd running ended, ?_, ?_⟩
    · rw [delivered, holds.flow, List.append_assoc]
    · rintro (ended | ended)
      · cases running.symm.trans ended
      · cases running.symm.trans ended
    · intro ended
      cases running.symm.trans ended
  · cases same
    simp only [TransferEvent.effect] at moved
    split at moved
    · rename_i atEnd
      cases moved
      refine ⟨holds.flow, fun _ => atEnd, ?_, ?_⟩
      · rintro (ended | ended) <;> cases ended
      · intro ended
        cases ended
    · cases moved
  · cases same
    cases moved
    refine ⟨?_, holds.ended, ?_, holds.closed⟩
    · rw [holds.flow, split, Pipe.sent_write, List.append_assoc]
    · intro ended
      rw [holds.drained ended] at split
      exact absurd (List.append_eq_nil_iff.mp split.symm).1 nonempty
  · cases same
    cases moved
    refine ⟨holds.flow, fun _ => holds.ended ?_, fun _ => empty, ?_⟩
    · rw [draining]
      exact TransferStage.noConfusion
    · intro ended
      cases ended
  · cases same
    cases moved
    refine ⟨holds.flow, fun _ => holds.ended ?_, fun _ => holds.drained (.inl closing),
      fun _ => rfl⟩
    rw [closing]
    exact TransferStage.noConfusion
  · cases same
  · cases same

/-! What others do to the two pipes. -/

theorem write_source (holds : transfer.Between source target) (live : source.finished = false) :
    transfer.Between (source.write bytes) target := by
  refine ⟨holds.flow, ?_, holds.drained, holds.closed⟩
  intro ended
  have finished := (holds.ended ended).1
  rw [live] at finished
  cases finished

theorem finish_source (holds : transfer.Between source target) :
    transfer.Between source.finish target :=
  ⟨holds.flow, fun ended => (holds.ended ended).finish, holds.drained, holds.closed⟩

theorem deliver_target (holds : transfer.Between source target)
    (handed : target.deliver bytes = some target') : transfer.Between source target' := by
  obtain ⟨_, sent, _, finished⟩ := Pipe.deliver_eq_some handed
  refine ⟨?_, holds.ended, holds.drained, ?_⟩
  · rw [sent]
    exact holds.flow
  · rw [finished]
    exact holds.closed

theorem finish_target (holds : transfer.Between source target) :
    transfer.Between source target.finish :=
  ⟨holds.flow, holds.ended, holds.drained, fun _ => rfl⟩

theorem not_done {size : Nat} {event : TransferEvent} (holds : transfer.Between source target)
    (taken : transfer.step size event = some (.ok transfer')) : transfer.stage ≠ .done := by
  intro done
  rcases step_cases taken with ⟨bytes, _, running, _⟩ | ⟨_, running, _⟩ |
    ⟨bytes, rest, _, nonempty, split, _⟩ | ⟨_, draining, _⟩ | ⟨_, closing, _⟩ |
    ⟨error, _, _, same⟩ | ⟨error, _, _, same⟩
  · cases done.symm.trans running
  · cases done.symm.trans running
  · rw [holds.drained (.inr done)] at split
    exact nonempty (List.append_eq_nil_iff.mp split.symm).1
  · cases done.symm.trans draining
  · cases done.symm.trans closing
  · cases same
  · cases same

theorem fed {event : TransferEvent} {origin origin' : Pipe}
    (holds : transfer.Between source target) (live : source.finished = false)
    (moved : event.effect origin source = some (origin', source')) :
    transfer.Between source' target := by
  rcases (TransferEvent.effect_cases moved).2 with rfl | ⟨bytes, rfl⟩ | ⟨_, rfl⟩
  · exact holds
  · exact holds.write_source live
  · exact holds.finish_source

theorem read_by {event : TransferEvent} {sink sink' : Pipe}
    (holds : transfer.Between source target)
    (moved : event.effect target sink = some (target', sink')) :
    transfer.Between source target' := by
  rcases (TransferEvent.effect_cases moved).1 with rfl | ⟨bytes, handed⟩
  · exact holds
  · exact holds.deliver_target handed

/-- A transfer that is done has moved all there was. -/
theorem complete (holds : transfer.Between source target) (done : transfer.stage = .done) :
    source.finished = true ∧ target.sent = source.sent := by
  have atEnd : source.AtEnd := by
    apply holds.ended
    rw [done]
    exact TransferStage.noConfusion
  have flow := holds.flow
  rw [holds.drained (.inr done), List.append_nil, atEnd.delivered_eq] at flow
  exact ⟨atEnd.1, flow.symm⟩

/-- A transfer that can make none of the calls that its pipes allow has moved all there
is. -/
theorem passed_of_blocked {size : Nat} (holds : transfer.Between source target)
    (room : 0 < size)
    (blocked : ∀ call pipes, call.failed = false →
      call.effect source target = some pipes → transfer.step size call = none) :
    target.sent = source.sent ∧ (source.finished = true → target.finished = true) := by
  have drained : transfer.buffer = [] := by
    have kept := blocked (.wrote transfer.buffer) _ rfl rfl
    simpa [Transfer.step] using kept
  cases stage : transfer.stage with
  | running =>
      have arrived : source.pending = [] := by
        by_contra waiting
        obtain ⟨byte, rest, pending⟩ := List.exists_cons_of_ne_nil waiting
        have front : [byte] <+: source.pending := by
          rw [pending]
          exact ⟨rest, rfl⟩
        obtain ⟨next, handed⟩ := Pipe.exists_deliver front
        have kept := blocked (.read [byte]) _ rfl
          (Option.map_eq_some_iff.mpr ⟨next, handed, rfl⟩)
        simp [Transfer.step, stage, drained] at kept
        omega
      have unfinished : ¬ source.finished = true := by
        intro finished
        have kept := blocked .eof _ rfl (if_pos ⟨finished, arrived⟩)
        simp [Transfer.step, stage, drained] at kept
        omega
      refine ⟨?_, fun finished => absurd finished unfinished⟩
      have flow := holds.flow
      rw [drained, List.append_nil] at flow
      rw [← flow, Channel.sent, arrived, List.append_nil]
  | draining =>
      have kept := blocked .flushed _ rfl rfl
      simp [Transfer.step, stage, drained] at kept
  | shuttingDown =>
      have kept := blocked .shutdown _ rfl rfl
      simp [Transfer.step, stage] at kept
  | done => exact ⟨(holds.complete stage).2, fun _ => holds.closed stage⟩

end Transfer.Between

/-! What is left to do, in calls: a byte has to be read and then written. -/

def TransferStage.left : TransferStage → Nat
  | .running => 3
  | .draining => 2
  | .shuttingDown => 1
  | .done => 0

def Transfer.work (further : Nat) (source target : Pipe) (transfer : Transfer) : Nat :=
  (further + 2) * source.pending.length + (further + 1) * transfer.buffer.length +
    further * target.pending.length + transfer.stage.left

/-- Every call of a transfer leaves less to do, also where each byte that it writes makes
further work elsewhere. -/
theorem Transfer.work_step {size : Nat} {source target source' target' : Pipe}
    {transfer transfer' : Transfer} {event : TransferEvent} (further : Nat)
    (taken : transfer.step size event = some (.ok transfer'))
    (moved : event.effect source target = some (source', target')) :
    transfer'.work further source' target' < transfer.work further source target := by
  rcases step_cases taken with ⟨bytes, rfl, running, nonempty, same⟩ | ⟨rfl, running, same⟩ |
    ⟨bytes, rest, rfl, nonempty, split, same⟩ | ⟨rfl, draining, empty, same⟩ |
    ⟨rfl, closing, same⟩ | ⟨error, _, _, same⟩ | ⟨error, _, _, same⟩
  · cases same
    obtain ⟨next, handed, same⟩ := Option.map_eq_some_iff.mp moved
    cases same
    obtain ⟨_, _, pending, _⟩ := Pipe.deliver_eq_some handed
    have size := List.length_pos_of_ne_nil nonempty
    have more : (further + 2) * bytes.length = (further + 1) * bytes.length + bytes.length :=
      Nat.succ_mul _ _
    simp only [work, pending, List.length_append, Nat.mul_add]
    omega
  · cases same
    simp only [TransferEvent.effect] at moved
    split at moved
    · cases moved
      simp only [work, running, TransferStage.left]
      omega
    · cases moved
  · cases same
    cases moved
    have size := List.length_pos_of_ne_nil nonempty
    have more : (further + 1) * bytes.length = further * bytes.length + bytes.length :=
      Nat.succ_mul _ _
    simp only [work, split, Pipe.write, Channel.write, List.length_append, Nat.mul_add]
    omega
  · cases same
    cases moved
    simp only [work, draining, TransferStage.left]
    omega
  · cases same
    cases moved
    simp only [work, closing, TransferStage.left, Pipe.finish]
    omega
  · cases same
  · cases same

end PortRedirect.Stream
