import PortRedirect.StressTest.Benchmark

namespace PortRedirect.StressTest

open PortRedirect.Text
open PortRedirect.Transition

variable {crc32 : Bytes → UInt32} {workers totalBytes blockSize : Nat}
  {globals after : Globals}

/-! What the two tasks of a connection count, and where they stand when they end. -/

/-- The totals grow with the counts of the task that makes a step. -/
structure Tallied (globals after : Globals) (sent sent' received received' : Nat) :
    Prop where
  up : after.globalTotalUpBytes + sent = globals.globalTotalUpBytes + sent'
  down : after.globalTotalDownBytes + received = globals.globalTotalDownBytes + received'
  moreSent : sent ≤ sent'
  moreReceived : received ≤ received'
  flag : globals.errorOccurred = true → after.errorOccurred = true

theorem Tallied.refl (globals : Globals) (sent received : Nat) :
    Tallied globals globals sent sent received received :=
  ⟨rfl, rfl, Nat.le_refl _, Nat.le_refl _, id⟩

theorem Tallied.fail (globals : Globals) (sent received : Nat) :
    Tallied globals { globals with errorOccurred := true } sent sent received received :=
  ⟨rfl, rfl, Nat.le_refl _, Nat.le_refl _, fun _ => rfl⟩

def SendBlocks.Sound (totalBytes : Nat) (task : SendBlocks) : Prop :=
  match task.stage with
  | .looping => task.bytesSent ≤ totalBytes
  | .draining size => 0 < size ∧ task.bytesSent + size ≤ totalBytes
  | .returned => task.bytesSent = totalBytes
  | .raised => task.bytesSent < totalBytes

theorem SendBlocks.Sound.le {task : SendBlocks} (sound : task.Sound totalBytes) :
    task.bytesSent ≤ totalBytes := by
  unfold Sound at sound
  split at sound <;> omega

theorem SendBlocks.step_sound (positive : 1 ≤ blockSize) {task next : SendBlocks}
    {event : SendEvent} (sound : task.Sound totalBytes)
    (taken : task.step crc32 totalBytes blockSize globals event = some (next, after))
    (received : Nat) :
    next.Sound totalBytes ∧
      Tallied globals after task.bytesSent next.bytesSent received received := by
  rcases step_cases taken with ⟨data, header, rfl, stage, unfinished, size, _, rfl, rfl⟩ |
    ⟨data, rfl, stage, unfinished, _, _, rfl, rfl⟩ | ⟨size, rfl, stage, rfl, rfl⟩ |
    ⟨supported, rfl, stage, finished, rfl, rfl⟩ | ⟨_, rfl, stage, same⟩
  · refine ⟨?_, .refl _ _ _⟩
    simp only [Sound]
    omega
  · exact ⟨unfinished, .refl _ _ _⟩
  · simp only [Sound, stage] at sound
    exact ⟨sound.2, by rw [Nat.add_assoc, Nat.add_comm size], rfl,
      Nat.le_add_right _ _, Nat.le_refl _, id⟩
  · simp only [Sound, stage] at sound
    exact ⟨Nat.le_antisymm sound finished, .refl _ _ _⟩
  · have below : task.bytesSent < totalBytes := by
      rcases stage with ⟨_, unfinished⟩ | ⟨size, stage⟩
      · exact unfinished
      · simp only [Sound, stage] at sound
        omega
    refine ⟨below, ?_⟩
    rcases same with rfl | rfl
    · exact .refl _ _ _
    · exact .fail _ _ _

def ReceiveBlocks.Sound (totalBytes : Nat) (task : ReceiveBlocks) : Prop :=
  match task.stage with
  | .header => True
  | .returned => totalBytes ≤ task.bytesReceived
  | .data _ _ | .raised => task.bytesReceived < totalBytes

theorem ReceiveBlocks.step_sound {task next : ReceiveBlocks} {event : ReceiveEvent}
    (sound : task.Sound totalBytes)
    (taken : task.step crc32 totalBytes globals event = some (next, after)) (sent : Nat) :
    next.Sound totalBytes ∧
      Tallied globals after sent sent task.bytesReceived next.bytesReceived := by
  rcases step_cases taken with ⟨feed, reader, rfl, _, rfl, rfl⟩ |
    ⟨header, reader, rfl, _, unfinished, _, rfl, rfl⟩ | ⟨rfl, _, finished, rfl, rfl⟩ |
    ⟨size, checksum, data, reader, rfl, _, _, _, rfl, rfl⟩ |
    ⟨size, checksum, data, reader, rfl, stage, _, _, rfl, rfl⟩ |
    ⟨rfl, outcome, rfl, rfl⟩
  · exact ⟨sound, .refl _ _ _⟩
  · exact ⟨unfinished, .refl _ _ _⟩
  · exact ⟨finished, .refl _ _ _⟩
  · exact ⟨trivial, rfl, by rw [Nat.add_assoc, Nat.add_comm size], Nat.le_refl _,
      Nat.le_add_right _ _, id⟩
  · simp only [Sound, stage] at sound
    exact ⟨sound, .fail _ _ _⟩
  · refine ⟨?_, .refl _ _ _⟩
    rcases outcome with ⟨_, unfinished, _⟩ | ⟨size, checksum, stage, _⟩
    · exact unfinished
    · simp only [Sound, stage] at sound
      exact sound

/-- A connection, with the error flag as it stands. -/
structure ExerciseConnection.Sound (totalBytes : Nat) (flag : Bool)
    (connection : ExerciseConnection) : Prop where
  sender : connection.sender.Sound totalBytes
  receiver : connection.receiver.Sound totalBytes
  returned : connection.outcome = .returned →
    connection.sender.stage = .returned ∧ connection.receiver.stage = .returned
  raised : connection.outcome = .raised →
    flag = true ∧
      (connection.sender.stage = .raised ∨ connection.receiver.stage = .raised)

/-- A task of `send_blocks` that makes a step has not ended. -/
theorem SendBlocks.not_ended {task : SendBlocks} {event : SendEvent}
    {result : SendBlocks × Globals}
    (taken : task.step crc32 totalBytes blockSize globals event = some result) :
    task.stage ≠ .returned ∧ task.stage ≠ .raised := by
  obtain ⟨next, after⟩ := result
  rcases step_cases taken with ⟨_, _, _, stage, _⟩ | ⟨_, _, stage, _⟩ | ⟨_, _, stage, _⟩ |
    ⟨_, _, stage, _⟩ | ⟨_, _, ⟨stage, _⟩ | ⟨_, stage⟩, _⟩
  all_goals
    rw [stage]
    exact ⟨SendStage.noConfusion, SendStage.noConfusion⟩

/-- The end of `receive_blocks` is its last stage, although its reader is fed on. -/
theorem ReceiveBlocks.stage_eq {task next : ReceiveBlocks} {event : ReceiveEvent}
    (ended : task.stage = .returned ∨ task.stage = .raised)
    (taken : task.step crc32 totalBytes globals event = some (next, after)) :
    next.stage = task.stage := by
  rcases step_cases taken with ⟨_, _, _, _, rfl, _⟩ | ⟨_, _, _, stage, _⟩ |
    ⟨_, stage, _⟩ | ⟨_, _, _, _, _, stage, _⟩ | ⟨_, _, _, _, _, stage, _⟩ |
    ⟨_, ⟨stage, _⟩ | ⟨_, _, stage, _⟩, _⟩
  · rfl
  all_goals
    rw [stage] at ended
    rcases ended with ended | ended <;> cases ended

def ExerciseConnection.sent (connection : ExerciseConnection) : Nat :=
  connection.sender.bytesSent

def ExerciseConnection.received (connection : ExerciseConnection) : Nat :=
  connection.receiver.bytesReceived

theorem ExerciseConnection.Sound.mono {connection : ExerciseConnection} {flag flag' : Bool}
    (sound : connection.Sound totalBytes flag) (kept : flag = true → flag' = true) :
    connection.Sound totalBytes flag' :=
  { sound with raised := fun ended => ⟨kept (sound.raised ended).1, (sound.raised ended).2⟩ }

theorem ExerciseConnection.step_sound (positive : 1 ≤ blockSize)
    {connection next : ExerciseConnection} {event : ExerciseEvent}
    (sound : connection.Sound totalBytes globals.errorOccurred)
    (taken : connection.step crc32 totalBytes blockSize globals event = some (next, after)) :
    next.Sound totalBytes after.errorOccurred ∧
      Tallied globals after connection.sent next.sent connection.received next.received := by
  cases event with
  | sending event =>
      obtain ⟨⟨sender, _⟩, stepped, same⟩ := Option.map_eq_some_iff.mp taken
      cases same
      obtain ⟨senderSound, tallied⟩ :=
        SendBlocks.step_sound positive sound.sender stepped connection.received
      have live := SendBlocks.not_ended stepped
      refine ⟨⟨senderSound, sound.receiver, fun ended => ?_, fun ended => ?_⟩, tallied⟩
      · exact absurd (sound.returned ended).1 live.1
      · obtain ⟨flag, cause⟩ := sound.raised ended
        exact ⟨tallied.flag flag, .inr (cause.resolve_left live.2)⟩
  | receiving event =>
      obtain ⟨⟨receiver, _⟩, stepped, same⟩ := Option.map_eq_some_iff.mp taken
      cases same
      obtain ⟨receiverSound, tallied⟩ :=
        ReceiveBlocks.step_sound sound.receiver stepped connection.sent
      refine ⟨⟨sound.sender, receiverSound, fun ended => ?_, fun ended => ?_⟩, tallied⟩
      · obtain ⟨sent, received⟩ := sound.returned ended
        exact ⟨sent, (ReceiveBlocks.stage_eq (.inl received) stepped).trans received⟩
      · obtain ⟨flag, sent | received⟩ := sound.raised ended
        · exact ⟨tallied.flag flag, .inl sent⟩
        · exact ⟨tallied.flag flag,
            .inr ((ReceiveBlocks.stage_eq (.inr received) stepped).trans received)⟩
  | gathered =>
      simp only [step] at taken
      split at taken
      · cases taken
      split at taken
      · rename_i cause
        cases taken
        refine ⟨⟨sound.sender, sound.receiver, ?_, fun _ => ⟨rfl, cause⟩⟩, .fail _ _ _⟩
        exact fun ended => by cases ended
      split at taken
      · rename_i whole
        cases taken
        refine ⟨⟨sound.sender, sound.receiver, fun _ => whole, ?_⟩, .refl _ _ _⟩
        exact fun ended => by cases ended
      · cases taken

/-! One end of a tunnelled connection. -/

def Endpoint.sent (endpoint : Endpoint) : Nat :=
  endpoint.connection.elim 0 ExerciseConnection.sent

def Endpoint.received (endpoint : Endpoint) : Nat :=
  endpoint.connection.elim 0 ExerciseConnection.received

/-- How the end's stage and its connection agree, with the error flag as it stands. -/
structure Endpoint.Sound (totalBytes : Nat) (flag : Bool) (endpoint : Endpoint) : Prop where
  connection : ∀ connection, endpoint.connection = some connection →
    connection.Sound totalBytes flag
  connecting : endpoint.stage = .connecting → endpoint.connection = none
  returned : endpoint.stage = .returned → ∃ connection,
    endpoint.connection = some connection ∧ connection.outcome = .returned
  raised : endpoint.stage = .raised → flag = true ∧
    ∀ connection, endpoint.connection = some connection → connection.outcome = .raised

theorem Endpoint.Sound.mono {endpoint : Endpoint} {flag flag' : Bool}
    (sound : endpoint.Sound totalBytes flag) (kept : flag = true → flag' = true) :
    endpoint.Sound totalBytes flag' where
  connection := fun connection same => (sound.connection connection same).mono kept
  connecting := sound.connecting
  returned := sound.returned
  raised := fun ended => ⟨kept (sound.raised ended).1, (sound.raised ended).2⟩

theorem Endpoint.sound_worker (flag : Bool) : Endpoint.worker.Sound totalBytes flag where
  connection := fun _ same => by cases same
  connecting := fun _ => rfl
  returned := fun ended => by cases ended
  raised := fun ended => by cases ended

theorem ExerciseConnection.sound_start (flag : Bool) :
    ExerciseConnection.Sound totalBytes flag {} where
  sender := Nat.zero_le _
  receiver := trivial
  returned := fun ended => by cases ended
  raised := fun ended => by cases ended

theorem Endpoint.sound_handleConnection (flag : Bool) :
    Endpoint.handleConnection.Sound totalBytes flag where
  connection := fun connection same => by
    cases same
    exact ExerciseConnection.sound_start flag
  connecting := fun connecting => by cases connecting
  returned := fun ended => by cases ended
  raised := fun ended => by cases ended

theorem ExerciseConnection.outcome_eq {connection next : ExerciseConnection}
    {event : ExerciseEvent} (ended : connection.outcome ≠ .running)
    (taken : connection.step crc32 totalBytes blockSize globals event = some (next, after)) :
    next.outcome = connection.outcome := by
  cases event with
  | sending event =>
      obtain ⟨_, _, same⟩ := Option.map_eq_some_iff.mp taken
      cases same
      rfl
  | receiving event =>
      obtain ⟨_, _, same⟩ := Option.map_eq_some_iff.mp taken
      cases same
      rfl
  | gathered =>
      rw [step, if_pos ended] at taken
      cases taken

theorem Endpoint.step_sound (positive : 1 ≤ blockSize) {endpoint next : Endpoint}
    {event : EndpointEvent} (sound : endpoint.Sound totalBytes globals.errorOccurred)
    (taken : endpoint.step crc32 totalBytes blockSize globals event = some (next, after)) :
    next.Sound totalBytes after.errorOccurred ∧
      Tallied globals after endpoint.sent next.sent endpoint.received next.received ∧
      (endpoint.ended = true → next.stage = endpoint.stage) := by
  cases event with
  | connected =>
      simp only [step] at taken
      split at taken
      · rename_i connecting
        have none := sound.connecting connecting
        cases taken
        refine ⟨⟨fun connection same => ?_, ?_, ?_, ?_⟩, ?_, ?_⟩
        · cases same
          exact ExerciseConnection.sound_start _
        · exact fun connecting => by cases connecting
        · exact fun ended => by cases ended
        · exact fun ended => by cases ended
        · simp only [sent, received, none]
          exact .refl _ _ _
        · simp [ended, connecting]
      · cases taken
  | connectFailed =>
      simp only [step] at taken
      split at taken
      · rename_i connecting
        have none := sound.connecting connecting
        cases taken
        refine ⟨⟨fun connection same => ?_, ?_, ?_, ?_⟩, .fail _ _ _, ?_⟩
        · cases none.symm.trans same
        · exact fun connecting => by cases connecting
        · exact fun ended => by cases ended
        · exact fun _ => ⟨rfl, fun connection same => by cases none.symm.trans same⟩
        · simp [ended, connecting]
      · cases taken
  | exercise event =>
      simp only [step] at taken
      cases held : endpoint.connection with
      | none =>
          rw [held] at taken
          cases taken
      | some connection =>
          rw [held] at taken
          obtain ⟨⟨connection', _⟩, stepped, same⟩ := Option.map_eq_some_iff.mp taken
          cases same
          obtain ⟨kept, tallied⟩ :=
            ExerciseConnection.step_sound positive (sound.connection _ held) stepped
          refine ⟨⟨fun connection same => ?_, ?_, ?_, ?_⟩, ?_, fun _ => rfl⟩
          · cases same
            exact kept
          · intro connecting
            cases held.symm.trans (sound.connecting connecting)
          · intro ended
            obtain ⟨_, same, outcome⟩ := sound.returned ended
            cases held.symm.trans same
            have live : connection.outcome ≠ .running := by simp [outcome]
            exact ⟨connection', rfl,
              (ExerciseConnection.outcome_eq live stepped).trans outcome⟩
          · intro ended
            obtain ⟨flag, outcome⟩ := sound.raised ended
            refine ⟨tallied.flag flag, fun _ same => ?_⟩
            cases same
            have live : connection.outcome ≠ .running := by simp [outcome _ held]
            exact (ExerciseConnection.outcome_eq live stepped).trans (outcome _ held)
          · simp only [sent, received, held]
            exact tallied
  | closed =>
      simp only [step] at taken
      split at taken
      · rename_i connection stage held
        split at taken
        · cases taken
        · rename_i outcome
          cases taken
          refine ⟨⟨sound.connection, ?_, fun _ => ⟨connection, held, outcome⟩, ?_⟩,
            .refl _ _ _, by simp [ended, stage]⟩
          · exact fun connecting => by cases connecting
          · exact fun ended => by cases ended
        · rename_i outcome
          cases taken
          refine ⟨⟨sound.connection, ?_, ?_, fun _ => ⟨?_, fun _ same => ?_⟩⟩,
            .refl _ _ _, by simp [ended, stage]⟩
          · exact fun connecting => by cases connecting
          · exact fun ended => by cases ended
          · exact ((sound.connection connection held).raised outcome).1
          · cases held.symm.trans same
            exact outcome
      · cases taken

/-! The whole benchmark. -/

def sumSent (endpoints : List Endpoint) : Nat := (endpoints.map Endpoint.sent).sum

def sumReceived (endpoints : List Endpoint) : Nat := (endpoints.map Endpoint.received).sum

structure Benchmark.Sound (workers totalBytes : Nat) (state : Benchmark) : Prop where
  up : state.globals.globalTotalUpBytes = sumSent state.workers + sumSent state.accepted
  down : state.globals.globalTotalDownBytes =
    sumReceived state.workers + sumReceived state.accepted
  working : ∀ endpoint ∈ state.workers,
    endpoint.Sound totalBytes state.globals.errorOccurred
  handling : ∀ endpoint ∈ state.accepted,
    endpoint.Sound totalBytes state.globals.errorOccurred
  launched : state.workers.length ≤ workers
  checked : state.monitor = .returned → state.totalsReached workers totalBytes = true
  watching : state.phase ≠ .starting → state.monitor ≠ .absent
  gathered : state.phase = .awaitingMonitor →
    ∀ endpoint ∈ state.workers, endpoint.stage = .returned
  clean : state.phase = .exited 0 → state.globals.errorOccurred = false

theorem Benchmark.totalsReached_iff {state : Benchmark} :
    state.totalsReached workers totalBytes = true ↔
      2 * workers * totalBytes ≤ state.globals.globalTotalUpBytes ∧
        2 * workers * totalBytes ≤ state.globals.globalTotalDownBytes := by
  simp [totalsReached]

theorem Benchmark.sound_start : Benchmark.Sound workers totalBytes {} where
  up := rfl
  down := rfl
  working := by simp
  handling := by simp
  launched := Nat.zero_le _
  checked := fun returned => by cases returned
  watching := fun later => absurd rfl later
  gathered := fun phase => by cases phase
  clean := fun phase => by cases phase

private theorem sound_set {endpoints : List Endpoint} {index : Nat} {endpoint : Endpoint}
    {flag flag' : Bool} (kept : flag = true → flag' = true)
    (sound : ∀ other ∈ endpoints, other.Sound totalBytes flag)
    (moved : endpoint.Sound totalBytes flag') :
    ∀ other ∈ endpoints.set index endpoint, other.Sound totalBytes flag' := by
  intro other member
  rcases List.mem_or_eq_of_mem_set member with before | rfl
  · exact (sound other before).mono kept
  · exact moved

private theorem stage_set {endpoints : List Endpoint} {index : Nat}
    {endpoint endpoint' : Endpoint} {stage : EndpointStage}
    (found : endpoints[index]? = some endpoint)
    (settled : ∀ other ∈ endpoints, other.stage = stage)
    (kept : endpoint'.stage = endpoint.stage) :
    ∀ other ∈ endpoints.set index endpoint', other.stage = stage := by
  intro other member
  rcases List.mem_or_eq_of_mem_set member with before | rfl
  · exact settled other before
  · exact kept.trans (settled endpoint (List.mem_of_getElem? found))

/-- Where the totals stand after a step of one of the ends. -/
theorem Tallied.totals {endpoints : List Endpoint} {index : Nat}
    {endpoint endpoint' : Endpoint}
    (tallied : Tallied globals after endpoint.sent endpoint'.sent endpoint.received
      endpoint'.received)
    (found : endpoints[index]? = some endpoint) :
    after.globalTotalUpBytes + sumSent endpoints =
        globals.globalTotalUpBytes + sumSent (endpoints.set index endpoint') ∧
      after.globalTotalDownBytes + sumReceived endpoints =
        globals.globalTotalDownBytes + sumReceived (endpoints.set index endpoint') ∧
      globals.globalTotalUpBytes ≤ after.globalTotalUpBytes ∧
      globals.globalTotalDownBytes ≤ after.globalTotalDownBytes := by
  have sent := sum_map_set Endpoint.sent found endpoint'
  have received := sum_map_set Endpoint.received found endpoint'
  have up := tallied.up
  have down := tallied.down
  have moreSent := tallied.moreSent
  have moreReceived := tallied.moreReceived
  unfold sumSent sumReceived
  omega

theorem Benchmark.Sound.mainStep {state next : Benchmark}
    (sound : state.Sound workers totalBytes) (taken : state.mainStep workers = some next) :
    next.Sound workers totalBytes := by
  rcases mainStep_cases taken with ⟨_, rfl⟩ | ⟨phase, more, rfl⟩ | ⟨phase, _, rfl⟩ |
    ⟨phase, ended, ⟨_, rfl⟩ | ⟨quiet, rfl⟩⟩ | ⟨phase, _, listener, rfl⟩ |
    ⟨phase, rfl | ⟨noError, rfl⟩⟩
  · exact { sound with
      checked := fun returned => by cases returned
      watching := fun _ => MonitorTask.noConfusion
      gathered := fun phase => by cases phase
      clean := fun phase => by cases phase }
  · exact { sound with
      up := by simp [sound.up, sumSent, Endpoint.worker, Endpoint.sent]
      down := by simp [sound.down, sumReceived, Endpoint.worker, Endpoint.received]
      working := by
        intro endpoint member
        rcases List.mem_append.mp member with old | new
        · exact sound.working endpoint old
        · rw [List.mem_singleton.mp new]
          exact Endpoint.sound_worker _
      launched := by
        rw [List.length_append, List.length_singleton]
        exact more
      gathered := fun waiting => by cases phase.symm.trans waiting }
  · exact { sound with
      watching := fun _ => sound.watching (by simp [phase])
      gathered := fun phase => by cases phase
      clean := fun phase => by cases phase }
  · exact { sound with
      watching := fun _ => sound.watching (by simp [phase])
      gathered := fun phase => by cases phase
      clean := fun phase => by cases phase }
  · exact { sound with
      watching := fun _ => sound.watching (by simp [phase])
      gathered := by
        intro _ endpoint member
        have settled := ended endpoint member
        have still : endpoint.stage ≠ .raised := by
          simpa using List.any_eq_false.mp quiet endpoint member
        simpa [Endpoint.ended, still] using settled
      clean := fun phase => by cases phase }
  · exact { sound with
      watching := fun _ => sound.watching (by simp [phase])
      gathered := fun phase => by cases phase
      clean := fun phase => by cases phase }
  · exact { sound with
      watching := fun _ => sound.watching (by simp [phase])
      gathered := fun phase => by cases phase
      clean := fun phase => by cases phase }
  · exact { sound with
      watching := fun _ => sound.watching (by simp [phase])
      gathered := fun phase => by cases phase
      clean := fun _ => noError }

theorem Benchmark.Sound.step (positive : 1 ≤ blockSize) {state next : Benchmark}
    {event : BenchmarkEvent} (sound : state.Sound workers totalBytes)
    (taken : state.step crc32 workers totalBytes blockSize event = some next) :
    next.Sound workers totalBytes := by
  obtain ⟨live, ⟨listener, _, rfl⟩ | ⟨_, rfl⟩ |
    ⟨index, cause, endpoint, endpoint', globals, _, found, stepped, rfl⟩ |
    ⟨index, cause, endpoint, endpoint', globals, _, found, stepped, rfl⟩ |
    ⟨_, sleeping, rfl⟩ | ⟨_, moved⟩⟩ := step_cases taken
  · exact { sound with }
  · exact { sound with
      up := by simp [sound.up, sumSent, Endpoint.handleConnection, Endpoint.sent,
        ExerciseConnection.sent]
      down := by simp [sound.down, sumReceived, Endpoint.handleConnection,
        Endpoint.received, ExerciseConnection.received]
      handling := by
        intro endpoint member
        rcases List.mem_append.mp member with old | new
        · exact sound.handling endpoint old
        · rw [List.mem_singleton.mp new]
          exact Endpoint.sound_handleConnection _ }
  · obtain ⟨kept, tallied, settled⟩ := Endpoint.step_sound positive
      (sound.working endpoint (List.mem_of_getElem? found)) stepped
    obtain ⟨sent, received, moreUp, moreDown⟩ := tallied.totals found
    have up := sound.up
    have down := sound.down
    exact {
      up := by simp only; omega
      down := by simp only; omega
      working := sound_set tallied.flag sound.working kept
      handling := fun other member => (sound.handling other member).mono tallied.flag
      launched := by
        rw [List.length_set]
        exact sound.launched
      checked := by
        intro returned
        have before := totalsReached_iff.mp (sound.checked returned)
        exact totalsReached_iff.mpr ⟨before.1.trans moreUp, before.2.trans moreDown⟩
      watching := sound.watching
      gathered := by
        intro waiting
        have returned := sound.gathered waiting endpoint (List.mem_of_getElem? found)
        apply stage_set found (sound.gathered waiting)
        exact settled (by simp [Endpoint.ended, returned])
      clean := fun exited => absurd exited (live 0) }
  · obtain ⟨kept, tallied, _⟩ := Endpoint.step_sound positive
      (sound.handling endpoint (List.mem_of_getElem? found)) stepped
    obtain ⟨sent, received, moreUp, moreDown⟩ := tallied.totals found
    have up := sound.up
    have down := sound.down
    exact {
      up := by simp only; omega
      down := by simp only; omega
      working := fun other member => (sound.working other member).mono tallied.flag
      handling := sound_set tallied.flag sound.handling kept
      launched := sound.launched
      checked := by
        intro returned
        have before := totalsReached_iff.mp (sound.checked returned)
        exact totalsReached_iff.mpr ⟨before.1.trans moreUp, before.2.trans moreDown⟩
      watching := sound.watching
      gathered := sound.gathered
      clean := fun exited => absurd exited (live 0) }
  · exact { sound with
      checked := by
        intro returned
        have reached : state.totalsReached workers totalBytes = true := by
          simpa using returned
        exact reached
      watching := by
        intro _
        simp only
        split <;> exact MonitorTask.noConfusion }
  · exact sound.mainStep moved

/-! When a verdict is due. -/

/-- All transfers have ended, those of the workers and those on the listener's side. -/
def Benchmark.Ended (workers : Nat) (state : Benchmark) : Prop :=
  state.workers.length = workers ∧
    ∀ endpoint ∈ state.workers ++ state.accepted, endpoint.ended = true

def Benchmark.VerdictDue (workers totalBytes : Nat) (state : Benchmark) : Prop :=
  state.runWorkersRaises = true ∨ state.totalsReached workers totalBytes = true

/-- No failure was met on the listener's side alone: a worker has failed too, or there
is a transfer without failure on the listener's side for every worker. -/
def Benchmark.Covered (workers totalBytes : Nat) (state : Benchmark) : Prop :=
  (∃ endpoint ∈ state.workers, endpoint.stage = .raised) ∨ totalBytes = 0 ∨
    workers ≤ state.accepted.countP fun endpoint => endpoint.stage = .returned

theorem Benchmark.runWorkersRaises_iff {state : Benchmark} :
    state.runWorkersRaises = true ↔ ∃ endpoint ∈ state.workers, endpoint.stage = .raised := by
  simp [runWorkersRaises]

private theorem countP_mul_le {α : Type} {items : List α} {measure : α → Nat} {bound : Nat}
    {property : α → Bool} (full : ∀ item ∈ items, property item = true → bound ≤ measure item) :
    items.countP property * bound ≤ (items.map measure).sum := by
  induction items with
  | nil => simp
  | cons item items ih =>
      rw [List.forall_mem_cons] at full
      have rest := ih full.2
      rw [List.countP_cons, List.map_cons, List.sum_cons, Nat.add_mul]
      split
      · have first := full.1 ‹_›
        omega
      · omega

private theorem sum_map_le {α : Type} {items : List α} {measure : α → Nat} {bound : Nat}
    (bounded : ∀ item ∈ items, measure item ≤ bound) :
    (items.map measure).sum ≤ items.length * bound := by
  induction items with
  | nil => exact Nat.zero_le _
  | cons item items ih =>
      rw [List.forall_mem_cons] at bounded
      have others := ih bounded.2
      rw [List.map_cons, List.sum_cons, List.length_cons, Nat.add_mul, Nat.one_mul]
      have first := bounded.1
      omega

/-- A sum that could not be larger has each of its parts at the bound. -/
private theorem eq_of_mul_le_sum {α : Type} {items : List α} {measure : α → Nat}
    {bound count : Nat} (positive : 0 < bound) (short : items.length ≤ count)
    (bounded : ∀ item ∈ items, measure item ≤ bound)
    (full : count * bound ≤ (items.map measure).sum) :
    items.length = count ∧ ∀ item ∈ items, measure item = bound := by
  induction items generalizing count with
  | nil =>
      simp only [List.map_nil, List.sum_nil, Nat.le_zero, Nat.mul_eq_zero] at full
      refine ⟨?_, by simp⟩
      rw [List.length_nil]
      omega
  | cons item items ih =>
      obtain ⟨count, rfl⟩ : ∃ smaller, count = smaller + 1 :=
        ⟨count - 1, by rw [List.length_cons] at short; omega⟩
      rw [List.length_cons] at short
      rw [List.forall_mem_cons] at bounded
      rw [List.map_cons, List.sum_cons, Nat.add_mul, Nat.one_mul] at full
      have first := bounded.1
      have others := sum_map_le bounded.2
      have fewer : items.length * bound ≤ count * bound :=
        Nat.mul_le_mul_right bound (by omega)
      obtain ⟨length, rest⟩ := @ih count (by omega) bounded.2 (by omega)
      refine ⟨by rw [List.length_cons, length], List.forall_mem_cons.mpr ⟨by omega, rest⟩⟩

section Totals

variable {state : Benchmark}

/-- What the ends of a benchmark count, by how they have ended. -/
theorem Endpoint.Sound.returned_totals {endpoint : Endpoint} {flag : Bool}
    (sound : endpoint.Sound totalBytes flag) (returned : endpoint.stage = .returned) :
    totalBytes ≤ endpoint.sent ∧ totalBytes ≤ endpoint.received := by
  obtain ⟨connection, held, outcome⟩ := sound.returned returned
  have tasks := sound.connection connection held
  obtain ⟨sender, receiver⟩ := tasks.returned outcome
  have sent := tasks.sender
  have received := tasks.receiver
  simp only [SendBlocks.Sound, sender] at sent
  simp only [ReceiveBlocks.Sound, receiver] at received
  simp only [Endpoint.sent, Endpoint.received, held]
  exact ⟨Nat.le_of_eq sent.symm, received⟩

theorem Endpoint.Sound.sent_le {endpoint : Endpoint} {flag : Bool}
    (sound : endpoint.Sound totalBytes flag) : endpoint.sent ≤ totalBytes := by
  unfold sent
  cases held : endpoint.connection with
  | none => exact Nat.zero_le _
  | some connection => exact (sound.connection connection held).sender.le

theorem Endpoint.Sound.raised_totals {endpoint : Endpoint} {flag : Bool}
    (positive : 0 < totalBytes) (sound : endpoint.Sound totalBytes flag)
    (raised : endpoint.stage = .raised) :
    endpoint.sent < totalBytes ∨ endpoint.received < totalBytes := by
  unfold sent received
  cases held : endpoint.connection with
  | none => exact .inl positive
  | some connection =>
      have tasks := sound.connection connection held
      obtain ⟨_, sender | receiver⟩ := tasks.raised ((sound.raised raised).2 connection held)
      · have sent := tasks.sender
        simp only [SendBlocks.Sound, sender] at sent
        exact .inl sent
      · have received := tasks.receiver
        simp only [ReceiveBlocks.Sound, receiver] at received
        exact .inr received

/-- A failure that is not the listener's alone leaves a verdict to be given. -/
theorem Benchmark.Sound.verdictDue (sound : state.Sound workers totalBytes)
    (ended : state.Ended workers) (covered : state.Covered workers totalBytes) :
    state.VerdictDue workers totalBytes := by
  by_cases failed : ∃ endpoint ∈ state.workers, endpoint.stage = .raised
  · exact .inl (runWorkersRaises_iff.mpr failed)
  · right
    rw [totalsReached_iff, sound.up, sound.down]
    rcases covered.resolve_left failed with rfl | enough
    · simp
    have returned : ∀ endpoint ∈ state.workers, endpoint.stage = .returned := by
      intro endpoint member
      have settled := ended.2 endpoint (List.mem_append_left _ member)
      have sound : endpoint.stage ≠ .raised := fun raised => failed ⟨endpoint, member, raised⟩
      simpa [Endpoint.ended, sound] using settled
    have all : state.workers.countP (fun endpoint => endpoint.stage = .returned) = workers := by
      rw [← ended.1, List.countP_eq_length]
      simpa using returned
    have counts : ∀ (endpoints : List Endpoint),
        (∀ endpoint ∈ endpoints, endpoint.Sound totalBytes state.globals.errorOccurred) →
        workers ≤ endpoints.countP (fun endpoint => endpoint.stage = .returned) →
        workers * totalBytes ≤ sumSent endpoints ∧
          workers * totalBytes ≤ sumReceived endpoints := by
      intro endpoints each many
      have most := Nat.mul_le_mul_right totalBytes many
      constructor
      · exact most.trans (countP_mul_le fun endpoint member stage =>
          ((each endpoint member).returned_totals (by simpa using stage)).1)
      · exact most.trans (countP_mul_le fun endpoint member stage =>
          ((each endpoint member).returned_totals (by simpa using stage)).2)
    obtain ⟨sent, received⟩ := counts state.workers sound.working (Nat.le_of_eq all.symm)
    obtain ⟨sent', received'⟩ := counts state.accepted sound.handling enough
    rw [Nat.mul_assoc]
    omega

/-- Where nobody counts more than was sent, no other failure does. -/
theorem Benchmark.Sound.covered (sound : state.Sound workers totalBytes)
    (ended : state.Ended workers) (few : state.accepted.length ≤ workers)
    (honest : ∀ endpoint ∈ state.workers ++ state.accepted, endpoint.received ≤ totalBytes)
    (due : state.VerdictDue workers totalBytes) : state.Covered workers totalBytes := by
  rcases due with raises | reached
  · exact .inl (runWorkersRaises_iff.mp raises)
  right
  rcases Nat.eq_zero_or_pos totalBytes with zero | positive
  · exact .inl zero
  right
  rw [totalsReached_iff, sound.up, sound.down, Nat.mul_assoc] at reached
  have counts : ∀ (measure : Endpoint → Nat),
      (∀ endpoint ∈ state.workers ++ state.accepted, measure endpoint ≤ totalBytes) →
      2 * (workers * totalBytes) ≤
        (state.workers.map measure).sum + (state.accepted.map measure).sum →
      state.accepted.length = workers ∧
        ∀ endpoint ∈ state.accepted, measure endpoint = totalBytes := by
    intro measure bounded full
    rw [List.forall_mem_append] at bounded
    have most := sum_map_le bounded.1
    rw [ended.1] at most
    exact eq_of_mul_le_sum positive few bounded.2 (by omega)
  have bounded : ∀ endpoint ∈ state.workers ++ state.accepted, endpoint.sent ≤ totalBytes := by
    rw [List.forall_mem_append]
    exact ⟨fun endpoint member => (sound.working endpoint member).sent_le,
      fun endpoint member => (sound.handling endpoint member).sent_le⟩
  obtain ⟨all, sent⟩ := counts Endpoint.sent bounded reached.1
  obtain ⟨_, received⟩ := counts Endpoint.received honest reached.2
  have returned : ∀ endpoint ∈ state.accepted, endpoint.stage = .returned := by
    intro endpoint member
    have settled := ended.2 endpoint (List.mem_append_right _ member)
    have whole : endpoint.stage ≠ .raised := by
      intro raised
      have short := (sound.handling endpoint member).raised_totals positive raised
      rw [sent endpoint member, received endpoint member] at short
      exact short.elim (Nat.lt_irrefl _) (Nat.lt_irrefl _)
    simpa [Endpoint.ended, whole] using settled
  rw [List.countP_eq_length.mpr (by simpa using returned), all]

end Totals

/-! From a verdict that is due to the end of the process. -/

def MainPhase.rank : MainPhase → Nat
  | .starting => 5
  | .launching => 4
  | .gathering => 3
  | .awaitingMonitor => 2
  | .awaitingListener => 1
  | .exited _ => 0

/-- All workers have ended and a verdict is due. -/
structure Benchmark.Concluding (workers totalBytes : Nat) (state : Benchmark) : Prop where
  sound : state.Sound workers totalBytes
  launched : state.workers.length = workers
  ended : ∀ endpoint ∈ state.workers, endpoint.ended = true
  due : state.VerdictDue workers totalBytes

private theorem exists_mem_set {α : Type} {items : List α} {index : Nat} {item item' : α}
    {property : α → Prop} (found : items[index]? = some item)
    (kept : property item → property item')
    (held : ∃ other ∈ items, property other) :
    ∃ other ∈ items.set index item', property other := by
  obtain ⟨other, member, holds⟩ := held
  obtain ⟨place, present⟩ := List.mem_iff_getElem?.mp member
  rcases eq_or_ne index place with rfl | apart
  · cases found.symm.trans present
    have within := (List.getElem?_eq_some_iff.mp found).1
    exact ⟨item', List.mem_set within item', kept holds⟩
  · refine ⟨other, List.mem_iff_getElem?.mpr ⟨place, ?_⟩, holds⟩
    rw [List.getElem?_set_ne apart, present]

theorem Benchmark.Concluding.step (positive : 1 ≤ blockSize) {state next : Benchmark}
    {event : BenchmarkEvent} (holds : state.Concluding workers totalBytes)
    (taken : state.step crc32 workers totalBytes blockSize event = some next) :
    next.Concluding workers totalBytes ∧
      [event].count .main + next.phase.rank ≤ state.phase.rank := by
  have sound := holds.sound.step positive taken
  obtain ⟨live, ⟨listener, other, rfl⟩ | ⟨rfl, rfl⟩ |
    ⟨index, cause, endpoint, endpoint', globals, rfl, found, stepped, rfl⟩ |
    ⟨index, cause, endpoint, endpoint', globals, rfl, found, stepped, rfl⟩ |
    ⟨rfl, sleeping, rfl⟩ | ⟨rfl, moved⟩⟩ := step_cases taken
  · exact ⟨⟨sound, holds.launched, holds.ended, holds.due⟩, by simp [other]⟩
  · exact ⟨⟨sound, holds.launched, holds.ended, holds.due⟩, by simp⟩
  · have member := List.mem_of_getElem? found
    obtain ⟨_, tallied, settled⟩ :=
      Endpoint.step_sound positive (holds.sound.working endpoint member) stepped
    have stage := settled (holds.ended endpoint member)
    obtain ⟨_, _, moreUp, moreDown⟩ := tallied.totals found
    refine ⟨⟨sound, (List.length_set ..).trans holds.launched, ?_, ?_⟩, by simp⟩
    · intro other member
      rcases List.mem_or_eq_of_mem_set member with before | rfl
      · exact holds.ended other before
      · rw [Endpoint.ended, stage]
        exact holds.ended endpoint (List.mem_of_getElem? found)
    · rcases holds.due with raises | reached
      · left
        rw [runWorkersRaises_iff] at raises ⊢
        exact exists_mem_set found (fun raised => stage.trans raised) raises
      · right
        have before := totalsReached_iff.mp reached
        exact totalsReached_iff.mpr ⟨before.1.trans moreUp, before.2.trans moreDown⟩
  · obtain ⟨_, tallied, _⟩ := Endpoint.step_sound positive
      (holds.sound.handling endpoint (List.mem_of_getElem? found)) stepped
    obtain ⟨_, _, moreUp, moreDown⟩ := tallied.totals found
    refine ⟨⟨sound, holds.launched, holds.ended, ?_⟩, by simp⟩
    rcases holds.due with raises | reached
    · exact .inl raises
    · right
      have before := totalsReached_iff.mp reached
      exact totalsReached_iff.mpr ⟨before.1.trans moreUp, before.2.trans moreDown⟩
  · exact ⟨⟨sound, holds.launched, holds.ended, holds.due⟩, by simp⟩
  · rcases mainStep_cases moved with ⟨phase, rfl⟩ | ⟨phase, more, rfl⟩ | ⟨phase, _, rfl⟩ |
      ⟨phase, _, ⟨_, rfl⟩ | ⟨_, rfl⟩⟩ | ⟨phase, _, listener, rfl⟩ |
      ⟨phase, rfl | ⟨_, rfl⟩⟩
    on_goal 2 => exact absurd holds.launched (Nat.ne_of_lt more)
    all_goals exact ⟨⟨sound, holds.launched, holds.ended, holds.due⟩,
      by simp [phase, MainPhase.rank]⟩

/-- `async_main` goes on by itself, if need be once the monitor has looked again. -/
def Benchmark.GoesOn (crc32 : Bytes → UInt32) (workers totalBytes blockSize : Nat)
    (state : Benchmark) : Prop :=
  (∃ next, state.step crc32 workers totalBytes blockSize .main = some next) ∨
    ∃ checked next,
      state.step crc32 workers totalBytes blockSize .monitorChecked = some checked ∧
      checked.step crc32 workers totalBytes blockSize .main = some next

theorem Benchmark.Concluding.goesOn {state : Benchmark}
    (holds : state.Concluding workers totalBytes)
    (live : ∀ code, state.phase ≠ .exited code) :
    state.GoesOn crc32 workers totalBytes blockSize := by
  cases phase : state.phase with
  | starting => exact .inl (by simp [Benchmark.step, mainStep, phase])
  | launching => exact .inl (by simp [Benchmark.step, mainStep, phase, holds.launched])
  | gathering =>
      have ended : state.workers.all Endpoint.ended = true := List.all_eq_true.mpr holds.ended
      left
      simp only [Benchmark.step, mainStep, phase, ended, if_true]
      split <;> exact ⟨_, rfl⟩
  | awaitingMonitor =>
      have returned := holds.sound.gathered phase
      have reached : state.totalsReached workers totalBytes = true := by
        rcases holds.due with raises | reached
        · obtain ⟨endpoint, member, raised⟩ := runWorkersRaises_iff.mp raises
          cases raised.symm.trans (returned endpoint member)
        · exact reached
      cases monitor : state.monitor with
      | absent => exact absurd monitor (holds.sound.watching (by simp [phase]))
      | sleeping =>
          refine .inr ⟨{ state with monitor := .returned }, ?_⟩
          simp [Benchmark.step, mainStep, phase, monitor, reached]
      | returned => exact .inl (by simp [Benchmark.step, mainStep, phase, monitor])
  | awaitingListener =>
      left
      simp only [Benchmark.step, mainStep, phase]
      split <;> exact ⟨_, rfl⟩
  | exited code => exact absurd phase (live code)

/-- A task or the connecting itself has failed at this end. -/
def Endpoint.Failed (endpoint : Endpoint) : Prop :=
  endpoint.stage = .raised ∨ ∃ connection, endpoint.connection = some connection ∧
    (connection.sender.stage = .raised ∨ connection.receiver.stage = .raised)

theorem Endpoint.Sound.not_failed {endpoint : Endpoint}
    (sound : endpoint.Sound totalBytes false) (ended : endpoint.ended = true) :
    ¬ endpoint.Failed := by
  have whole : endpoint.stage ≠ .raised := by
    intro raised
    cases (sound.raised raised).1
  have returned : endpoint.stage = .returned := by
    simpa [Endpoint.ended, whole] using ended
  obtain ⟨connection, held, outcome⟩ := sound.returned returned
  obtain ⟨sender, receiver⟩ := (sound.connection connection held).returned outcome
  rintro (raised | ⟨other, same, raised⟩)
  · exact whole raised
  · cases held.symm.trans same
    rw [sender, receiver] at raised
    rcases raised with raised | raised <;> cases raised

theorem Benchmark.step_flag (positive : 1 ≤ blockSize) {state next : Benchmark}
    {event : BenchmarkEvent} (sound : state.Sound workers totalBytes)
    (taken : state.step crc32 workers totalBytes blockSize event = some next)
    (flag : state.globals.errorOccurred = true) : next.globals.errorOccurred = true := by
  obtain ⟨_, ⟨listener, _, rfl⟩ | ⟨_, rfl⟩ |
    ⟨index, cause, endpoint, endpoint', globals, _, found, stepped, rfl⟩ |
    ⟨index, cause, endpoint, endpoint', globals, _, found, stepped, rfl⟩ |
    ⟨_, _, rfl⟩ | ⟨_, moved⟩⟩ := step_cases taken
  · exact flag
  · exact flag
  · have member := List.mem_of_getElem? found
    exact (Endpoint.step_sound positive (sound.working endpoint member) stepped).2.1.flag flag
  · have member := List.mem_of_getElem? found
    exact (Endpoint.step_sound positive (sound.handling endpoint member) stepped).2.1.flag flag
  · exact flag
  · rcases mainStep_cases moved with ⟨_, rfl⟩ | ⟨_, _, rfl⟩ | ⟨_, _, rfl⟩ |
      ⟨_, _, ⟨_, rfl⟩ | ⟨_, rfl⟩⟩ | ⟨_, _, _, rfl⟩ | ⟨_, rfl | ⟨_, rfl⟩⟩
    all_goals exact flag

/-- A process that exits with code 0 has met no error up to then. -/
theorem Benchmark.Sound.exit_clean (positive : 1 ≤ blockSize) {state final : Benchmark}
    {events : List BenchmarkEvent} (sound : state.Sound workers totalBytes)
    (ran : run (Benchmark.step crc32 workers totalBytes blockSize) state events = some final)
    (exited : final.phase = .exited 0) {endpoint : Endpoint}
    (member : endpoint ∈ state.workers ++ state.accepted ∨
      endpoint ∈ final.workers ++ final.accepted)
    (ended : endpoint.ended = true) : ¬ endpoint.Failed := by
  obtain ⟨later, kept⟩ := run_invariant
    (fun other => Benchmark.Sound workers totalBytes other ∧
      (state.globals.errorOccurred = true → other.globals.errorOccurred = true))
    (fun _ _ _ holds taken => ⟨holds.1.step positive taken,
      fun flag => step_flag positive holds.1 taken (holds.2 flag)⟩)
    ⟨sound, id⟩ ran
  have none := later.clean exited
  have before : state.globals.errorOccurred = false := by
    rw [Bool.eq_false_iff]
    intro flag
    cases none.symm.trans (kept flag)
  have whole : endpoint.Sound totalBytes false := by
    rcases member with member | member
    · rw [← before]
      rcases List.mem_append.mp member with worker | handler
      · exact sound.working endpoint worker
      · exact sound.handling endpoint handler
    · rw [← none]
      rcases List.mem_append.mp member with worker | handler
      · exact later.working endpoint worker
      · exact later.handling endpoint handler
  exact whole.not_failed ended

/-- In every reachable state in which all transfers have ended, a verdict is due if the
failures are not the listener's alone, and only then where nobody counts more than was
sent.  Where it is due, the process comes to its end, and it says 0 only without errors. -/
theorem Benchmark.reaches_verdict {crc32 : Bytes → UInt32}
    {workers totalBytes blockSize : Nat} (positive : 1 ≤ blockSize) {state : Benchmark}
    (reached : Reachable (step crc32 workers totalBytes blockSize) {} state)
    (ended : state.Ended workers) :
    (state.Covered workers totalBytes → state.VerdictDue workers totalBytes) ∧
      (state.accepted.length ≤ workers →
        (∀ endpoint ∈ state.workers ++ state.accepted, endpoint.received ≤ totalBytes) →
        state.VerdictDue workers totalBytes → state.Covered workers totalBytes) ∧
      ∀ events final, run (step crc32 workers totalBytes blockSize) state events = some final →
        (state.VerdictDue workers totalBytes →
          events.count .main ≤ 5 ∧
          (final.Ended workers → (∃ code, final.phase = .exited code) ∨
            final.GoesOn crc32 workers totalBytes blockSize)) ∧
        (final.phase = .exited 0 →
          (∀ endpoint ∈ state.workers ++ state.accepted, ¬ endpoint.Failed) ∧
          ∀ endpoint ∈ final.workers ++ final.accepted, endpoint.ended = true →
            ¬ endpoint.Failed) := by
  have sound := reached.invariant (Benchmark.Sound workers totalBytes)
    (fun _ _ _ sound taken => sound.step positive taken) sound_start
  refine ⟨sound.verdictDue ended, sound.covered ended, fun events final ran => ⟨?_, ?_⟩⟩
  · intro due
    have start : state.Concluding workers totalBytes :=
      ⟨sound, ended.1, fun endpoint member => ended.2 endpoint (List.mem_append_left _ member),
        due⟩
    obtain ⟨holds, count⟩ := run_history_invariant
      (fun history other => Benchmark.Concluding workers totalBytes other ∧
        history.count .main + other.phase.rank ≤ state.phase.rank)
      (fun history other event next holds taken => by
        obtain ⟨kept, less⟩ := holds.1.step positive taken
        have count := holds.2
        rw [List.count_append]
        exact ⟨kept, by omega⟩)
      ⟨start, by simp⟩ ran
    have most : state.phase.rank ≤ 5 := by cases state.phase <;> simp [MainPhase.rank]
    refine ⟨by omega, fun _ => ?_⟩
    by_cases exited : ∃ code, final.phase = .exited code
    · exact .inl exited
    · exact .inr (holds.goesOn (not_exists.mp exited))
  · intro exited
    exact ⟨fun endpoint member =>
        sound.exit_clean positive ran exited (.inl member) (ended.2 endpoint member),
      fun endpoint member => sound.exit_clean positive ran exited (.inr member)⟩

/-! One worker that sends one byte and gets one back, and what becomes of its byte on the
way to the listener. -/

def Benchmark.singleEvents (arrived : UInt8) : List BenchmarkEvent :=
  let send (task : ExerciseEvent → BenchmarkEvent) : List BenchmarkEvent :=
    [task (.sending (.urandom [7])), task (.sending .drained),
      task (.sending (.writeEof true))]
  let receive (task : ExerciseEvent → BenchmarkEvent) (byte : UInt8) : List BenchmarkEvent :=
    [task (.receiving (.fed (.data [0, 0, 0, 1, 76, 102, 122, 46, byte]))),
      task (.receiving .resumed), task (.receiving .resumed)]
  let worker (event : ExerciseEvent) : BenchmarkEvent := .worker 0 (.exercise event)
  let handler (event : ExerciseEvent) : BenchmarkEvent := .handler 0 (.exercise event)
  [.listening true, .main, .main, .worker 0 .connected, .accepted] ++ send worker ++
    send handler ++ receive worker 7 ++ receive handler arrived ++
    [worker (.receiving .resumed), worker .gathered, .worker 0 .closed]

def Benchmark.returnedEndpoint : Endpoint where
  stage := .returned
  connection := some
    { sender := { bytesSent := 1, stage := .returned }
      receiver := { bytesReceived := 1, stage := .returned }
      outcome := .returned }

def Benchmark.wholeState : Benchmark where
  phase := .launching
  listener := .serving
  monitor := .sleeping
  workers := [returnedEndpoint]
  accepted := [returnedEndpoint]
  globals := { globalTotalUpBytes := 2, globalTotalDownBytes := 2 }

theorem Benchmark.reaches_verdict_whole :
    wholeState.Covered 1 1 ∧ wholeState.VerdictDue 1 1 := by
  have ran : run (step StressTest.crc32 1 1 1) {}
      (singleEvents 7 ++
        [.handler 0 (.exercise (.receiving .resumed)), .handler 0 (.exercise .gathered),
          .handler 0 .closed]) = some wholeState := by decide +kernel
  have ended : wholeState.Ended 1 := ⟨rfl, by decide⟩
  have covered : wholeState.Covered 1 1 := .inr (.inr (by decide))
  exact ⟨covered, (reaches_verdict (by decide) ⟨_, ran⟩ ended).1 covered⟩

/-- The listener's end of the connection meets the changed byte; the worker's is content. -/
def Benchmark.unnoticedState : Benchmark where
  phase := .awaitingMonitor
  listener := .serving
  monitor := .sleeping
  workers := [returnedEndpoint]
  accepted :=
    [{ stage := .raised
       connection := some
        { sender := { bytesSent := 1, stage := .returned }
          receiver := { bytesReceived := 0, stage := .raised }
          outcome := .raised } }]
  globals :=
    { globalTotalUpBytes := 2, globalTotalDownBytes := 1, errorOccurred := true }

theorem Benchmark.not_reaches_verdict :
    Reachable (step StressTest.crc32 1 1 1) {} unnoticedState ∧ unnoticedState.Ended 1 ∧
      ¬ unnoticedState.VerdictDue 1 1 := by
  have ran : run (step StressTest.crc32 1 1 1) {}
      (singleEvents 8 ++
        [.handler 0 (.exercise .gathered), .handler 0 .closed, .main, .main,
          .monitorChecked]) = some unnoticedState := by decide +kernel
  refine ⟨⟨_, ran⟩, ⟨rfl, by decide⟩, ?_⟩
  simp [VerdictDue, unnoticedState, runWorkersRaises, totalsReached, returnedEndpoint]

end PortRedirect.StressTest
