import PortRedirect.Stream.Pipe
import PortRedirect.StressTest.Blocks

namespace PortRedirect.StressTest

open PortRedirect.Text
open PortRedirect.Stream
open PortRedirect.Transition

/-! `send_blocks` at one end of a reliable stream and `receive_blocks` at the other, with
no failure of either's surroundings.  The stream hands on what was written in fragments
of any size. -/

structure RoundTrip where
  sender : SendBlocks := {}
  pipe : Pipe := {}
  receiver : ReceiveBlocks := {}
  globals : Globals := {}
deriving DecidableEq, Repr

inductive RoundTripEvent where
  | sending (event : SendEvent)
  | delivered (bytes : Bytes)
  | ended
  | resumed
deriving DecidableEq, Repr

section System

variable (crc32 : Bytes → UInt32) (totalBytes blockSize : Nat)

/-- What a step of the sender does to the stream. -/
def SendEvent.effect (pipe : Pipe) : SendEvent → Pipe
  | .writeEof supported => if supported then pipe.finish else pipe
  | event => pipe.write (event.written crc32)

def RoundTrip.step (state : RoundTrip) : RoundTripEvent → Option RoundTrip
  | .sending event =>
      if event.fault then none
      else
        (state.sender.step crc32 totalBytes blockSize state.globals event).map
          fun (sender, globals) =>
            { state with
              sender := sender, globals := globals, pipe := event.effect crc32 state.pipe }
  | .delivered bytes =>
      match state.pipe.deliver bytes with
      | none => none
      | some pipe =>
          (state.receiver.step crc32 totalBytes state.globals (.fed (.data bytes))).map
            fun (receiver, globals) =>
              { state with pipe := pipe, receiver := receiver, globals := globals }
  | .ended =>
      if state.pipe.AtEnd then
        (state.receiver.step crc32 totalBytes state.globals (.fed .eof)).map
          fun (receiver, globals) =>
            { state with receiver := receiver, globals := globals }
      else none
  | .resumed =>
      (state.receiver.step crc32 totalBytes state.globals .resumed).map
        fun (receiver, globals) => { state with receiver := receiver, globals := globals }

end System

variable {crc32 : Bytes → UInt32} {totalBytes blockSize : Nat}

/-- All that a step can be. -/
theorem RoundTrip.step_cases {state next : RoundTrip} {event : RoundTripEvent}
    (taken : state.step crc32 totalBytes blockSize event = some next) :
    (∃ cause sender globals, cause.fault = false ∧
        state.sender.step crc32 totalBytes blockSize state.globals cause =
          some (sender, globals) ∧
        next = { state with
          sender := sender, globals := globals, pipe := cause.effect crc32 state.pipe }) ∨
      (∃ bytes pipe reader, state.pipe.deliver bytes = some pipe ∧
        state.receiver.reader.feed (.data bytes) = some reader ∧
        next = { state with
          pipe := pipe, receiver := { state.receiver with reader := reader } }) ∨
      (∃ reader, state.pipe.AtEnd ∧ state.receiver.reader.feed .eof = some reader ∧
        next = { state with receiver := { state.receiver with reader := reader } }) ∨
      (∃ receiver globals,
        state.receiver.resume crc32 totalBytes state.globals = some (receiver, globals) ∧
        next = { state with receiver := receiver, globals := globals }) := by
  cases event with
  | sending cause =>
      simp only [step] at taken
      split at taken
      · cases taken
      · rename_i sound
        obtain ⟨⟨sender, globals⟩, stepped, same⟩ := Option.map_eq_some_iff.mp taken
        exact .inl ⟨cause, sender, globals, Bool.not_eq_true _ ▸ sound, stepped, same.symm⟩
  | delivered bytes =>
      simp only [step] at taken
      cases handed : state.pipe.deliver bytes with
      | none =>
          rw [handed] at taken
          cases taken
      | some pipe =>
          rw [handed] at taken
          obtain ⟨_, stepped, same⟩ := Option.map_eq_some_iff.mp taken
          obtain ⟨reader, fed, rfl⟩ := Option.map_eq_some_iff.mp stepped
          exact .inr (.inl ⟨bytes, pipe, reader, handed, fed, same.symm⟩)
  | ended =>
      simp only [step] at taken
      split at taken
      · rename_i atEnd
        obtain ⟨_, stepped, same⟩ := Option.map_eq_some_iff.mp taken
        obtain ⟨reader, fed, rfl⟩ := Option.map_eq_some_iff.mp stepped
        exact .inr (.inr (.inl ⟨reader, atEnd, fed, same.symm⟩))
      · cases taken
  | resumed =>
      obtain ⟨⟨receiver, globals⟩, stepped, same⟩ := Option.map_eq_some_iff.mp taken
      exact .inr (.inr (.inr ⟨receiver, globals, stepped, same.symm⟩))

theorem written_eq {data header : Bytes}
    (packed : pack data.length (crc32 data) = some header) :
    SendEvent.written crc32 (.urandom data) = header ++ data := by
  rw [SendEvent.written, packed]
  rfl

theorem written_length {data header : Bytes}
    (packed : pack data.length (crc32 data) = some header) :
    (SendEvent.written crc32 (.urandom data)).length = 8 + data.length := by
  rw [written_eq packed, List.length_append, (pack_eq_some packed).1]

/-! Every step uses something up: a byte to generate, a byte in flight, a byte to read, a
stage, or the end of the stream. -/

def SendStage.rank : SendStage → Nat
  | .looping => 1
  | .draining _ => 2
  | .returned | .raised => 0

def ReceiveStage.rank : ReceiveStage → Nat
  | .header => 2
  | .data _ _ => 3
  | .returned | .raised => 0

def RoundTrip.measure (totalBytes : Nat) (state : RoundTrip) : Nat :=
  20 * (totalBytes - (state.sender.bytesSent + state.sender.stage.uncounted)) +
    state.sender.stage.rank + 2 * state.pipe.pending.length +
    (state.receiver.reader.buffer.length + state.receiver.stage.rank +
      if state.receiver.reader.eof then 0 else 1)

private theorem resume_rank {task next : ReceiveBlocks} {globals after : Globals}
    (taken : task.resume crc32 totalBytes globals = some (next, after)) :
    next.reader.buffer.length + next.stage.rank <
        task.reader.buffer.length + task.stage.rank ∧
      next.reader.eof = task.reader.eof := by
  have taken : task.step crc32 totalBytes globals .resumed = some (next, after) := taken
  rcases ReceiveBlocks.step_cases taken with ⟨feed, _, resumed, _⟩ |
    ⟨header, reader, _, stage, _, outcome, rfl, _⟩ | ⟨_, stage, _, rfl, _⟩ |
    ⟨size, checksum, data, reader, _, stage, outcome, _, rfl, _⟩ |
    ⟨size, checksum, data, reader, _, stage, outcome, _, rfl, _⟩ |
    ⟨_, stage, rfl, _⟩
  · cases resumed
  · obtain ⟨length, buffer, eof, _⟩ := StreamReader.readexactly_eq_read outcome
    have total := congrArg List.length buffer
    rw [List.length_append, length] at total
    refine ⟨?_, eof⟩
    simp only [stage, ReceiveStage.rank]
    omega
  · refine ⟨?_, rfl⟩
    simp only [stage, ReceiveStage.rank]
    omega
  · obtain ⟨_, buffer, eof, _⟩ := StreamReader.readexactly_eq_read outcome
    have total := congrArg List.length buffer
    rw [List.length_append] at total
    refine ⟨?_, eof⟩
    simp only [stage, ReceiveStage.rank]
    omega
  · obtain ⟨_, buffer, eof, _⟩ := StreamReader.readexactly_eq_read outcome
    have total := congrArg List.length buffer
    rw [List.length_append] at total
    refine ⟨?_, eof⟩
    simp only [stage, ReceiveStage.rank]
    omega
  · refine ⟨?_, rfl⟩
    rcases stage with ⟨stage, _⟩ | ⟨size, checksum, stage, _⟩
    · simp only [stage, ReceiveStage.rank]
      omega
    · simp only [stage, ReceiveStage.rank]
      omega

theorem RoundTrip.measure_lt (positive : 1 ≤ blockSize) {state next : RoundTrip}
    {event : RoundTripEvent}
    (taken : state.step crc32 totalBytes blockSize event = some next) :
    next.measure totalBytes < state.measure totalBytes := by
  rcases step_cases taken with ⟨cause, sender, globals, sound, stepped, rfl⟩ |
    ⟨bytes, pipe, reader, handed, fed, rfl⟩ | ⟨reader, _, fed, rfl⟩ |
    ⟨receiver, globals, resumed, rfl⟩
  · simp only [measure]
    rcases SendBlocks.step_cases stepped with
      ⟨data, header, rfl, stage, unfinished, size, packed, rfl, _⟩ |
      ⟨data, rfl, stage, _, size, packed, rfl, _⟩ | ⟨size, rfl, stage, rfl, _⟩ |
      ⟨supported, rfl, stage, _, rfl, _⟩ | ⟨fault, _⟩
    · have nonempty : 1 ≤ data.length := by omega
      have written := written_length packed
      simp only [stage, SendStage.rank, SendStage.uncounted, SendEvent.effect, Pipe.write,
        Channel.write, List.length_append, written]
      omega
    · simp only [stage, SendStage.rank, SendStage.uncounted, SendEvent.effect, Pipe.write,
        Channel.write, List.length_append, SendEvent.written, packed, Option.map_none,
        Option.getD_none, List.length_nil]
      omega
    · simp only [stage, SendStage.rank, SendStage.uncounted, SendEvent.effect, Pipe.write,
        Channel.write, SendEvent.written, List.append_nil]
      omega
    · have same : (SendEvent.effect crc32 state.pipe (.writeEof supported)).pending =
          state.pipe.pending := by
        cases supported <;> rfl
      simp only [stage, SendStage.rank, SendStage.uncounted, same]
      omega
    · rw [sound] at fault
      cases fault
  · obtain ⟨_, _, pending, _⟩ := Pipe.deliver_eq_some handed
    obtain ⟨_, _, nonempty, rfl⟩ := StreamReader.feed_data.mp fed
    have positive := List.length_pos_iff.mpr nonempty
    simp only [measure, pending, List.length_append]
    omega
  · obtain ⟨live, _, rfl⟩ := StreamReader.feed_eof.mp fed
    simp [measure, live]
  · obtain ⟨less, eof⟩ := resume_rank resumed
    simp only [measure, eof]
    omega

/-! Where the two tasks stand in the one sequence of blocks. -/

/-- A block as it is sent. -/
abbrev frame (crc32 : Bytes → UInt32) (block : Bytes) : Bytes :=
  SendEvent.written crc32 (.urandom block)

def lengths (blocks : List Bytes) : Nat := (blocks.map List.length).sum

@[simp] theorem lengths_nil : lengths [] = 0 := rfl

@[simp] theorem lengths_cons (block : Bytes) (blocks : List Bytes) :
    lengths (block :: blocks) = block.length + lengths blocks := rfl

@[simp] theorem lengths_append (left right : List Bytes) :
    lengths (left ++ right) = lengths left + lengths right := by
  simp [lengths]

theorem le_lengths {block : Bytes} {blocks : List Bytes} (member : block ∈ blocks) :
    block.length ≤ lengths blocks := by
  obtain ⟨front, rest, rfl⟩ := List.append_of_mem member
  rw [lengths_append, lengths_cons]
  omega

/-- What the receiver still has to read, those bytes included that it holds. -/
def Unread (crc32 : Bytes → UInt32) (totalBytes : Nat) (rest : List Bytes) (bytes : Bytes)
    (received : Nat) : ReceiveStage → Prop
  | .header => bytes = rest.flatMap (frame crc32)
  | .data size checksum =>
      ∃ block later, rest = block :: later ∧ size = block.length ∧
        checksum = (crc32 block).toNat ∧ bytes = block ++ later.flatMap (frame crc32)
  | .returned => rest = [] ∧ bytes = [] ∧ received = totalBytes
  | .raised => False

/-- The blocks that were sent, and those of them that are still to be accepted. -/
structure InStep (crc32 : Bytes → UInt32) (totalBytes blockSize : Nat) (before : Globals)
    (blocks rest : List Bytes) (state : RoundTrip) : Prop where
  written : state.pipe.sent = blocks.flatMap (frame crc32)
  sized : ∀ block ∈ blocks, 1 ≤ block.length ∧ block.length ≤ blockSize
  sent : lengths blocks = state.sender.bytesSent + state.sender.stage.uncounted
  bounded : lengths blocks ≤ totalBytes
  sound : state.sender.stage ≠ .raised
  complete : state.sender.stage = .returned → state.sender.bytesSent = totalBytes
  suffix : rest <:+ blocks
  received : state.receiver.bytesReceived + lengths rest = lengths blocks
  unread : Unread crc32 totalBytes rest (state.receiver.reader.buffer ++ state.pipe.pending)
    state.receiver.bytesReceived state.receiver.stage
  connected : state.receiver.reader.failed = false
  drained : state.receiver.reader.eof = true → state.pipe.AtEnd
  closed : state.pipe.finished = true → state.sender.stage = .returned
  globals : state.globals =
    { before with
      globalTotalUpBytes := before.globalTotalUpBytes + state.sender.bytesSent
      globalTotalDownBytes :=
        before.globalTotalDownBytes + state.receiver.bytesReceived }

namespace InStep

variable {before : Globals} {blocks rest : List Bytes} {state : RoundTrip}

theorem start : InStep crc32 totalBytes blockSize before [] [] { globals := before } where
  written := rfl
  sized := by simp
  sent := rfl
  bounded := Nat.zero_le _
  sound := SendStage.noConfusion
  complete := fun ended => by cases ended
  suffix := List.nil_suffix
  received := rfl
  unread := rfl
  connected := rfl
  drained := fun ended => by cases ended
  closed := fun ended => by cases ended
  globals := rfl

/-- The next block is behind all that the receiver has still to read. -/
theorem Unread.snoc {bytes : Bytes} {received : Nat} {stage : ReceiveStage}
    (holds : Unread crc32 totalBytes rest bytes received stage) (ahead : received < totalBytes)
    (block : Bytes) :
    Unread crc32 totalBytes (rest ++ [block]) (bytes ++ frame crc32 block) received stage := by
  cases stage with
  | header =>
      rw [Unread] at holds ⊢
      rw [holds, List.flatMap_append, List.flatMap_singleton]
  | data size checksum =>
      obtain ⟨first, later, rfl, length, sum, rfl⟩ := holds
      refine ⟨first, later ++ [block], rfl, length, sum, ?_⟩
      rw [List.append_assoc, List.flatMap_append, List.flatMap_singleton]
  | returned => exact absurd holds.2.2 (Nat.ne_of_lt ahead)
  | raised => exact holds.elim

/-! What the sender's steps do. -/

theorem generated {data : Bytes} (holds : InStep crc32 totalBytes blockSize before blocks rest state)
    (looping : state.sender.stage = .looping) (nonempty : 1 ≤ data.length)
    (size : data.length = min blockSize (totalBytes - state.sender.bytesSent)) :
    InStep crc32 totalBytes blockSize before (blocks ++ [data]) (rest ++ [data])
      { state with
        sender := { state.sender with stage := .draining data.length }
        pipe := state.pipe.write (frame crc32 data) } := by
  have sent : lengths blocks = state.sender.bytesSent := by
    rw [holds.sent, looping]
    rfl
  have received := holds.received
  have unfinished : state.pipe.finished = false := by
    rw [Bool.eq_false_iff]
    intro finished
    cases looping.symm.trans (holds.closed finished)
  exact {
    written := by
      rw [Pipe.sent_write, holds.written, List.flatMap_append, List.flatMap_singleton]
    sized := by
      intro block member
      rcases List.mem_append.mp member with old | new
      · exact holds.sized block old
      · cases List.mem_singleton.mp new
        omega
    sent := by
      rw [lengths_append, lengths_cons, lengths_nil, sent]
      rfl
    bounded := by
      rw [lengths_append, lengths_cons, lengths_nil, sent]
      omega
    sound := SendStage.noConfusion
    complete := fun ended => by cases ended
    suffix := by
      obtain ⟨front, split⟩ := holds.suffix
      exact ⟨front, by rw [← List.append_assoc, split]⟩
    received := by
      rw [lengths_append, lengths_append, ← holds.received, Nat.add_assoc]
    unread := by
      have ahead : state.receiver.bytesReceived < totalBytes := by omega
      have unread := Unread.snoc holds.unread ahead data
      rwa [List.append_assoc] at unread
    connected := holds.connected
    drained := fun ended => absurd (holds.drained ended).1 (Bool.eq_false_iff.mp unfinished)
    closed := fun finished => absurd finished (Bool.eq_false_iff.mp unfinished)
    globals := holds.globals }

theorem counted {size : Nat} (holds : InStep crc32 totalBytes blockSize before blocks rest state)
    (draining : state.sender.stage = .draining size) :
    InStep crc32 totalBytes blockSize before blocks rest
      { state with
        sender := { bytesSent := state.sender.bytesSent + size, stage := .looping }
        globals :=
          { state.globals with
            globalTotalUpBytes := state.globals.globalTotalUpBytes + size } } :=
  { holds with
    sent := by
      rw [holds.sent, draining]
      rfl
    sound := SendStage.noConfusion
    complete := fun ended => by cases ended
    closed := fun finished => by cases draining.symm.trans (holds.closed finished)
    globals := by rw [holds.globals, Nat.add_assoc] }

theorem returned (holds : InStep crc32 totalBytes blockSize before blocks rest state)
    (looping : state.sender.stage = .looping) (finished : totalBytes ≤ state.sender.bytesSent) :
    InStep crc32 totalBytes blockSize before blocks rest
      { state with sender := { state.sender with stage := .returned } } := by
  have sent : lengths blocks = state.sender.bytesSent := by
    rw [holds.sent, looping]
    rfl
  exact { holds with
    sent := sent
    sound := SendStage.noConfusion
    complete := fun _ => Nat.le_antisymm (sent ▸ holds.bounded) finished
    closed := fun _ => rfl }

theorem finish (holds : InStep crc32 totalBytes blockSize before blocks rest state)
    (returned : state.sender.stage = .returned) :
    InStep crc32 totalBytes blockSize before blocks rest
      { state with pipe := state.pipe.finish } :=
  { holds with
    drained := fun ended => (holds.drained ended).finish
    closed := fun _ => returned }

theorem sending {cause : SendEvent} {sender : SendBlocks} {globals : Globals}
    (positive : 1 ≤ blockSize) (fits : min blockSize totalBytes < 2 ^ 32)
    (holds : InStep crc32 totalBytes blockSize before blocks rest state)
    (sound : cause.fault = false)
    (stepped : state.sender.step crc32 totalBytes blockSize state.globals cause =
      some (sender, globals)) :
    ∃ blocks rest, InStep crc32 totalBytes blockSize before blocks rest
      { state with
        sender := sender, globals := globals, pipe := cause.effect crc32 state.pipe } := by
  rcases SendBlocks.step_cases stepped with
    ⟨data, header, rfl, stage, unfinished, size, packed, rfl, rfl⟩ |
    ⟨data, rfl, stage, _, size, packed, _⟩ | ⟨size, rfl, stage, rfl, rfl⟩ |
    ⟨supported, rfl, stage, finished, rfl, rfl⟩ | ⟨fault, _⟩
  · exact ⟨_, _, holds.generated stage (by omega) size⟩
  · obtain ⟨header, whole⟩ := exists_pack data.length (by omega) (crc32 data)
    cases whole.symm.trans packed
  · have same : SendEvent.effect crc32 state.pipe .drained = state.pipe := by
      simp [SendEvent.effect, SendEvent.written, Pipe.write, Channel.write]
    rw [same]
    exact ⟨blocks, rest, holds.counted stage⟩
  · cases supported with
    | false => exact ⟨blocks, rest, holds.returned stage finished⟩
    | true => exact ⟨blocks, rest, (holds.returned stage finished).finish rfl⟩
  · rw [sound] at fault
    cases fault

/-! What the stream and the receiver do. -/

theorem fed {bytes : Bytes} {pipe : Pipe} {reader : StreamReader}
    (holds : InStep crc32 totalBytes blockSize before blocks rest state)
    (handed : state.pipe.deliver bytes = some pipe)
    (fed : state.receiver.reader.feed (.data bytes) = some reader) :
    InStep crc32 totalBytes blockSize before blocks rest
      { state with pipe := pipe, receiver := { state.receiver with reader := reader } } := by
  obtain ⟨_, sent, pending, finished⟩ := Pipe.deliver_eq_some handed
  obtain ⟨live, _, _, rfl⟩ := StreamReader.feed_data.mp fed
  exact { holds with
    written := by rw [sent, holds.written]
    unread := by
      rw [List.append_assoc, ← pending]
      exact holds.unread
    drained := fun ended => absurd ended (Bool.eq_false_iff.mp live)
    closed := by
      rw [finished]
      exact holds.closed }

theorem ended {reader : StreamReader}
    (holds : InStep crc32 totalBytes blockSize before blocks rest state)
    (atEnd : state.pipe.AtEnd) (fed : state.receiver.reader.feed .eof = some reader) :
    InStep crc32 totalBytes blockSize before blocks rest
      { state with receiver := { state.receiver with reader := reader } } := by
  obtain ⟨_, _, rfl⟩ := StreamReader.feed_eof.mp fed
  exact { holds with drained := fun _ => atEnd }

theorem block (holds : InStep crc32 totalBytes blockSize before blocks rest state)
    {block : Bytes} (member : block ∈ rest) :
    1 ≤ block.length ∧ block.length ≤ min blockSize totalBytes := by
  have sent := holds.suffix.subset member
  have bound := le_lengths sent
  have sized := holds.sized block sent
  have bounded := holds.bounded
  omega

theorem rest_eq_nil (holds : InStep crc32 totalBytes blockSize before blocks rest state)
    (finished : totalBytes ≤ state.receiver.bytesReceived) : rest = [] := by
  cases rest with
  | nil => rfl
  | cons block later =>
      have positive := (holds.block List.mem_cons_self).1
      have received := holds.received
      have bounded := holds.bounded
      rw [lengths_cons] at received
      omega

/-- With all blocks sent, a receiver below its total has a block to read. -/
theorem exists_rest (holds : InStep crc32 totalBytes blockSize before blocks rest state)
    (sent : state.sender.stage = .returned)
    (unfinished : state.receiver.bytesReceived < totalBytes) :
    ∃ block later, rest = block :: later := by
  cases rest with
  | nil =>
      have complete := holds.complete sent
      have received := holds.received
      rw [holds.sent, sent, lengths_nil] at received
      simp only [SendStage.uncounted] at received
      omega
  | cons block later => exact ⟨block, later, rfl⟩

/-- A receiver that finds the end of the stream finds what it waits for in front of it. -/
theorem not_raised (fits : min blockSize totalBytes < 2 ^ 32)
    (holds : InStep crc32 totalBytes blockSize before blocks rest state)
    (outcome : state.receiver.stage = .header ∧
        state.receiver.bytesReceived < totalBytes ∧
        state.receiver.reader.readexactly 8 = .raised ∨
      ∃ size checksum, state.receiver.stage = .data size checksum ∧
        state.receiver.reader.readexactly size = .raised) : False := by
  have unread := holds.unread
  rcases outcome with ⟨stage, unfinished, outcome⟩ | ⟨size, checksum, stage, outcome⟩
  · rcases StreamReader.readexactly_eq_raised outcome with failed | ⟨eof, short⟩
    · cases failed.symm.trans holds.connected
    have atEnd := holds.drained eof
    obtain ⟨block, later, rfl⟩ := holds.exists_rest (holds.closed atEnd.1) unfinished
    obtain ⟨header, packed⟩ := exists_pack block.length
      (Nat.lt_of_le_of_lt (holds.block List.mem_cons_self).2 fits) (crc32 block)
    rw [stage, Unread, atEnd.2, List.append_nil, List.flatMap_cons] at unread
    rw [unread, List.length_append, written_length packed] at short
    omega
  · rcases StreamReader.readexactly_eq_raised outcome with failed | ⟨eof, short⟩
    · cases failed.symm.trans holds.connected
    have atEnd := holds.drained eof
    rw [stage, atEnd.2, List.append_nil] at unread
    obtain ⟨block, later, _, rfl, _, buffer⟩ := unread
    rw [buffer, List.length_append] at short
    omega

theorem resumed {receiver : ReceiveBlocks} {globals : Globals}
    (fits : min blockSize totalBytes < 2 ^ 32)
    (holds : InStep crc32 totalBytes blockSize before blocks rest state)
    (stepped : state.receiver.resume crc32 totalBytes state.globals =
      some (receiver, globals)) :
    ∃ rest, InStep crc32 totalBytes blockSize before blocks rest
      { state with receiver := receiver, globals := globals } := by
  have unread := holds.unread
  have taken : state.receiver.step crc32 totalBytes state.globals .resumed =
      some (receiver, globals) := stepped
  rcases ReceiveBlocks.step_cases taken with ⟨feed, _, resumed, _⟩ |
    ⟨header, reader, _, stage, _, outcome, rfl, rfl⟩ | ⟨_, stage, finished, rfl, rfl⟩ |
    ⟨size, checksum, data, reader, _, stage, outcome, sound, rfl, rfl⟩ |
    ⟨size, checksum, data, reader, _, stage, outcome, mismatch, _⟩ |
    ⟨_, outcome, _⟩
  · cases resumed
  · obtain ⟨length, buffer, eof, failed⟩ := StreamReader.readexactly_eq_read outcome
    rw [stage, Unread, buffer, List.append_assoc] at unread
    cases rest with
    | nil =>
        rw [(List.append_eq_nil_iff.mp unread).1] at length
        cases length
    | cons block later =>
        obtain ⟨sent, packed⟩ := exists_pack block.length
          (Nat.lt_of_le_of_lt (holds.block List.mem_cons_self).2 fits) (crc32 block)
        obtain ⟨eight, unpacked⟩ := pack_eq_some packed
        rw [List.flatMap_cons, frame, written_eq packed, List.append_assoc] at unread
        obtain ⟨rfl, behind⟩ := List.append_inj unread (length.trans eight.symm)
        exact ⟨block :: later, { holds with
          unread := ⟨block, later, rfl, by rw [unpacked], by rw [unpacked], behind⟩
          connected := failed.trans holds.connected
          drained := fun ended => holds.drained (eof.symm.trans ended) }⟩
  · have none := holds.rest_eq_nil finished
    subst none
    have received := holds.received
    have bounded := holds.bounded
    rw [lengths_nil] at received
    have all : state.receiver.bytesReceived = totalBytes := by omega
    rw [stage] at unread
    exact ⟨[], { holds with unread := ⟨rfl, unread, all⟩ }⟩
  · obtain ⟨length, buffer, eof, failed⟩ := StreamReader.readexactly_eq_read outcome
    rw [stage] at unread
    obtain ⟨block, later, rfl, rfl, _, bytes⟩ := unread
    rw [buffer, List.append_assoc] at bytes
    obtain ⟨rfl, behind⟩ := List.append_inj bytes length
    exact ⟨later, { holds with
      suffix := (List.suffix_cons _ _).trans holds.suffix
      received := by rw [← holds.received, lengths_cons, Nat.add_assoc]
      unread := behind
      connected := failed.trans holds.connected
      drained := fun ended => holds.drained (eof.symm.trans ended)
      globals := by rw [holds.globals, Nat.add_assoc] }⟩
  · obtain ⟨length, buffer, _, _⟩ := StreamReader.readexactly_eq_read outcome
    rw [stage] at unread
    obtain ⟨block, later, _, rfl, sum, bytes⟩ := unread
    rw [buffer, List.append_assoc] at bytes
    obtain ⟨rfl, _⟩ := List.append_inj bytes length
    exact absurd sum.symm mismatch
  · exact (holds.not_raised fits outcome).elim

/-- What every step preserves. -/
theorem step (positive : 1 ≤ blockSize) (fits : min blockSize totalBytes < 2 ^ 32)
    {next : RoundTrip} {event : RoundTripEvent}
    (holds : InStep crc32 totalBytes blockSize before blocks rest state)
    (taken : state.step crc32 totalBytes blockSize event = some next) :
    ∃ blocks rest, InStep crc32 totalBytes blockSize before blocks rest next := by
  rcases RoundTrip.step_cases taken with ⟨cause, sender, globals, sound, stepped, rfl⟩ |
    ⟨bytes, pipe, reader, handed, fed, rfl⟩ | ⟨reader, atEnd, fed, rfl⟩ |
    ⟨receiver, globals, stepped, rfl⟩
  · exact holds.sending positive fits sound stepped
  · exact ⟨blocks, rest, holds.fed handed fed⟩
  · exact ⟨blocks, rest, holds.ended atEnd fed⟩
  · exact ⟨blocks, holds.resumed fits stepped⟩

theorem exists_sending (holds : InStep crc32 totalBytes blockSize before blocks rest state)
    (fits : min blockSize totalBytes < 2 ^ 32) (unfinished : state.sender.stage ≠ .returned) :
    ∃ event next, state.step crc32 totalBytes blockSize event = some next := by
  suffices steps : ∃ cause after, SendEvent.fault cause = false ∧
      state.sender.step crc32 totalBytes blockSize state.globals cause = some after by
    obtain ⟨cause, after, sound, stepped⟩ := steps
    exact ⟨.sending cause, _, by rw [RoundTrip.step, sound, stepped]; rfl⟩
  cases stage : state.sender.stage with
  | looping =>
      by_cases more : state.sender.bytesSent < totalBytes
      · obtain ⟨data, size⟩ : ∃ data : Bytes,
            data.length = min blockSize (totalBytes - state.sender.bytesSent) :=
          ⟨List.replicate _ 0, List.length_replicate⟩
        obtain ⟨header, packed⟩ := exists_pack data.length (by omega) (crc32 data)
        rw [size] at packed
        refine ⟨.urandom data, ?_⟩
        simp [SendBlocks.step, SendEvent.fault, stage, more, size, packed]
      · exact ⟨.writeEof true, _, rfl, if_pos ⟨stage, more⟩⟩
  | draining size =>
      refine ⟨.drained, ?_⟩
      simp [SendBlocks.step, SendEvent.fault, stage]
  | returned => exact absurd stage unfinished
  | raised => exact absurd stage holds.sound

theorem exists_delivered (holds : InStep crc32 totalBytes blockSize before blocks rest state)
    (pending : state.pipe.pending ≠ []) :
    ∃ event next, state.step crc32 totalBytes blockSize event = some next := by
  obtain ⟨pipe, handed⟩ := Pipe.exists_deliver (List.prefix_refl state.pipe.pending)
  have live : state.receiver.reader.eof = false := by
    rw [Bool.eq_false_iff]
    exact fun eof => pending (holds.drained eof).2
  have fed := StreamReader.feed_data.mpr ⟨live, holds.connected, pending, rfl⟩
  refine ⟨.delivered state.pipe.pending, ?_⟩
  simp [RoundTrip.step, handed, ReceiveBlocks.step, fed]

/-- With everything sent and handed on, the receiver has what it waits for. -/
theorem exists_resumed (holds : InStep crc32 totalBytes blockSize before blocks rest state)
    (fits : min blockSize totalBytes < 2 ^ 32) (sent : state.sender.stage = .returned)
    (pending : state.pipe.pending = []) (unfinished : state.receiver.stage ≠ .returned) :
    ∃ event next, state.step crc32 totalBytes blockSize event = some next := by
  suffices steps : ∃ after,
      state.receiver.resume crc32 totalBytes state.globals = some after by
    obtain ⟨after, stepped⟩ := steps
    exact ⟨.resumed, _, by rw [RoundTrip.step, ReceiveBlocks.step, stepped]; rfl⟩
  have unread := holds.unread
  rw [pending, List.append_nil] at unread
  cases stage : state.receiver.stage with
  | header =>
      by_cases more : state.receiver.bytesReceived < totalBytes
      · obtain ⟨block, later, rfl⟩ := holds.exists_rest sent more
        obtain ⟨header, packed⟩ := exists_pack block.length
          (Nat.lt_of_le_of_lt (holds.block List.mem_cons_self).2 fits) (crc32 block)
        have held : 8 ≤ state.receiver.reader.buffer.length := by
          rw [stage, Unread, List.flatMap_cons] at unread
          rw [unread, List.length_append, written_length packed]
          omega
        obtain ⟨bytes, reader, outcome⟩ :=
          StreamReader.exists_readexactly holds.connected held
        simp [ReceiveBlocks.resume, stage, more, outcome]
      · simp [ReceiveBlocks.resume, stage, more]
  | data size checksum =>
      rw [stage] at unread
      obtain ⟨block, later, _, rfl, _, buffer⟩ := unread
      have held : block.length ≤ state.receiver.reader.buffer.length := by
        rw [buffer, List.length_append]
        omega
      obtain ⟨bytes, reader, outcome⟩ :=
        StreamReader.exists_readexactly holds.connected held
      simp only [ReceiveBlocks.resume, stage, outcome]
      split <;> exact ⟨_, rfl⟩
  | returned => exact absurd stage unfinished
  | raised =>
      rw [stage] at unread
      exact unread.elim

/-- Where no step is left, both tasks have returned and nothing is left over. -/
theorem stuck (holds : InStep crc32 totalBytes blockSize before blocks rest state)
    (fits : min blockSize totalBytes < 2 ^ 32)
    (ended : Stuck (RoundTrip.step crc32 totalBytes blockSize) state) :
    state.sender.stage = .returned ∧ state.receiver.stage = .returned ∧
      state.pipe.pending = [] ∧ state.receiver.reader.buffer = [] ∧
      lengths blocks = totalBytes ∧ state.receiver.bytesReceived = totalBytes := by
  have stays : ¬ ∃ event next, state.step crc32 totalBytes blockSize event = some next := by
    rintro ⟨event, next, taken⟩
    cases (ended event).symm.trans taken
  have sent : state.sender.stage = .returned := by
    by_contra unfinished
    exact stays (holds.exists_sending fits unfinished)
  have pending : state.pipe.pending = [] := by
    by_contra more
    exact stays (holds.exists_delivered more)
  have received : state.receiver.stage = .returned := by
    by_contra unfinished
    exact stays (holds.exists_resumed fits sent pending unfinished)
  have unread := holds.unread
  rw [received, pending, List.append_nil] at unread
  refine ⟨sent, received, pending, unread.2.1, ?_, unread.2.2⟩
  rw [holds.sent, sent, holds.complete sent]
  rfl

end InStep

/-- Every transfer of blocks comes to its end, raises nothing on the way, and the receiver
takes exactly the blocks that were sent. -/
theorem RoundTrip.send_receive_blocks {crc32 : Bytes → UInt32} {totalBytes blockSize : Nat}
    {before : Globals} {events : List RoundTripEvent} {final : RoundTrip}
    (positive : 1 ≤ blockSize) (fits : min blockSize totalBytes < 2 ^ 32)
    (ran : run (step crc32 totalBytes blockSize) { globals := before } events =
      some final) :
    events.length ≤ 20 * totalBytes + 4 ∧
      final.sender.stage ≠ .raised ∧ final.receiver.stage ≠ .raised ∧
      final.globals.errorOccurred = before.errorOccurred ∧
      (Stuck (step crc32 totalBytes blockSize) final →
        final.sender.stage = .returned ∧ final.receiver.stage = .returned ∧
        (∃ blocks : List Bytes,
          final.pipe.sent = blocks.flatMap (frame crc32) ∧
          (∀ block ∈ blocks, 1 ≤ block.length ∧ block.length ≤ blockSize) ∧
          (blocks.map List.length).sum = totalBytes) ∧
        final.pipe.pending = [] ∧ final.receiver.reader.buffer = [] ∧
        final.globals.globalTotalUpBytes = before.globalTotalUpBytes + totalBytes ∧
        final.globals.globalTotalDownBytes = before.globalTotalDownBytes + totalBytes) := by
  obtain ⟨blocks, rest, holds⟩ : ∃ blocks rest,
      InStep crc32 totalBytes blockSize before blocks rest final := by
    apply run_invariant
      (fun state => ∃ blocks rest, InStep crc32 totalBytes blockSize before blocks rest state)
      _ ⟨[], [], InStep.start⟩ ran
    rintro state event next ⟨blocks, rest, holds⟩ taken
    exact holds.step positive fits taken
  have short := run_length_le (measure totalBytes)
    (fun _ _ _ taken => measure_lt positive taken) ran
  refine ⟨?_, holds.sound, ?_, by rw [holds.globals], ?_⟩
  · have first : measure totalBytes { globals := before } = 20 * totalBytes + 4 := rfl
    omega
  · intro raised
    have unread := holds.unread
    rw [raised] at unread
    exact unread
  · intro ended
    obtain ⟨sent, received, pending, buffer, total, all⟩ := holds.stuck fits ended
    refine ⟨sent, received, ⟨blocks, holds.written, holds.sized, total⟩, pending, buffer,
      ?_, ?_⟩
    · rw [holds.globals, holds.complete sent]
    · rw [holds.globals, all]

/-! Three bytes in blocks of two, in fragments that are no blocks. -/

def RoundTrip.shortEvents : List RoundTripEvent :=
  [.sending (.urandom [104, 105]), .delivered [0, 0, 0], .sending .drained,
    .delivered [2, 216, 147, 42, 172, 104], .resumed, .sending (.urandom [33]),
    .sending .drained, .delivered [105, 0, 0, 0, 1], .resumed, .sending (.writeEof true),
    .delivered [158, 107, 255, 211, 33], .ended, .resumed, .resumed, .resumed]

def RoundTrip.shortFinal : RoundTrip where
  sender := { bytesSent := 3, stage := .returned }
  pipe :=
    { delivered := frame StressTest.crc32 [104, 105] ++ frame StressTest.crc32 [33]
      finished := true }
  receiver := { reader := { eof := true }, bytesReceived := 3, stage := .returned }
  globals := { globalTotalUpBytes := 3, globalTotalDownBytes := 3 }

theorem RoundTrip.send_receive_blocks_short :
    shortFinal.sender.stage ≠ .raised ∧ shortFinal.receiver.stage ≠ .raised ∧
      ∃ blocks : List Bytes,
        shortFinal.pipe.sent = blocks.flatMap (frame StressTest.crc32) ∧
        (∀ block ∈ blocks, 1 ≤ block.length ∧ block.length ≤ 2) ∧
        (blocks.map List.length).sum = 3 := by
  have ran : run (step StressTest.crc32 3 2) { globals := {} } shortEvents =
      some shortFinal := by decide +kernel
  have ended : Stuck (step StressTest.crc32 3 2) shortFinal := by
    intro event
    cases event with
    | sending cause => cases cause <;> rfl
    | delivered bytes =>
        have closed : shortFinal.receiver.reader.feed (.data bytes) = none := rfl
        simp only [step, ReceiveBlocks.step, closed]
        split <;> rfl
    | ended => rfl
    | resumed => rfl
  have holds := send_receive_blocks (by decide) (by decide) ran
  obtain ⟨_, sound, whole, _, complete⟩ := holds
  exact ⟨sound, whole, (complete ended).2.2.1⟩

end PortRedirect.StressTest
