import Mathlib.Data.List.Infix
import PortRedirect.Text.BigEndian

namespace PortRedirect.StressTest

open PortRedirect.Text

/-! The block protocol of the benchmark script: a header with the length of the block and
its checksum in front of every block, one task that sends blocks and one that receives
them, each up to the same total. -/

/-- The totals and the error flag that all tasks of the script share. -/
structure Globals where
  globalTotalUpBytes : Nat := 0
  globalTotalDownBytes : Nat := 0
  errorOccurred : Bool := false
deriving DecidableEq, Repr

/-- `struct.pack("!II", …)`; a length that four bytes cannot hold raises. -/
def pack (size : Nat) (checksum : UInt32) : Option Bytes :=
  if size < 2 ^ 32 then some (bigEndian 4 size ++ bigEndian 4 checksum.toNat) else none

/-- `struct.unpack("!II", header)` of a header of eight bytes. -/
def unpack (header : Bytes) : Nat × Nat :=
  (readBigEndian (header.take 4), readBigEndian (header.drop 4))

theorem pack_eq_some {size : Nat} {checksum : UInt32} {header : Bytes}
    (packed : pack size checksum = some header) :
    header.length = 8 ∧ unpack header = (size, checksum.toNat) := by
  unfold pack at packed
  split at packed
  · rename_i fits
    cases packed
    refine ⟨by simp, ?_⟩
    have first : readBigEndian (bigEndian 4 size) = size := readBigEndian_bigEndian fits
    have second : readBigEndian (bigEndian 4 checksum.toNat) = checksum.toNat :=
      readBigEndian_bigEndian checksum.toNat_lt
    rw [unpack, List.take_left' (length_bigEndian 4 size),
      List.drop_left' (length_bigEndian 4 size), first, second]
  · cases packed

theorem exists_pack (size : Nat) (fits : size < 2 ^ 32) (checksum : UInt32) :
    ∃ header, pack size checksum = some header :=
  ⟨_, if_pos fits⟩

/-- `zlib.crc32`. -/
def crc32 (data : Bytes) : UInt32 :=
  let shift (remainder : UInt32) : UInt32 :=
    if remainder &&& 1 = 1 then (remainder >>> 1) ^^^ 0xEDB88320 else remainder >>> 1
  let remainder := data.foldl
    (fun remainder byte => shift^[8] (remainder ^^^ byte.toUInt32)) 0xFFFFFFFF
  remainder ^^^ 0xFFFFFFFF

example : crc32 (utf8 "123456789") = 0xCBF43926 := by decide +kernel

/-! `asyncio.StreamReader`. -/

structure StreamReader where
  buffer : Bytes := []
  eof : Bool := false
  failed : Bool := false
deriving DecidableEq, Repr

inductive ReadExactly where
  | waiting
  | read (bytes : Bytes) (reader : StreamReader)
  | raised

def StreamReader.readexactly (size : Nat) (reader : StreamReader) : ReadExactly :=
  if reader.failed then .raised
  else if size ≤ reader.buffer.length then
    .read (reader.buffer.take size) { reader with buffer := reader.buffer.drop size }
  else if reader.eof then .raised
  else .waiting

inductive Feed where
  | data (bytes : Bytes)
  | eof
  | connectionLost
deriving DecidableEq, Repr

/-- What the transport hands to the reader.  A loss behind the end of the stream, which would
raise as well, is left out. -/
def StreamReader.feed (reader : StreamReader) (event : Feed) : Option StreamReader :=
  if reader.eof ∨ reader.failed then none
  else
    match event with
    | .data [] => none
    | .data bytes => some { reader with buffer := reader.buffer ++ bytes }
    | .eof => some { reader with eof := true }
    | .connectionLost => some { reader with failed := true }

theorem StreamReader.feed_data {reader next : StreamReader} {bytes : Bytes} :
    reader.feed (.data bytes) = some next ↔
      reader.eof = false ∧ reader.failed = false ∧ bytes ≠ [] ∧
        { reader with buffer := reader.buffer ++ bytes } = next := by
  cases bytes <;> simp [feed, and_assoc]

theorem StreamReader.feed_eof {reader next : StreamReader} :
    reader.feed .eof = some next ↔
      reader.eof = false ∧ reader.failed = false ∧ { reader with eof := true } = next := by
  simp [feed, and_assoc]

theorem StreamReader.readexactly_eq_read {size : Nat} {reader next : StreamReader}
    {bytes : Bytes} (outcome : reader.readexactly size = .read bytes next) :
    bytes.length = size ∧ reader.buffer = bytes ++ next.buffer ∧ next.eof = reader.eof ∧
      next.failed = reader.failed := by
  unfold readexactly at outcome
  split at outcome
  · cases outcome
  split at outcome
  · rename_i held
    cases outcome
    exact ⟨List.length_take_of_le held, (List.take_append_drop size reader.buffer).symm,
      rfl, rfl⟩
  split at outcome
  · cases outcome
  · cases outcome

theorem StreamReader.readexactly_eq_raised {size : Nat} {reader : StreamReader}
    (outcome : reader.readexactly size = .raised) :
    reader.failed = true ∨ reader.eof = true ∧ reader.buffer.length < size := by
  unfold readexactly at outcome
  split at outcome
  · exact .inl ‹_›
  split at outcome
  · cases outcome
  split at outcome
  · exact .inr ⟨‹_›, Nat.lt_of_not_le ‹_›⟩
  · cases outcome

theorem StreamReader.exists_readexactly {size : Nat} {reader : StreamReader}
    (live : reader.failed = false) (held : size ≤ reader.buffer.length) :
    ∃ bytes next, reader.readexactly size = .read bytes next := by
  unfold readexactly
  rw [if_neg (by simp [live]), if_pos held]
  exact ⟨_, _, rfl⟩

section Tasks

variable (crc32 : Bytes → UInt32)

/-! `send_blocks`.  It stands at its loop's condition or in `drain` behind the block that
it has written. -/

inductive SendStage where
  | looping
  | draining (currentBlockSize : Nat)
  | returned
  | raised
deriving DecidableEq, Repr

/-- The length of the block that is written and not yet counted. -/
def SendStage.uncounted : SendStage → Nat
  | .draining currentBlockSize => currentBlockSize
  | _ => 0

structure SendBlocks where
  bytesSent : Nat := 0
  stage : SendStage := .looping
deriving DecidableEq, Repr

inductive SendEvent where
  | urandom (data : Bytes)
  | urandomFailed
  | drained
  | drainFailed
  /-- `write_eof`, whose own failure is ignored. -/
  | writeEof (supported : Bool)
deriving DecidableEq, Repr

def SendEvent.fault : SendEvent → Bool
  | .urandomFailed | .drainFailed => true
  | _ => false

/-- What the event puts on the stream. -/
def SendEvent.written : SendEvent → Bytes
  | .urandom data => ((pack data.length (crc32 data)).map (· ++ data)).getD []
  | _ => []

def SendBlocks.step (totalBytes blockSize : Nat) (task : SendBlocks) (globals : Globals) :
    SendEvent → Option (SendBlocks × Globals)
  | .urandom data =>
      let currentBlockSize := min blockSize (totalBytes - task.bytesSent)
      if task.stage = .looping ∧ task.bytesSent < totalBytes ∧
          data.length = currentBlockSize then
        match pack currentBlockSize (crc32 data) with
        | none => some ({ task with stage := .raised }, globals)
        | some _ => some ({ task with stage := .draining currentBlockSize }, globals)
      else none
  | .urandomFailed =>
      if task.stage = .looping ∧ task.bytesSent < totalBytes then
        some ({ task with stage := .raised }, { globals with errorOccurred := true })
      else none
  | .drained =>
      match task.stage with
      | .draining currentBlockSize =>
          some
            ({ bytesSent := task.bytesSent + currentBlockSize, stage := .looping },
              { globals with
                globalTotalUpBytes := globals.globalTotalUpBytes + currentBlockSize })
      | _ => none
  | .drainFailed =>
      match task.stage with
      | .draining _ => some ({ task with stage := .raised }, globals)
      | _ => none
  | .writeEof _ =>
      if task.stage = .looping ∧ ¬ task.bytesSent < totalBytes then
        some ({ task with stage := .returned }, globals)
      else none

/-! `receive_blocks`.  It stands in one of its two calls of `readexactly`, the first
together with the loop's condition. -/

inductive ReceiveStage where
  | header
  | data (currentBlockSize expectedChecksum : Nat)
  | returned
  | raised
deriving DecidableEq, Repr

structure ReceiveBlocks where
  reader : StreamReader := {}
  bytesReceived : Nat := 0
  stage : ReceiveStage := .header
deriving DecidableEq, Repr

inductive ReceiveEvent where
  | fed (feed : Feed)
  | resumed
deriving DecidableEq, Repr

def ReceiveBlocks.resume (totalBytes : Nat) (task : ReceiveBlocks) (globals : Globals) :
    Option (ReceiveBlocks × Globals) :=
  match task.stage with
  | .header =>
      if task.bytesReceived < totalBytes then
        match task.reader.readexactly 8 with
        | .waiting => none
        | .raised => some ({ task with stage := .raised }, globals)
        | .read header reader =>
            let (currentBlockSize, expectedChecksum) := unpack header
            some
              ({ task with
                  reader := reader, stage := .data currentBlockSize expectedChecksum },
                globals)
      else some ({ task with stage := .returned }, globals)
  | .data currentBlockSize expectedChecksum =>
      match task.reader.readexactly currentBlockSize with
      | .waiting => none
      | .raised => some ({ task with stage := .raised }, globals)
      | .read data reader =>
          if (crc32 data).toNat ≠ expectedChecksum then
            some
              ({ task with reader := reader, stage := .raised },
                { globals with errorOccurred := true })
          else
            some
              ({ reader := reader
                 bytesReceived := task.bytesReceived + currentBlockSize
                 stage := .header },
                { globals with
                  globalTotalDownBytes := globals.globalTotalDownBytes + currentBlockSize })
  | .returned | .raised => none

def ReceiveBlocks.step (totalBytes : Nat) (task : ReceiveBlocks) (globals : Globals) :
    ReceiveEvent → Option (ReceiveBlocks × Globals)
  | .fed feed =>
      (task.reader.feed feed).map fun reader => ({ task with reader := reader }, globals)
  | .resumed => task.resume crc32 totalBytes globals

variable {crc32 : Bytes → UInt32} {totalBytes blockSize : Nat} {globals after : Globals}

/-- All that a step of `send_blocks` can be. -/
theorem SendBlocks.step_cases {task next : SendBlocks} {event : SendEvent}
    (taken : task.step crc32 totalBytes blockSize globals event = some (next, after)) :
    (∃ data header, event = .urandom data ∧ task.stage = .looping ∧
        task.bytesSent < totalBytes ∧
        data.length = min blockSize (totalBytes - task.bytesSent) ∧
        pack data.length (crc32 data) = some header ∧
        next = { task with stage := .draining data.length } ∧ after = globals) ∨
      (∃ data, event = .urandom data ∧ task.stage = .looping ∧
        task.bytesSent < totalBytes ∧
        data.length = min blockSize (totalBytes - task.bytesSent) ∧
        pack data.length (crc32 data) = none ∧
        next = { task with stage := .raised } ∧ after = globals) ∨
      (∃ size, event = .drained ∧ task.stage = .draining size ∧
        next = { bytesSent := task.bytesSent + size, stage := .looping } ∧
        after = { globals with globalTotalUpBytes := globals.globalTotalUpBytes + size }) ∨
      (∃ supported, event = .writeEof supported ∧ task.stage = .looping ∧
        totalBytes ≤ task.bytesSent ∧ next = { task with stage := .returned } ∧
        after = globals) ∨
      (event.fault = true ∧ next = { task with stage := .raised } ∧
        (task.stage = .looping ∧ task.bytesSent < totalBytes ∨
          ∃ size, task.stage = .draining size) ∧
        (after = globals ∨ after = { globals with errorOccurred := true })) := by
  cases event with
  | urandom data =>
      simp only [step] at taken
      split at taken
      · rename_i allowed
        obtain ⟨looping, unfinished, size⟩ := allowed
        rw [← size] at taken
        cases packed : pack data.length (crc32 data) with
        | none =>
            rw [packed] at taken
            cases taken
            exact .inr (.inl ⟨data, rfl, looping, unfinished, size, packed, rfl, rfl⟩)
        | some header =>
            rw [packed] at taken
            cases taken
            exact .inl ⟨data, header, rfl, looping, unfinished, size, packed, rfl, rfl⟩
      · cases taken
  | urandomFailed =>
      simp only [step] at taken
      split at taken
      · rename_i allowed
        cases taken
        exact .inr (.inr (.inr (.inr ⟨rfl, rfl, .inl allowed, .inr rfl⟩)))
      · cases taken
  | drained =>
      simp only [step] at taken
      split at taken
      · rename_i size draining
        cases taken
        exact .inr (.inr (.inl ⟨size, rfl, draining, rfl, rfl⟩))
      · cases taken
  | drainFailed =>
      simp only [step] at taken
      split at taken
      · rename_i size draining
        cases taken
        exact .inr (.inr (.inr (.inr ⟨rfl, rfl, .inr ⟨size, draining⟩, .inl rfl⟩)))
      · cases taken
  | writeEof supported =>
      simp only [step] at taken
      split at taken
      · rename_i allowed
        cases taken
        exact .inr (.inr (.inr (.inl
          ⟨supported, rfl, allowed.1, Nat.le_of_not_lt allowed.2, rfl, rfl⟩)))
      · cases taken

/-- All that a step of `receive_blocks` can be. -/
theorem ReceiveBlocks.step_cases {task next : ReceiveBlocks} {event : ReceiveEvent}
    (taken : task.step crc32 totalBytes globals event = some (next, after)) :
    (∃ feed reader, event = .fed feed ∧ task.reader.feed feed = some reader ∧
        next = { task with reader := reader } ∧ after = globals) ∨
      (∃ header reader, event = .resumed ∧ task.stage = .header ∧
        task.bytesReceived < totalBytes ∧
        task.reader.readexactly 8 = .read header reader ∧
        next = { task with
          reader := reader, stage := .data (unpack header).1 (unpack header).2 } ∧
        after = globals) ∨
      (event = .resumed ∧ task.stage = .header ∧ totalBytes ≤ task.bytesReceived ∧
        next = { task with stage := .returned } ∧ after = globals) ∨
      (∃ size checksum data reader, event = .resumed ∧ task.stage = .data size checksum ∧
        task.reader.readexactly size = .read data reader ∧
        (crc32 data).toNat = checksum ∧
        next =
          { reader := reader
            bytesReceived := task.bytesReceived + size
            stage := .header } ∧
        after =
          { globals with globalTotalDownBytes := globals.globalTotalDownBytes + size }) ∨
      (∃ size checksum data reader, event = .resumed ∧ task.stage = .data size checksum ∧
        task.reader.readexactly size = .read data reader ∧
        (crc32 data).toNat ≠ checksum ∧
        next = { task with reader := reader, stage := .raised } ∧
        after = { globals with errorOccurred := true }) ∨
      (event = .resumed ∧
        (task.stage = .header ∧ task.bytesReceived < totalBytes ∧
            task.reader.readexactly 8 = .raised ∨
          ∃ size checksum, task.stage = .data size checksum ∧
            task.reader.readexactly size = .raised) ∧
        next = { task with stage := .raised } ∧ after = globals) := by
  cases event with
  | fed feed =>
      obtain ⟨reader, fed, same⟩ := Option.map_eq_some_iff.mp taken
      cases same
      exact .inl ⟨feed, reader, rfl, fed, rfl, rfl⟩
  | resumed =>
      right
      simp only [step, resume] at taken
      cases stage : task.stage with
      | header =>
          simp only [stage] at taken
          split at taken
          · rename_i unfinished
            cases outcome : task.reader.readexactly 8 with
            | waiting =>
                rw [outcome] at taken
                cases taken
            | read header reader =>
                rw [outcome] at taken
                cases taken
                exact .inl ⟨header, reader, rfl, rfl, unfinished, rfl, rfl, rfl⟩
            | raised =>
                rw [outcome] at taken
                cases taken
                exact .inr (.inr (.inr (.inr
                  ⟨rfl, .inl ⟨rfl, unfinished, rfl⟩, rfl, rfl⟩)))
          · rename_i finished
            cases taken
            exact .inr (.inl ⟨rfl, rfl, Nat.le_of_not_lt finished, rfl, rfl⟩)
      | data size checksum =>
          simp only [stage] at taken
          cases outcome : task.reader.readexactly size with
          | waiting =>
              rw [outcome] at taken
              cases taken
          | read data reader =>
              simp only [outcome] at taken
              split at taken
              · rename_i mismatch
                cases taken
                exact .inr (.inr (.inr (.inl
                  ⟨size, checksum, data, reader, rfl, rfl, outcome, mismatch, rfl, rfl⟩)))
              · rename_i sound
                cases taken
                exact .inr (.inr (.inl ⟨size, checksum, data, reader, rfl, rfl, outcome,
                  not_not.mp sound, rfl, rfl⟩))
          | raised =>
              rw [outcome] at taken
              cases taken
              exact .inr (.inr (.inr (.inr
                ⟨rfl, .inr ⟨size, checksum, rfl, outcome⟩, rfl, rfl⟩)))
      | returned =>
          simp only [stage] at taken
          cases taken
      | raised =>
          simp only [stage] at taken
          cases taken

end Tasks

end PortRedirect.StressTest
