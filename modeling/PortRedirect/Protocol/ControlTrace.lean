import PortRedirect.Protocol.KeepaliveTranscript

namespace PortRedirect.Protocol

open PortRedirect.Text
open PortRedirect.Stream
open PortRedirect.Transition

namespace ControlChannelLoop

/-! How many more steps the loop can take without new input. -/

def weight : ControlChannelLoop → Nat
  -- the end of the stream answers a buffer that holds a whole PING
  | .readLine buf => if buf = pingMessage then 9 else 1
  | .writePong rest => rest.length + 3
  | .flushPong => 2
  | .returned _ => 0

private theorem weight_readLine (buf : Bytes) :
    1 ≤ (readLine buf).weight ∧ (readLine buf).weight ≤ 9 := by
  by_cases ping : buf = pingMessage
  · simp [weight, ping]
  · simp [weight, ping]

private theorem weight_heardMessage (buf : Bytes) : (heardMessage buf).weight ≤ 8 := by
  unfold heardMessage
  split
  · exact Nat.zero_le _
  · split
    · exact Nat.le_refl _
    · split <;> exact Nat.zero_le _

private theorem weight_heardMessage_lt (buf : Bytes) :
    (heardMessage buf).weight < (readLine buf).weight := by
  by_cases ping : buf = pingMessage
  · subst ping
    decide
  · have positive := (weight_readLine buf).1
    unfold heardMessage
    rw [if_neg ping]
    split
    · exact positive
    · split <;> exact positive

theorem weight_step {state next : ControlChannelLoop} {event : Event}
    (taken : step state event = some next) :
    next.weight < state.weight + 9 * event.input.length := by
  cases state with
  | readLine buf =>
      have positive := (weight_readLine buf).1
      have returned (exit : Exit) : (ControlChannelLoop.returned exit).weight <
          (readLine buf).weight + 9 * event.input.length :=
        Nat.lt_of_lt_of_le positive (Nat.le_add_right _ _)
      simp only [step] at taken
      split at taken
      · cases taken
        exact returned .timedOut
      · split at taken
        · cases taken
          exact returned .cancelled
        · obtain ⟨outcome, polled, rfl⟩ := Option.map_eq_some_iff.mp taken
          rcases pollRead_eq_some polled with
            ⟨bytes, rfl, rfl, nonempty, _⟩ | ⟨rfl, rfl⟩ | ⟨rfl, rfl⟩
          · have longer := List.length_pos_of_ne_nil nonempty
            have heard := weight_heardMessage (buf ++ bytes)
            have more := (weight_readLine (buf ++ bytes)).2
            simp only [Event.input]
            split <;> omega
          · simpa using weight_heardMessage_lt buf
          · exact returned .readFailed
  | writePong rest =>
      obtain ⟨outcome, polled, rfl⟩ := Option.map_eq_some_iff.mp taken
      rcases pollWriteAll_eq_some polled with
        ⟨rfl, rfl⟩ | ⟨bytes, tail, rfl, rfl, rfl, nonempty, _⟩ | ⟨rfl, rfl⟩
      · simp only [weight]
        omega
      · have shorter := List.length_pos_of_ne_nil nonempty
        simp only [weight, List.length_append]
        omega
      · simp only [weight]
        omega
  | flushPong =>
      obtain ⟨outcome, polled, rfl⟩ := Option.map_eq_some_iff.mp taken
      rcases pollFlush_eq_some polled with ⟨rfl, rfl⟩ | ⟨rfl, rfl⟩
      · exact Nat.lt_add_right _ (by decide)
      · exact Nat.lt_add_right _ (by decide)
  | returned exit => simp [step] at taken

def ending (line : Bytes) : Exit :=
  if line = [] then .closed
  else if line = connectionEndMessage then .bye
  else .unexpected line

private theorem heardMessage_eq_returned {buf : Bytes} {exit : Exit}
    (ended : heardMessage buf = .returned exit) :
    buf ≠ pingMessage ∧ exit = ending buf := by
  unfold heardMessage at ended
  unfold ending
  split at ended
  · rename_i empty
    cases ended
    subst empty
    exact ⟨by decide, rfl⟩
  · rename_i nonempty
    rw [if_neg nonempty]
    split at ended
    · cases ended
    · rename_i other
      refine ⟨other, ?_⟩
      split at ended
      · rename_i bye
        cases ended
        rw [if_pos bye]
      · rename_i unknown
        cases ended
        rw [if_neg unknown]

theorem readLine_returned {buf : Bytes} {event : Event} {exit : Exit}
    (taken : step (.readLine buf) event = some (.returned exit)) :
    (event = .elapsed ∧ exit = .timedOut) ∨
    (event = .cancelled ∧ exit = .cancelled) ∨
    (event = .readFailed ∧ exit = .readFailed) ∨
    (event = .eof ∧ buf ≠ pingMessage ∧ exit = ending buf) ∨
    (event = .received [10] ∧ buf ++ [10] ≠ pingMessage ∧
      exit = ending (buf ++ [10])) := by
  simp only [step] at taken
  split at taken
  · rename_i elapsed
    cases taken
    exact .inl ⟨elapsed, rfl⟩
  · split at taken
    · rename_i cancelled
      cases taken
      exact .inr (.inl ⟨cancelled, rfl⟩)
    · obtain ⟨outcome, polled, ended⟩ := Option.map_eq_some_iff.mp taken
      rcases pollRead_eq_some polled with
        ⟨bytes, rfl, rfl, nonempty, _⟩ | ⟨rfl, rfl⟩ | ⟨rfl, rfl⟩
      · simp only [nonempty, false_or] at ended
        split at ended
        · rename_i newline
          subst newline
          have heard := heardMessage_eq_returned ended
          exact .inr (.inr (.inr (.inr ⟨rfl, heard⟩)))
        · cases ended
      · simp only [true_or, if_true, List.append_nil] at ended
        have heard := heardMessage_eq_returned ended
        exact .inr (.inr (.inr (.inl ⟨rfl, heard⟩)))
      · cases ended
        exact .inr (.inr (.inl ⟨rfl, rfl⟩))

theorem answering_returned {state : ControlChannelLoop} {event : Event} {exit : Exit}
    (answering : (∃ rest, state = .writePong rest) ∨ state = .flushPong)
    (taken : step state event = some (.returned exit)) : event = .writeFailed := by
  rcases answering with ⟨rest, rfl⟩ | rfl
  · obtain ⟨outcome, polled, ended⟩ := Option.map_eq_some_iff.mp taken
    rcases pollWriteAll_eq_some polled with
      ⟨_, rfl⟩ | ⟨bytes, tail, _, rfl, _⟩ | ⟨failed, _⟩
    · cases ended
    · cases ended
    · exact failed
  · obtain ⟨outcome, polled, ended⟩ := Option.map_eq_some_iff.mp taken
    rcases pollFlush_eq_some polled with ⟨_, rfl⟩ | ⟨failed, _⟩
    · cases ended
    · exact failed

end ControlChannelLoop

/-! `run_control_channel_loop` together with the token that it is given.  The token
may be cancelled from outside at any point. -/

structure ControlChannelTask where
  loop : ControlChannelLoop := .start
  cancelled : Bool := false
deriving DecidableEq, Repr

namespace ControlChannelTask

inductive Happening where
  | cancel
  | stream (event : Event)
deriving DecidableEq, Repr

def step (task : ControlChannelTask) : Happening → Option ControlChannelTask
  | .cancel =>
      if task.cancelled = true then none else some { task with cancelled := true }
  | .stream event =>
      if event = .cancelled ∧ task.cancelled = false then none
      else
        (task.loop.step event).map fun loop =>
          { loop := loop, cancelled := task.cancelled || loop.cancelsToken }

def result (task : ControlChannelTask) : Option (Except Error Unit) :=
  match task.loop with
  | .returned _ => some (.ok ())
  | _ => none

def party : Party ControlChannelTask Happening where
  step := step
  io
    | .cancel => none
    | .stream event => some event
  gone task := ControlChannelLoop.party.gone task.loop

theorem step_stream {task next : ControlChannelTask} {event : Event}
    (taken : task.step (.stream event) = some next) :
    task.loop.step event = some next.loop ∧
      (event = .cancelled → task.cancelled = true) ∧
      next.cancelled = (task.cancelled || next.loop.cancelsToken) := by
  simp only [step] at taken
  split at taken
  · cases taken
  · rename_i live
    obtain ⟨loop, resumed, rfl⟩ := Option.map_eq_some_iff.mp taken
    refine ⟨resumed, ?_, rfl⟩
    intro cancelled
    simpa [cancelled] using live

theorem step_cancel {task next : ControlChannelTask}
    (taken : task.step .cancel = some next) :
    task.cancelled = false ∧ next = { task with cancelled := true } := by
  simp only [step] at taken
  split at taken
  · cases taken
  · rename_i live
    exact ⟨Bool.eq_false_iff.mpr live, (Option.some.inj taken).symm⟩

theorem party_preserves :
    party.Preserves fun task received sent => task.loop.Transcript received sent := by
  intro task happening next received sent holds taken
  cases happening with
  | cancel =>
      obtain ⟨_, rfl⟩ := step_cancel taken
      simpa [Party.input, Party.output, party] using holds
  | stream event => exact ControlChannelLoop.transcript_step holds (step_stream taken).1

/-- The token is cancelled once the loop has returned. -/
def TokenCancelled (task : ControlChannelTask) : Prop :=
  ∀ exit, task.loop = .returned exit → task.cancelled = true

theorem tokenCancelled_step {task next : ControlChannelTask} {happening : Happening}
    (taken : task.step happening = some next) : next.TokenCancelled := by
  intro exit ended
  cases happening with
  | cancel =>
      obtain ⟨_, rfl⟩ := step_cancel taken
      rfl
  | stream event =>
      obtain ⟨resumed, onlyCancelled, token⟩ := step_stream taken
      rw [ended] at resumed token
      cases exit with
      | cancelled =>
          rw [token, onlyCancelled (ControlChannelLoop.step_cause resumed).2]
          rfl
      | _ => simp [token, ControlChannelLoop.cancelsToken]

end ControlChannelTask

abbrev ControlRun := Duplex ControlChannelTask Unit

namespace ControlRun

/-- The loop on a stream whose bytes have all arrived, in whatever pieces it reads
them. -/
def start (stream : Bytes) : ControlRun := Duplex.fed {} stream

def step : ControlRun → ControlChannelTask.Happening ⊕ Empty → Option ControlRun :=
  Duplex.step ControlChannelTask.party Party.departed

/-- No write fails, nobody else cancels the token, and reads fail or time out only once
the input is used up. -/
def Undisturbed (state : ControlRun) : ControlChannelTask.Happening ⊕ Empty → Prop
  | .inl .cancel => False
  | .inl (.stream .writeFailed) => False
  | .inl (.stream .elapsed) | .inl (.stream .readFailed) => state.toLeft.pending = []
  | _ => True

def measure (state : ControlRun) : Nat :=
  9 * state.toLeft.pending.length + state.left.loop.weight +
    (!state.left.cancelled).toNat

theorem measure_step {state next : ControlRun}
    {happening : ControlChannelTask.Happening ⊕ Empty}
    (taken : step state happening = some next) : next.measure < state.measure := by
  cases happening with
  | inr event => exact nomatch event
  | inl happening =>
      obtain ⟨resumed, _, delivered, sent, _⟩ := Duplex.step_inl_eq_some taken
      have consumed : state.toLeft.pending.length =
          (ControlChannelTask.party.input happening).length +
            next.toLeft.pending.length := by
        have sizes := congrArg List.length sent
        simp only [Channel.sent, delivered, List.length_append] at sizes
        omega
      unfold measure
      cases happening with
      | cancel =>
          obtain ⟨live, same⟩ := ControlChannelTask.step_cancel resumed
          rw [same, live, consumed]
          exact Nat.lt_succ_of_le (Nat.add_le_add_right
            (Nat.mul_le_mul_left 9 (Nat.le_add_left _ _)) _)
      | stream event =>
          obtain ⟨looped, _, token⟩ := ControlChannelTask.step_stream resumed
          have lowered := ControlChannelLoop.weight_step looped
          have input : ControlChannelTask.party.input (.stream event) = event.input := rfl
          have latched : (!next.left.cancelled).toNat ≤ (!state.left.cancelled).toNat := by
            rw [token]
            cases state.left.cancelled with
            | false => exact Bool.toNat_le _
            | true => exact Nat.zero_le _
          rw [consumed, input]
          omega

/-- The loop waits for nothing but its stream and its timer. -/
theorem step_enabled {state : ControlRun}
    (running : ∀ exit, state.left.loop ≠ .returned exit) :
    ∃ happening next, step state happening = some next := by
  have resumes (event : Event) {loop : ControlChannelLoop} {after : Channel × Channel}
      (other : event ≠ .cancelled) (looped : state.left.loop.step event = some loop)
      (moved : transfer event state.toLeft state.toRight true = some after) :
      ∃ happening next, step state happening = some next := by
    have resumed : ControlChannelTask.party.step state.left (.stream event) =
        some { loop := loop, cancelled := state.left.cancelled || loop.cancelsToken } := by
      simp [ControlChannelTask.party, ControlChannelTask.step, other, looped]
    have taken : step state (.inl (.stream event)) = some _ :=
      Duplex.step_inl_eq resumed rfl moved
    exact ⟨_, _, taken⟩
  cases phase : state.left.loop with
  | readLine buf =>
      exact resumes .elapsed (by decide) (by rw [phase]; rfl) rfl
  | writePong rest =>
      have written : state.left.loop.step (.sent rest) = some .flushPong := by
        simp [phase, ControlChannelLoop.step]
      exact resumes (.sent rest) (fun same => by cases same) written rfl
  | flushPong =>
      exact resumes .flushed (by decide) (by rw [phase]; rfl) rfl
  | returned exit => exact absurd phase (running exit)

/-- Where the loop stops on a stream: behind its leading PINGs and the first line that
is none, or behind all of it. -/
structure Stopped (stream : Bytes) (exit : ControlChannelLoop.Exit)
    (received sent : Bytes) : Prop where
  pongs : sent = repeated pongMessage (leading pingMessage stream)
  read : received = repeated pingMessage (leading pingMessage stream) ++
    firstLine (stream.drop (leading pingMessage stream * 5))
  exit : exit = ControlChannelLoop.ending
      (firstLine (stream.drop (leading pingMessage stream * 5))) ∨
    10 ∉ stream.drop (leading pingMessage stream * 5) ∧
      (exit = .readFailed ∨ exit = .timedOut)

private theorem leading_of_split {stream rest : Bytes} {count : Nat}
    (split : stream = repeated pingMessage count ++ rest)
    (other : ¬ pingMessage <+: rest) :
    leading pingMessage stream = count ∧ stream.drop (count * 5) = rest := by
  subst split
  constructor
  · rw [leading_append isLine_pingMessage.ne_nil, leading_eq_zero isLine_pingMessage.ne_nil
      other, Nat.add_zero]
  · apply List.drop_left'
    rw [length_repeated, length_pingMessage]

variable {stream : Bytes} {exit : ControlChannelLoop.Exit} {count : Nat}

private theorem stopped_line {front unread : Bytes} (clean : 10 ∉ front)
    (other : front ++ [10] ≠ pingMessage)
    (split : stream = repeated pingMessage count ++ (front ++ 10 :: unread)) :
    Stopped stream (ControlChannelLoop.ending (front ++ [10]))
      (repeated pingMessage count ++ (front ++ [10])) (repeated pongMessage count) := by
  have differs : ¬ pingMessage <+: front ++ 10 :: unread := by
    intro ping
    apply other
    have line : IsLine 10 (front ++ [10]) := ⟨front, rfl, clean⟩
    have front_line : front ++ [10] <+: front ++ 10 :: unread := ⟨unread, by simp⟩
    exact line.eq_of_prefix isLine_pingMessage front_line ping
  obtain ⟨counted, dropped⟩ := leading_of_split split differs
  refine ⟨?_, ?_, .inl ?_⟩
  · rw [counted]
  · rw [counted, dropped, firstLine_line clean]
  · rw [counted, dropped, firstLine_line clean]

private theorem stopped_end {rest : Bytes} (clean : 10 ∉ rest)
    (split : stream = repeated pingMessage count ++ rest)
    (ended : exit = ControlChannelLoop.ending rest ∨
      exit = .readFailed ∨ exit = .timedOut) :
    Stopped stream exit stream (repeated pongMessage count) := by
  have differs : ¬ pingMessage <+: rest := fun ping =>
    clean (ping.subset isLine_pingMessage.mem)
  obtain ⟨counted, dropped⟩ := leading_of_split split differs
  refine ⟨?_, ?_, ?_⟩
  · rw [counted]
  · rw [counted, dropped, firstLine_of_not_mem clean, split]
  · rw [counted, dropped, firstLine_of_not_mem clean]
    rcases ended with line | stopped
    · exact .inl line
    · exact .inr ⟨clean, stopped⟩

/-- What holds all along an undisturbed run. -/
structure Tracked (stream : Bytes) (state : ControlRun) : Prop where
  transcript : state.left.loop.Transcript state.toLeft.delivered state.toRight.sent
  arrived : state.toLeft.sent = stream
  live : (∀ exit, state.left.loop ≠ .returned exit) → state.left.cancelled = false
  stopped : ∀ exit, state.left.loop = .returned exit →
    Stopped stream exit state.toLeft.delivered state.toRight.sent

private theorem stopped_step {state next : ControlRun} {event : Event}
    (holds : Tracked stream state)
    (allowed : Undisturbed state (.inl (.stream event)))
    (taken : step state (.inl (.stream event)) = some next)
    (ended : next.left.loop = .returned exit) :
    Stopped stream exit next.toLeft.delivered next.toRight.sent := by
  obtain ⟨resumed, _, delivered, arrived, _, sent⟩ := Duplex.step_inl_eq_some taken
  obtain ⟨looped, onlyCancelled, _⟩ := ControlChannelTask.step_stream resumed
  have moved := Duplex.step_inl_transfer taken rfl
  have transcript := holds.transcript
  rw [ended] at looped
  rw [holds.arrived] at arrived
  change next.toLeft.delivered = _ ++ event.input at delivered
  change next.toRight.sent = _ ++ event.output at sent
  cases phase : state.left.loop with
  | readLine buf =>
      rw [phase] at looped transcript
      obtain ⟨count, received, clean, written⟩ := transcript
      have finished (empty : state.toLeft.pending = []) :
          stream = repeated pingMessage count ++ buf := by
        rw [← holds.arrived, Channel.sent, empty, List.append_nil, received]
      have whole (split : stream = repeated pingMessage count ++ buf)
          (silent : event.input = []) (quiet : event.output = [])
          (why : exit = ControlChannelLoop.ending buf ∨
            exit = .readFailed ∨ exit = .timedOut) :
          Stopped stream exit next.toLeft.delivered next.toRight.sent := by
        rw [delivered, sent, silent, quiet, List.append_nil, List.append_nil, received,
          ← split, written]
        exact stopped_end clean split why
      rcases ControlChannelLoop.readLine_returned looped with
        ⟨rfl, why⟩ | ⟨rfl, _⟩ | ⟨rfl, why⟩ | ⟨rfl, _, why⟩ | ⟨rfl, other, rfl⟩
      · exact whole (finished allowed) rfl rfl (.inr (.inr why))
      · have running : ∀ exit, state.left.loop ≠ .returned exit := by
          simp [phase]
        have live := holds.live running
        rw [onlyCancelled rfl] at live
        cases live
      · exact whole (finished allowed) rfl rfl (.inr (.inl why))
      · exact whole (finished (transfer_eof moved).1) rfl rfl (.inl why)
      · have split : stream = repeated pingMessage count ++
            (buf ++ 10 :: next.toLeft.pending) := by
          rw [← arrived, Channel.sent, delivered, received]
          simp
        have silent : (Event.received [10]).output = [] := rfl
        rw [delivered, sent, silent, List.append_nil, received, written, Event.input,
          List.append_assoc]
        exact stopped_line clean other split
  | writePong rest =>
      have failed := ControlChannelLoop.answering_returned (.inl ⟨rest, phase⟩) looped
      subst failed
      exact allowed.elim
  | flushPong =>
      have failed := ControlChannelLoop.answering_returned (.inr phase) looped
      subst failed
      exact allowed.elim
  | returned exit =>
      rw [phase] at looped
      cases looped

theorem tracked_start (stream : Bytes) : Tracked stream (start stream) where
  transcript := ControlChannelLoop.transcript_start
  arrived := rfl
  live := fun _ => rfl
  stopped := fun _ ended => by cases ended

theorem tracked_step {state next : ControlRun}
    {happening : ControlChannelTask.Happening ⊕ Empty}
    (allowed : Undisturbed state happening) (holds : Tracked stream state)
    (taken : step state happening = some next) : Tracked stream next := by
  cases happening with
  | inr event => exact nomatch event
  | inl happening =>
      cases happening with
      | cancel => exact allowed.elim
      | stream event =>
          obtain ⟨resumed, _, delivered, arrived, _, sent⟩ :=
            Duplex.step_inl_eq_some taken
          obtain ⟨looped, _, token⟩ := ControlChannelTask.step_stream resumed
          refine ⟨?_, ?_, ?_, ?_⟩
          · rw [delivered, sent]
            exact ControlChannelLoop.transcript_step holds.transcript looped
          · rw [arrived, holds.arrived]
          · intro running
            have before : ∀ exit, state.left.loop ≠ .returned exit := by
              intro exit phase
              rw [phase] at looped
              cases looped
            have silent : next.left.loop.cancelsToken = false := by
              cases phase : next.left.loop with
              | returned exit => exact absurd phase (running exit)
              | _ => rfl
            rw [token, holds.live before, silent]
            rfl
          · intro exit ended
            exact stopped_step holds allowed taken ended

/-- The trace of `run_control_channel_loop` on any stream: the loop always comes to
return `Ok`, with the token cancelled and at most the PONGs that the stream's leading
PINGs call for; undisturbed, it stops at exactly the first line that is no PING. -/
theorem control_channel_trace {stream : Bytes}
    {happenings : List (ControlChannelTask.Happening ⊕ Empty)} {final : ControlRun}
    (ran : run step (start stream) happenings = some final) :
    happenings.length ≤ 9 * stream.length + 2 ∧
    (Stuck step final → final.left.result = some (.ok ())) ∧
    (final.left.result = some (.ok ()) → final.left.cancelled = true) ∧
    final.toLeft.delivered <+: stream ∧
    final.toRight.sent <+: repeated pongMessage (leading pingMessage stream) ∧
    (Along step Undisturbed (start stream) happenings →
      ∀ exit, final.left.loop = .returned exit →
        Stopped stream exit final.toLeft.delivered final.toRight.sent) := by
  have arrived : final.toLeft.sent = stream := Duplex.fed_sent ran
  have delivered : final.toLeft.delivered <+: stream :=
    arrived ▸ List.prefix_append _ _
  refine ⟨?_, ?_, ?_, delivered, ?_, ?_⟩
  · have bounded := run_length_le measure (fun _ _ _ => measure_step) ran
    have size : (start stream).measure = 9 * stream.length + 2 := rfl
    omega
  · intro stuck
    unfold ControlChannelTask.result
    split
    · rfl
    · rename_i running
      obtain ⟨happening, next, taken⟩ := step_enabled running
      rw [stuck happening] at taken
      cases taken
  · intro returned
    have token : final.left.TokenCancelled := by
      refine run_invariant (fun state : ControlRun => state.left.TokenCancelled)
        ?_ ?_ ran
      · intro state happening next _ taken
        cases happening with
        | inl happening =>
            exact ControlChannelTask.tokenCancelled_step
              (Duplex.step_inl_eq_some taken).1
        | inr event => exact nomatch event
      · intro exit ended
        cases ended
    unfold ControlChannelTask.result at returned
    split at returned
    · rename_i exit ended
      exact token exit ended
    · cases returned
  · have transcript : final.left.loop.Transcript final.toLeft.delivered
        final.toRight.sent :=
      Duplex.left_invariant _ ControlChannelTask.party_preserves
        ControlChannelLoop.transcript_start ran
    obtain ⟨count, pings, pongs⟩ := transcript.bounds
    have counted := le_leading isLine_pingMessage.ne_nil (pings.trans delivered)
    exact pongs.trans (repeated_mono _ counted)
  · intro undisturbed
    have tracked := run_along Undisturbed (Tracked stream)
      (fun _ _ _ allowed holds taken => tracked_step allowed holds taken)
      (tracked_start stream) undisturbed ran
    exact tracked.stopped

def readBytes (bytes : Bytes) : List (ControlChannelTask.Happening ⊕ Empty) :=
  bytes.map fun byte => .inl (.stream (.received [byte]))

def pingThenBye : List (ControlChannelTask.Happening ⊕ Empty) :=
  readBytes pingMessage ++
    [.inl (.stream (.sent pongMessage)), .inl (.stream .flushed)] ++
    readBytes connectionEndMessage

def afterBye : ControlRun where
  left := { loop := .returned .bye, cancelled := true }
  right := ()
  toLeft := { delivered := pingMessage ++ connectionEndMessage }
  toRight := { pending := pongMessage }

theorem control_channel_trace_bye :
    run step (start (pingMessage ++ connectionEndMessage)) pingThenBye = some afterBye ∧
      afterBye.left.cancelled = true ∧
      Stopped (pingMessage ++ connectionEndMessage) .bye
        (pingMessage ++ connectionEndMessage) pongMessage := by
  have ran : run step (start (pingMessage ++ connectionEndMessage)) pingThenBye =
      some afterBye := rfl
  have undisturbed : Along step Undisturbed
      (start (pingMessage ++ connectionEndMessage)) pingThenBye :=
    ⟨trivial, trivial, trivial, trivial, trivial, trivial, trivial, trivial, trivial,
      trivial, trivial, trivial⟩
  obtain ⟨_, _, token, _, _, stopped⟩ := control_channel_trace ran
  exact ⟨ran, token rfl, stopped undisturbed .bye rfl⟩

end ControlRun

end PortRedirect.Protocol
