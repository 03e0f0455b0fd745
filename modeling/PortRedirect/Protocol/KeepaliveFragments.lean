import PortRedirect.Protocol.KeepaliveTranscript

namespace PortRedirect.Protocol

open PortRedirect.Text
open PortRedirect.Stream
open PortRedirect.Transition

namespace KeepaliveClient

/-! How many more steps the client loop can take without new input. -/

def weight (client : KeepaliveClient) : Nat :=
  match client.phase with
  | .awaitTick => 10
  | .writePing rest => rest.length + 4
  | .flushPing => 3
  -- the end of the stream answers a buffer that holds a whole PONG
  | .readPong responseBuf => if responseBuf = pongMessage then 11 else 2
  | .returned _ => 0

private theorem weight_heardLine (client : KeepaliveClient) (line unread : Bytes)
    (pongs : client.weight = if line = pongMessage then 11 else 2) :
    (client.heardLine line unread).weight < client.weight := by
  unfold heardLine
  split
  · rename_i pong
    rw [pongs, if_pos pong]
    exact Nat.lt_succ_self 10
  · rename_i other
    rw [pongs, if_neg other]
    exact Nat.zero_lt_two

private theorem weight_heardLine_le (client : KeepaliveClient) (line unread : Bytes) :
    (client.heardLine line unread).weight ≤ 10 := by
  unfold heardLine
  split
  · exact Nat.le_refl 10
  · exact Nat.zero_le 10

theorem weight_step {client next : KeepaliveClient} {event : Event}
    (taken : step client event = some next) :
    next.weight < client.weight + 10 * event.input.length := by
  unfold step at taken
  split at taken
  · rename_i phase
    cases event with
    | tick =>
        cases taken
        simp only [weight, phase]
        decide
    | _ => cases taken
  · rename_i rest phase
    obtain ⟨outcome, polled, rfl⟩ := Option.map_eq_some_iff.mp taken
    rcases pollWriteAll_eq_some polled with
      ⟨rfl, rfl⟩ | ⟨bytes, tail, rfl, rfl, rfl, nonempty, _⟩ | ⟨rfl, rfl⟩
    · simp only [weight, phase]
      omega
    · have shorter := List.length_pos_of_ne_nil nonempty
      simp only [weight, phase, List.length_append]
      omega
    · simp only [weight, phase]
      omega
  · rename_i phase
    obtain ⟨outcome, polled, rfl⟩ := Option.map_eq_some_iff.mp taken
    rcases pollFlush_eq_some polled with ⟨rfl, rfl⟩ | ⟨rfl, rfl⟩
    · simp only [weight, phase]
      decide
    · simp only [weight, phase]
      decide
  · rename_i responseBuf phase
    have current : client.weight = if responseBuf = pongMessage then 11 else 2 := by
      simp only [weight, phase]
    have positive : 2 ≤ client.weight := by
      rw [current]
      split <;> decide
    split at taken
    · cases taken
      exact Nat.lt_of_lt_of_le Nat.zero_lt_two (positive.trans (Nat.le_add_right _ _))
    · obtain ⟨outcome, polled, rfl⟩ := Option.map_eq_some_iff.mp taken
      rcases pollReadUntil_eq_some polled with
        ⟨front, unread, rfl, _, rfl⟩ | ⟨bytes, rfl, _, rfl⟩ | ⟨rfl, rfl⟩ | ⟨rfl, rfl⟩
      · have heard := weight_heardLine_le client (responseBuf ++ (front ++ [10])) unread
        simp only [Event.input, List.length_append, List.length_singleton]
        omega
      · have longer := List.length_pos_of_ne_nil (pollReadUntil_received polled).1
        have more : weight { client with phase := .readPong (responseBuf ++ bytes) } ≤
            11 := by
          simp only [weight]
          split <;> decide
        simp only [Event.input]
        omega
      · simp only
        split
        · exact Nat.lt_of_lt_of_le Nat.zero_lt_two positive
        · exact weight_heardLine client responseBuf [] current
      · exact Nat.lt_of_lt_of_le Nat.zero_lt_two positive
  · cases taken

/-! What the loop has received: for each PONG that it counted its line and whatever
the reader of that iteration held behind the line when it was dropped. -/

def answers (drops : List Bytes) : Bytes :=
  drops.flatMap fun dropped => pongMessage ++ dropped

/-- What has been received for a PING that no PONG was counted for. -/
def Unanswered (client : KeepaliveClient) (tail : Bytes) : Prop :=
  match client.phase with
  | .awaitTick | .writePing _ | .flushPing => tail = []
  | .readPong responseBuf => tail = responseBuf ∧ 10 ∉ responseBuf
  | .returned (.unexpected response) =>
      (IsLine 10 response ∧ response ≠ pongMessage ∧ response <+: tail) ∨
        (tail = response ∧ 10 ∉ response)
  | .returned _ => 10 ∉ tail

structure Counted (client : KeepaliveClient) (drops : List Bytes) (tail received : Bytes) :
    Prop where
  count : drops.length = client.pongCount
  unread : drops.flatten = client.unread
  short : ∀ dropped ∈ drops, dropped.length < bufReaderCapacity
  received : received = answers drops ++ tail
  unanswered : client.Unanswered tail

def Answered (client : KeepaliveClient) (received : Bytes) : Prop :=
  ∃ drops tail, client.Counted drops tail received

theorem answered_start : Answered {} [] :=
  ⟨[], [], rfl, rfl, by simp, rfl, rfl⟩

variable {client : KeepaliveClient} {drops : List Bytes} {tail received : Bytes}

private theorem Counted.move (counted : client.Counted drops tail received)
    {phase : Phase} {tail' : Bytes}
    (unanswered : Unanswered { client with phase := phase } tail') :
    Answered { client with phase := phase } (answers drops ++ tail') :=
  ⟨drops, tail', counted.count, counted.unread, counted.short, rfl, unanswered⟩

private theorem answered_heardLine (counted : client.Counted drops tail received)
    {line : Bytes} (unread : Bytes) (short : unread.length < bufReaderCapacity)
    (ended : IsLine 10 line ∨ (10 ∉ line ∧ unread = [])) :
    (client.heardLine line unread).Answered (answers drops ++ (line ++ unread)) := by
  unfold heardLine
  split
  · rename_i pong
    refine ⟨drops ++ [unread], [], ?_, ?_, ?_, ?_, rfl⟩
    · rw [List.length_append, counted.count, List.length_singleton]
    · rw [List.flatten_append, counted.unread, List.flatten_singleton]
    · intro dropped member
      rcases List.mem_append.mp member with before | last
      · exact counted.short dropped before
      · rw [List.mem_singleton.mp last]
        exact short
    · simp [answers, pong]
  · rename_i other
    apply counted.move
    rcases ended with line | ⟨clean, rfl⟩
    · exact .inl ⟨line, other, List.prefix_append _ _⟩
    · exact .inr ⟨List.append_nil _, clean⟩

theorem answered_step {next : KeepaliveClient} {event : Event}
    (holds : client.Answered received) (taken : step client event = some next) :
    next.Answered (received ++ event.input) := by
  obtain ⟨drops, tail, counted⟩ := holds
  have unanswered := counted.unanswered
  unfold Unanswered at unanswered
  unfold step at taken
  rw [counted.received, List.append_assoc]
  split at taken
  · rename_i phase
    simp only [phase] at unanswered
    subst unanswered
    cases event with
    | tick =>
        cases taken
        exact counted.move rfl
    | _ => cases taken
  · rename_i rest phase
    simp only [phase] at unanswered
    subst unanswered
    obtain ⟨outcome, polled, rfl⟩ := Option.map_eq_some_iff.mp taken
    rcases pollWriteAll_eq_some polled with
      ⟨rfl, rfl⟩ | ⟨bytes, tail, rfl, rfl, _⟩ | ⟨rfl, rfl⟩
    · exact counted.move rfl
    · exact counted.move rfl
    · exact counted.move List.not_mem_nil
  · rename_i phase
    simp only [phase] at unanswered
    subst unanswered
    obtain ⟨outcome, polled, rfl⟩ := Option.map_eq_some_iff.mp taken
    rcases pollFlush_eq_some polled with ⟨rfl, rfl⟩ | ⟨rfl, rfl⟩
    · exact counted.move ⟨rfl, List.not_mem_nil⟩
    · exact counted.move List.not_mem_nil
  · rename_i responseBuf phase
    simp only [phase] at unanswered
    obtain ⟨rfl, clean⟩ := unanswered
    split at taken
    · rename_i elapsed
      cases taken
      subst elapsed
      have ended : Answered { client with phase := .returned .timedOut }
          (answers drops ++ tail) := counted.move clean
      simpa using ended
    · obtain ⟨outcome, polled, rfl⟩ := Option.map_eq_some_iff.mp taken
      rcases pollReadUntil_eq_some polled with
        ⟨front, unread, rfl, fresh, rfl⟩ | ⟨bytes, rfl, fresh, rfl⟩ | ⟨rfl, rfl⟩ |
          ⟨rfl, rfl⟩
      · have fits := (pollReadUntil_received polled).2
        simp only [List.length_append, List.length_singleton] at fits
        have line : IsLine 10 (tail ++ (front ++ [10])) := by
          refine ⟨tail ++ front, by simp, ?_⟩
          rw [List.mem_append, not_or]
          exact ⟨clean, fresh⟩
        have heard := answered_heardLine counted unread (by omega) (.inl line)
        simpa using heard
      · apply counted.move
        refine ⟨rfl, ?_⟩
        rw [List.mem_append, not_or]
        exact ⟨clean, fresh⟩
      · simp only
        split
        · rename_i empty
          rw [empty]
          exact counted.move List.not_mem_nil
        · exact answered_heardLine counted [] (by decide) (.inr ⟨clean, rfl⟩)
      · have ended : Answered { client with phase := .returned .readFailed }
            (answers drops ++ tail) := counted.move clean
        simpa using ended
  · cases taken

end KeepaliveClient

abbrev KeepaliveRun := Duplex KeepaliveClient Unit

namespace KeepaliveRun

/-- The client loop against a peer that sends this stream and then ends it. -/
def start (stream : Bytes) : KeepaliveRun := Duplex.fed {} stream

def step : KeepaliveRun → Event ⊕ Empty → Option KeepaliveRun :=
  Duplex.step KeepaliveClient.party Party.departed

def Undisturbed : Event ⊕ Empty → Prop
  | .inl event => event.fault = false
  | .inr _ => True

/-- A loop that has ended, after whatever reads it took to get there. -/
structure Complete (stream : Bytes) (final : KeepaliveRun) : Prop where
  reached : ∃ events, (∀ event ∈ events, Undisturbed event) ∧
    run step (start stream) events = some final
  returned : ∃ exit, final.left.phase = .returned exit

/-- What holds all along an undisturbed run. -/
structure Tracked (stream : Bytes) (state : KeepaliveRun) : Prop where
  transcript : state.left.Transcript state.toLeft.delivered state.toRight.sent
  answered : state.left.Answered state.toLeft.delivered
  arrived : state.toLeft.sent = stream
  ended : ∀ exit, state.left.phase = .returned exit →
    (exit = .closed ∧ state.toLeft.pending = []) ∨
      ∃ response, exit = .unexpected response ∧
        (10 ∈ response ∨ state.toLeft.pending = [])

theorem tracked_start (stream : Bytes) : Tracked stream (start stream) where
  transcript := KeepaliveClient.transcript_start
  answered := KeepaliveClient.answered_start
  arrived := rfl
  ended := fun _ phase => by cases phase

variable {stream : Bytes} {state next final : KeepaliveRun}

theorem tracked_step {event : Event ⊕ Empty} (sound : Undisturbed event)
    (holds : Tracked stream state) (taken : step state event = some next) :
    Tracked stream next := by
  cases event with
  | inr event => exact nomatch event
  | inl event =>
      obtain ⟨resumed, _, delivered, arrived, _, sent⟩ := Duplex.step_inl_eq_some taken
      have moved := Duplex.step_inl_transfer taken rfl
      refine ⟨?_, ?_, ?_, ?_⟩
      · rw [delivered, sent]
        exact KeepaliveClient.transcript_step holds.transcript resumed
      · rw [delivered]
        exact KeepaliveClient.answered_step holds.answered resumed
      · rw [arrived, holds.arrived]
      · have drained (eof : event = .eof) : next.toLeft.pending = [] := by
          subst eof
          have empty := transfer_eof moved
          rw [transfer, if_pos empty] at moved
          have same : state.toLeft = next.toLeft :=
            congrArg Prod.fst (Option.some.inj moved)
          rw [← same]
          exact empty.1
        intro exit phase
        have cause := KeepaliveClient.step_cause resumed phase
        cases exit with
        | closed => exact .inl ⟨rfl, drained cause.2⟩
        | unexpected response =>
            obtain ⟨responseBuf, _, _, ⟨front, unread, _, _, rfl⟩ | ⟨eof, _⟩⟩ := cause
            · exact .inr ⟨_, rfl, .inl (by simp)⟩
            · exact .inr ⟨_, rfl, .inr (drained eof)⟩
        | sendFailed | flushFailed | readFailed | timedOut =>
            have fault := cause.2
            subst fault
            cases sound

/-- The stream of a run that has ended: the lines it counted, each with what was dropped
behind it, and then no PONG line. -/
theorem Complete.stream_eq (complete : Complete stream final) :
    ∃ drops rest, stream = KeepaliveClient.answers drops ++ rest ∧
      ¬ pongMessage <+: rest ∧ drops.length = final.left.pongCount ∧
      drops.flatten = final.left.unread ∧
      (∀ dropped ∈ drops, dropped.length < bufReaderCapacity) ∧
      final.toRight.sent = repeated pingMessage (final.left.pongCount + 1) := by
  obtain ⟨⟨events, sound, ran⟩, exit, phase⟩ := complete
  have tracked := run_invariant_of_forall Undisturbed (Tracked stream)
    (fun _ _ _ allowed holds taken => tracked_step allowed holds taken)
    (tracked_start stream) sound ran
  obtain ⟨drops, tail, counted⟩ := tracked.answered
  have split : stream = KeepaliveClient.answers drops ++ (tail ++ final.toLeft.pending) := by
    rw [← tracked.arrived, Channel.sent, counted.received, List.append_assoc]
  have unanswered := counted.unanswered
  have transcript := tracked.transcript
  unfold KeepaliveClient.Unanswered at unanswered
  unfold KeepaliveClient.Transcript at transcript
  simp only [phase] at unanswered transcript
  refine ⟨drops, _, split, ?_, counted.count, counted.unread, counted.short, ?_⟩
  · rcases tracked.ended exit phase with ⟨rfl, empty⟩ | ⟨response, rfl, ended⟩
    · intro pong
      rw [empty, List.append_nil] at pong
      exact unanswered (pong.subset isLine_pongMessage.mem)
    · intro pong
      rcases unanswered with ⟨line, other, front⟩ | ⟨rfl, clean⟩
      · exact other (line.eq_of_prefix isLine_pongMessage
          (front.trans (List.prefix_append _ _)) pong)
      · rw [ended.resolve_left clean, List.append_nil] at pong
        exact clean (pong.subset isLine_pongMessage.mem)
  · apply transcript.2.1
    rcases tracked.ended exit phase with ⟨rfl, _⟩ | ⟨response, rfl, _⟩
    · intro other
      cases other
    · intro other
      cases other

/-! Runs that read at will. -/

def measure (state : KeepaliveRun) : Nat :=
  10 * state.toLeft.pending.length + state.left.weight

theorem measure_step {event : Event} (taken : step state (.inl event) = some next) :
    next.measure < state.measure := by
  obtain ⟨resumed, _, delivered, sent, _⟩ := Duplex.step_inl_eq_some taken
  have lowered := KeepaliveClient.weight_step resumed
  have sizes := congrArg List.length sent
  change next.toLeft.delivered = _ ++ event.input at delivered
  simp only [Channel.sent, delivered, List.length_append] at sizes
  unfold measure
  omega

theorem step_enabled (running : ¬ ∃ exit, state.left.phase = .returned exit) :
    ∃ event next, Undisturbed event ∧ step state event = some next ∧
      next.measure < state.measure := by
  have resumes (event : Event) {client : KeepaliveClient} {after : Channel × Channel}
      (sound : event.fault = false) (resumed : state.left.step event = some client)
      (moved : transfer event state.toLeft state.toRight true = some after) :
      ∃ event next, Undisturbed event ∧ step state event = some next ∧
        next.measure < state.measure := by
    have taken : step state (.inl event) = some _ :=
      Duplex.step_inl_eq resumed rfl moved
    exact ⟨.inl event, _, sound, taken, measure_step taken⟩
  cases phase : state.left.phase with
  | awaitTick =>
      exact resumes .tick rfl (by simp only [KeepaliveClient.step, phase]; rfl) rfl
  | writePing rest =>
      have written : state.left.step (.sent rest) =
          some { state.left with phase := .flushPing } := by
        simp [KeepaliveClient.step, phase]
      exact resumes (.sent rest) rfl written rfl
  | flushPing =>
      exact resumes .flushed rfl (by simp only [KeepaliveClient.step, phase]; rfl) rfl
  | readPong responseBuf =>
      obtain ⟨event, outcome, after, sound, polled, moved⟩ :=
        pollRead_enabled (show 0 < bufReaderCapacity by decide)
          (show state.toLeft.pending ≠ [] ∨ true = true from .inr rfl) state.toRight
      have punctual : event ≠ .elapsed := by
        rintro rfl
        cases sound
      have heard : ∃ client, state.left.step event = some client := by
        simp [KeepaliveClient.step, phase, punctual, pollReadUntil, polled]
      obtain ⟨client, resumed⟩ := heard
      exact resumes event sound resumed moved
  | returned exit => exact absurd ⟨exit, phase⟩ running

private theorem pongCount_step {event : Event ⊕ Empty}
    (taken : step state event = some next) :
    state.left.pongCount ≤ next.left.pongCount := by
  cases event with
  | inr event => exact nomatch event
  | inl event =>
      obtain ⟨resumed, _⟩ := Duplex.step_inl_eq_some taken
      rcases KeepaliveClient.step_cases resumed with ⟨_, _, same⟩ |
        ⟨_, _, ⟨rest, same⟩ | same⟩ | ⟨_, _, same⟩ |
        ⟨_, _, ⟨bytes, _, same⟩ | ⟨_, unread, same⟩⟩ | ⟨exit, cause, same⟩ <;>
        simp [same]

/-- Every run can be brought to its end undisturbed, and counts on. -/
theorem exists_complete {events : List (Event ⊕ Empty)}
    (sound : ∀ event ∈ events, Undisturbed event)
    (ran : run step (start stream) events = some state) :
    ∃ final, Complete stream final ∧ state.left.pongCount ≤ final.left.pongCount := by
  obtain ⟨more, final, later, finished, returned⟩ := exists_run_of_progress measure
    Undisturbed (fun state : KeepaliveRun => ∃ exit, state.left.phase = .returned exit)
    (fun _ running => step_enabled running) state
  refine ⟨final, ⟨⟨events ++ more, ?_, ?_⟩, returned⟩, ?_⟩
  · exact List.forall_mem_append.mpr ⟨sound, later⟩
  · exact run_append_eq_some.mpr ⟨state, ran, finished⟩
  · exact run_invariant (fun reached : KeepaliveRun =>
      state.left.pongCount ≤ reached.left.pongCount)
      (fun _ _ _ holds taken => holds.trans (pongCount_step taken)) (Nat.le_refl _) finished

private theorem step_received {bytes rest : Bytes} {client : KeepaliveClient}
    (front : state.toLeft.pending = bytes ++ rest)
    (resumed : state.left.step (.received bytes) = some client) :
    step state (.inl (.received bytes)) =
      some { state with
        left := client
        toLeft := { delivered := state.toLeft.delivered ++ bytes, pending := rest } } := by
  have moved : transfer (.received bytes) state.toLeft state.toRight
      (Party.departed.gone state.right) =
      some ({ delivered := state.toLeft.delivered ++ bytes, pending := rest },
        state.toRight) := by
    simp [transfer, Channel.deliver, front]
  exact Duplex.step_inl_eq resumed rfl moved

def pingEvents : List (Event ⊕ Empty) := [.inl .tick, .inl (.sent pingMessage), .inl .flushed]

def pongEvents (dropped : Bytes) : List (Event ⊕ Empty) :=
  [.inl (.received (utf8 "PONG")), .inl (.received (10 :: dropped))]

private theorem undisturbed_round (dropped : Bytes) :
    ∀ event ∈ pingEvents ++ pongEvents dropped, Undisturbed event := by
  simp [pingEvents, pongEvents, Undisturbed, Event.fault]

private theorem run_ping (count : Nat) (unread : Bytes) (toRight toLeft : Channel) :
    run step ⟨⟨.awaitTick, count, unread⟩, (), toRight, toLeft⟩ pingEvents =
      some ⟨⟨.readPong [], count, unread⟩, (), toRight.write pingMessage, toLeft⟩ := rfl

private theorem run_pong {dropped : Bytes} (short : dropped.length < bufReaderCapacity)
    (count : Nat) (unread : Bytes) (toRight : Channel) (delivered rest : Bytes) :
    run step ⟨⟨.readPong [], count, unread⟩, (), toRight,
        ⟨delivered, pongMessage ++ (dropped ++ rest)⟩⟩ (pongEvents dropped) =
      some ⟨⟨.awaitTick, count + 1, unread ++ dropped⟩, (), toRight,
        ⟨delivered ++ utf8 "PONG" ++ 10 :: dropped, rest⟩⟩ := by
  have word : KeepaliveClient.step ⟨.readPong [], count, unread⟩
      (.received (utf8 "PONG")) = some ⟨.readPong (utf8 "PONG"), count, unread⟩ := rfl
  have newline : KeepaliveClient.step ⟨.readPong (utf8 "PONG"), count, unread⟩
      (.received (10 :: dropped)) = some ⟨.awaitTick, count + 1, unread ++ dropped⟩ := by
    have fits : dropped.length + 1 ≤ bufReaderCapacity := short
    have line : utf8 "PONG" ++ [10] = pongMessage := rfl
    simp [KeepaliveClient.step, pollReadUntil, pollRead, splitLine, fits, line,
      KeepaliveClient.heardLine]
  have front : pongMessage ++ (dropped ++ rest) =
      utf8 "PONG" ++ (10 :: (dropped ++ rest)) := rfl
  have behind : 10 :: (dropped ++ rest) = 10 :: dropped ++ rest := rfl
  exact run_cons_eq_some.mpr ⟨_, step_received front word,
    run_singleton_eq_some.mpr (step_received behind newline)⟩

private theorem run_round (dropped : Bytes) (short : dropped.length < bufReaderCapacity)
    (count : Nat) (unread : Bytes) (toRight : Channel) (delivered rest : Bytes) :
    run step ⟨⟨.awaitTick, count, unread⟩, (), toRight,
        ⟨delivered, pongMessage ++ (dropped ++ rest)⟩⟩ (pingEvents ++ pongEvents dropped) =
      some ⟨⟨.awaitTick, count + 1, unread ++ dropped⟩, (), toRight.write pingMessage,
        ⟨delivered ++ utf8 "PONG" ++ 10 :: dropped, rest⟩⟩ :=
  run_append_eq_some.mpr ⟨_, run_ping .., run_pong short ..⟩

/-- Every way of reading the stream sends the same PINGs and counts the same PONGs,
those that the stream begins with. -/
def Independent (stream : Bytes) : Prop :=
  ∀ first second, Complete stream first → Complete stream second →
    first.toRight.sent = second.toRight.sent ∧
    first.left.pongCount = second.left.pongCount ∧
    first.left.pongCount = leading pongMessage stream

/-- The stream begins with one PONG at most, and no read that takes it can take the bytes
up to another one as well. -/
def AtMostOne (stream : Bytes) : Prop :=
  leading pongMessage stream = 0 ∨
    (leading pongMessage stream = 1 ∧
      ∀ skipped, 0 < skipped → skipped < bufReaderCapacity →
        ¬ pongMessage <+: stream.drop (5 + skipped))

theorem Complete.pongCount_of_atMostOne (complete : Complete stream final)
    (single : AtMostOne stream) :
    final.left.pongCount = leading pongMessage stream := by
  obtain ⟨drops, rest, split, other, count, _, short, _⟩ := complete.stream_eq
  rw [← count]
  cases drops with
  | nil =>
      subst split
      exact (leading_eq_zero isLine_pongMessage.ne_nil other).symm
  | cons dropped drops =>
      have once : 1 ≤ leading pongMessage stream := by
        apply le_leading isLine_pongMessage.ne_nil
        simp [split, KeepaliveClient.answers, repeated]
      have only := single.resolve_left (Nat.ne_of_gt once)
      cases drops with
      | nil => exact only.1.symm
      | cons later drops =>
          have behind : stream = pongMessage ++ (dropped ++
              (pongMessage ++ (later ++ KeepaliveClient.answers drops ++ rest))) := by
            simp [split, KeepaliveClient.answers]
          by_cases empty : dropped = []
          · have twice : 2 ≤ leading pongMessage stream := by
              apply le_leading isLine_pongMessage.ne_nil
              simp [behind, empty, repeated]
            omega
          · have next : pongMessage <+: stream.drop (5 + dropped.length) := by
              rw [behind, ← length_pongMessage, ← List.drop_drop, List.drop_left,
                List.drop_left]
              exact List.prefix_append _ _
            exact absurd next (only.2 dropped.length (List.length_pos_of_ne_nil empty)
              (short dropped (List.mem_cons_self ..)))

private theorem exists_second_count {dropped rest : Bytes}
    (short : dropped.length < bufReaderCapacity)
    (split : stream = pongMessage ++ (dropped ++ (pongMessage ++ rest))) :
    ∃ final, Complete stream final ∧ 2 ≤ final.left.pongCount := by
  subst split
  have first := run_round dropped short 0 [] {} [] (pongMessage ++ rest)
  have second := run_append_eq_some.mpr ⟨_, first,
    run_round [] (by decide) 1 ([] ++ dropped) _ _ rest⟩
  exact exists_complete (List.forall_mem_append.mpr
    ⟨undisturbed_round dropped, undisturbed_round []⟩) second

private theorem exists_first_count {rest : Bytes}
    (split : stream = pongMessage ++ (pongMessage ++ rest)) :
    ∃ final, Complete stream final ∧ final.left.pongCount = 1 := by
  subst split
  have first := run_round [80] (by decide) 0 [] {} [] ([79, 78, 71, 10] ++ rest)
  have heard : KeepaliveClient.step ⟨.readPong [], 1, [80]⟩
      (.received [79, 78, 71, 10]) =
        some ⟨.returned (.unexpected [79, 78, 71, 10]), 1, [80]⟩ := by
    decide
  have last (toRight : Channel) (delivered : Bytes) :
      run step ⟨⟨.awaitTick, 1, [80]⟩, (), toRight, ⟨delivered, [79, 78, 71, 10] ++ rest⟩⟩
          (pingEvents ++ [.inl (.received [79, 78, 71, 10])]) =
        some ⟨⟨.returned (.unexpected [79, 78, 71, 10]), 1, [80]⟩, (),
          toRight.write pingMessage, ⟨delivered ++ [79, 78, 71, 10], rest⟩⟩ :=
    run_append_eq_some.mpr ⟨_, run_ping .., run_singleton_eq_some.mpr
      (step_received rfl heard)⟩
  have sound : ∀ event ∈ pingEvents ++ [.inl (.received [79, 78, 71, 10])],
      Undisturbed event := by
    simp [pingEvents, Undisturbed, Event.fault]
  exact ⟨_, ⟨⟨_, List.forall_mem_append.mpr ⟨undisturbed_round [80], sound⟩,
    run_append_eq_some.mpr ⟨_, first, last _ _⟩⟩, _, rfl⟩, rfl⟩

/-- How a stream is split into reads makes no difference exactly when it begins with at
most one PONG and no dropped reader can hide what stands before another. -/
theorem fragmentation_independent_iff (stream : Bytes) :
    Independent stream ↔ AtMostOne stream := by
  constructor
  · intro independent
    have front := repeated_leading pongMessage stream
    match counted : leading pongMessage stream with
    | 0 => exact .inl counted
    | 1 =>
        refine .inr ⟨counted, fun skipped positive short another => ?_⟩
        rw [counted] at front
        obtain ⟨behind, split⟩ := front
        obtain ⟨rest, more⟩ := another
        have dropped : stream.drop (5 + skipped) = behind.drop skipped := by
          rw [← split, ← length_pongMessage, ← List.drop_drop]
          simp [repeated]
        have parts : stream =
            pongMessage ++ (behind.take skipped ++ (pongMessage ++ rest)) := by
          rw [more, dropped, List.take_append_drop, ← split]
          simp [repeated]
        have fits : (behind.take skipped).length < bufReaderCapacity :=
          Nat.lt_of_le_of_lt (List.length_take_le _ _) short
        obtain ⟨final, complete, twice⟩ := exists_second_count fits parts
        have same := (independent final final complete complete).2.2
        omega
    | count + 2 =>
        have twice := (repeated_mono pongMessage (Nat.le_add_left 2 count)).trans
          (counted ▸ front)
        obtain ⟨rest, split⟩ := twice
        have parts : stream = pongMessage ++ (pongMessage ++ rest) := by
          simp [← split, repeated]
        obtain ⟨final, complete, once⟩ := exists_first_count parts
        have same := (independent final final complete complete).2.2
        omega
  · intro single first second complete complete'
    have count := complete.pongCount_of_atMostOne single
    have count' := complete'.pongCount_of_atMostOne single
    obtain ⟨_, _, _, _, _, _, _, sent⟩ := complete.stream_eq
    obtain ⟨_, _, _, _, _, _, _, sent'⟩ := complete'.stream_eq
    exact ⟨by rw [sent, sent', count, count'], count.trans count'.symm, count⟩

/-- Two PONGs are counted as one when the first read takes a byte of the second. -/
theorem fragmentation_dependent : ¬ Independent (pongMessage ++ pongMessage) := by
  intro independent
  have parts : pongMessage ++ pongMessage = pongMessage ++ (pongMessage ++ []) := rfl
  obtain ⟨final, complete, once⟩ := exists_first_count parts
  have counted := (independent final final complete complete).2.2
  have twice : leading pongMessage (pongMessage ++ pongMessage) = 2 := by decide
  omega

end KeepaliveRun

end PortRedirect.Protocol
