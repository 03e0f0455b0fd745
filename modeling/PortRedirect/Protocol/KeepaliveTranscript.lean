import PortRedirect.Protocol.Keepalive
import PortRedirect.Stream.Message

namespace PortRedirect.Protocol

open PortRedirect.Text
open PortRedirect.Stream

theorem isLine_pingMessage : IsLine 10 pingMessage :=
  ⟨utf8 "PING", by decide, by decide⟩

theorem isLine_pongMessage : IsLine 10 pongMessage :=
  ⟨utf8 "PONG", by decide, by decide⟩

theorem length_pingMessage : pingMessage.length = 5 := by decide

theorem length_pongMessage : pongMessage.length = 5 := by decide

namespace KeepaliveClient

/-! What the client loop has read and written, whatever is at the other end: one
PING for each PONG it counted and at most one more. -/

def Transcript (client : KeepaliveClient) (received sent : Bytes) : Prop :=
  match client.phase with
  | .awaitTick =>
      sent = repeated pingMessage client.pongCount ∧
        received.length = client.pongCount * 5 + client.unread.length
  | .writePing rest =>
      sent ++ rest = repeated pingMessage (client.pongCount + 1) ∧
        received.length = client.pongCount * 5 + client.unread.length
  | .flushPing =>
      sent = repeated pingMessage (client.pongCount + 1) ∧
        received.length = client.pongCount * 5 + client.unread.length
  | .readPong responseBuf =>
      sent = repeated pingMessage (client.pongCount + 1) ∧ 10 ∉ responseBuf ∧
        ∃ front, received = front ++ responseBuf ∧
          front.length = client.pongCount * 5 + client.unread.length
  | .returned exit =>
      sent <+: repeated pingMessage (client.pongCount + 1) ∧
        (exit ≠ .sendFailed → sent = repeated pingMessage (client.pongCount + 1)) ∧
        client.pongCount * 5 + client.unread.length ≤ received.length

theorem transcript_start : Transcript {} [] [] := ⟨rfl, rfl⟩

theorem Transcript.bounds {client : KeepaliveClient} {received sent : Bytes}
    (holds : client.Transcript received sent) :
    sent <+: repeated pingMessage (client.pongCount + 1) ∧
      client.pongCount * 5 + client.unread.length ≤ received.length := by
  unfold Transcript at holds
  split at holds
  · obtain ⟨rfl, size⟩ := holds
    exact ⟨repeated_mono _ (Nat.le_succ _), size.ge⟩
  · obtain ⟨written, size⟩ := holds
    exact ⟨written ▸ List.prefix_append _ _, size.ge⟩
  · obtain ⟨rfl, size⟩ := holds
    exact ⟨List.prefix_rfl, size.ge⟩
  · obtain ⟨rfl, _, front, rfl, size⟩ := holds
    refine ⟨List.prefix_rfl, ?_⟩
    rw [List.length_append, size]
    exact Nat.le_add_right _ _
  · exact ⟨holds.1, holds.2.2⟩

private theorem transcript_heardLine {client : KeepaliveClient} {front sent : Bytes}
    (line unread : Bytes)
    (written : sent = repeated pingMessage (client.pongCount + 1))
    (size : front.length = client.pongCount * 5 + client.unread.length) :
    (client.heardLine line unread).Transcript (front ++ (line ++ unread)) sent := by
  unfold heardLine
  split
  · rename_i pong
    refine ⟨written, ?_⟩
    simp only [List.length_append, size, pong, length_pongMessage]
    omega
  · refine ⟨written ▸ List.prefix_rfl, fun _ => written, ?_⟩
    simp only [List.length_append, size]
    omega

theorem transcript_step {client next : KeepaliveClient} {event : Event}
    {received sent : Bytes} (holds : client.Transcript received sent)
    (taken : step client event = some next) :
    next.Transcript (received ++ event.input) (sent ++ event.output) := by
  unfold Transcript at holds
  unfold step at taken
  split at holds
  · rename_i phase
    simp only [phase] at taken
    cases event with
    | tick =>
        cases taken
        obtain ⟨rfl, size⟩ := holds
        exact ⟨by simp [repeated_succ], by simpa using size⟩
    | _ => cases taken
  · rename_i rest phase
    simp only [phase] at taken
    obtain ⟨written, size⟩ := holds
    obtain ⟨outcome, polled, rfl⟩ := Option.map_eq_some_iff.mp taken
    rcases pollWriteAll_eq_some polled with
      ⟨rfl, rfl⟩ | ⟨bytes, tail, rfl, rfl, rfl, _, _⟩ | ⟨rfl, rfl⟩
    · exact ⟨written, by simpa using size⟩
    · exact ⟨by simpa using written, by simpa using size⟩
    · refine ⟨?_, fun other => absurd rfl other, by simp [size]⟩
      simp [← written]
  · rename_i phase
    simp only [phase] at taken
    obtain ⟨rfl, size⟩ := holds
    obtain ⟨outcome, polled, rfl⟩ := Option.map_eq_some_iff.mp taken
    rcases pollFlush_eq_some polled with ⟨rfl, rfl⟩ | ⟨rfl, rfl⟩
    · exact ⟨by simp, List.not_mem_nil, received, by simp, size⟩
    · exact ⟨by simp, by simp, by simp [size]⟩
  · rename_i responseBuf phase
    simp only [phase] at taken
    obtain ⟨rfl, clean, front, rfl, size⟩ := holds
    split at taken
    · rename_i elapsed
      cases taken
      subst elapsed
      exact ⟨by simp, by simp, by simp [size]⟩
    · obtain ⟨outcome, polled, rfl⟩ := Option.map_eq_some_iff.mp taken
      rcases pollReadUntil_eq_some polled with
        ⟨line, unread, rfl, _, rfl⟩ | ⟨bytes, rfl, unbroken, rfl⟩ | ⟨rfl, rfl⟩ |
          ⟨rfl, rfl⟩
      · have heard := transcript_heardLine (responseBuf ++ (line ++ [10])) unread rfl size
        simpa using heard
      · refine ⟨by simp, ?_, front, by simp, size⟩
        rw [List.mem_append, not_or]
        exact ⟨clean, unbroken⟩
      · simp only
        split
        · exact ⟨by simp, by simp, by simp [size]⟩
        · have heard := transcript_heardLine responseBuf [] rfl size
          simpa using heard
      · exact ⟨by simp, by simp, by simp [size]⟩
  · rename_i exit phase
    simp [phase] at taken

theorem party_preserves : party.Preserves Transcript := by
  intro state event next received sent holds taken
  exact transcript_step holds taken

/-- Why the loop ends. -/
def Cause (client : KeepaliveClient) (event : Event) : Exit → Prop
  | .sendFailed => (∃ rest, client.phase = .writePing rest) ∧ event = .writeFailed
  | .flushFailed => client.phase = .flushPing ∧ event = .writeFailed
  | .closed => client.phase = .readPong [] ∧ event = .eof
  | .unexpected response =>
      ∃ responseBuf, client.phase = .readPong responseBuf ∧ response ≠ pongMessage ∧
        ((∃ front unread, event = .received (front ++ [10] ++ unread) ∧ 10 ∉ front ∧
            response = responseBuf ++ (front ++ [10])) ∨
          (event = .eof ∧ response = responseBuf ∧ responseBuf ≠ []))
  | .readFailed => (∃ responseBuf, client.phase = .readPong responseBuf) ∧
      event = .readFailed
  | .timedOut => (∃ responseBuf, client.phase = .readPong responseBuf) ∧
      event = .elapsed

theorem step_cases {client next : KeepaliveClient} {event : Event}
    (taken : step client event = some next) :
    (client.phase = .awaitTick ∧ event = .tick ∧
      next = { client with phase := .writePing pingMessage }) ∨
    ((∃ rest, client.phase = .writePing rest) ∧ (∃ bytes, event = .sent bytes) ∧
      ((∃ rest, next = { client with phase := .writePing rest }) ∨
        next = { client with phase := .flushPing })) ∨
    (client.phase = .flushPing ∧ event = .flushed ∧
      next = { client with phase := .readPong [] }) ∨
    (∃ responseBuf, client.phase = .readPong responseBuf ∧
      ((∃ bytes, event = .received bytes ∧
          next = { client with phase := .readPong (responseBuf ++ bytes) }) ∨
        ((event = .eof ∨ ∃ bytes, event = .received bytes) ∧
          ∃ unread, next =
            { phase := .awaitTick
              pongCount := client.pongCount + 1
              unread := client.unread ++ unread }))) ∨
    (∃ exit, client.Cause event exit ∧
      next = { client with phase := .returned exit }) := by
  unfold step at taken
  split at taken
  · rename_i phase
    cases event with
    | tick =>
        cases taken
        exact .inl ⟨phase, rfl, rfl⟩
    | _ => cases taken
  · rename_i rest phase
    obtain ⟨outcome, polled, rfl⟩ := Option.map_eq_some_iff.mp taken
    rcases pollWriteAll_eq_some polled with
      ⟨rfl, rfl⟩ | ⟨bytes, tail, rfl, rfl, _⟩ | ⟨rfl, rfl⟩
    · exact .inr (.inl ⟨⟨rest, phase⟩, ⟨rest, rfl⟩, .inr rfl⟩)
    · exact .inr (.inl ⟨⟨rest, phase⟩, ⟨bytes, rfl⟩, .inl ⟨tail, rfl⟩⟩)
    · exact .inr (.inr (.inr (.inr ⟨.sendFailed, ⟨⟨rest, phase⟩, rfl⟩, rfl⟩)))
  · rename_i phase
    obtain ⟨outcome, polled, rfl⟩ := Option.map_eq_some_iff.mp taken
    rcases pollFlush_eq_some polled with ⟨rfl, rfl⟩ | ⟨rfl, rfl⟩
    · exact .inr (.inr (.inl ⟨phase, rfl, rfl⟩))
    · exact .inr (.inr (.inr (.inr ⟨.flushFailed, ⟨phase, rfl⟩, rfl⟩)))
  · rename_i responseBuf phase
    split at taken
    · rename_i elapsed
      cases taken
      exact .inr (.inr (.inr (.inr ⟨.timedOut, ⟨⟨responseBuf, phase⟩, elapsed⟩, rfl⟩)))
    · obtain ⟨outcome, polled, rfl⟩ := Option.map_eq_some_iff.mp taken
      rcases pollReadUntil_eq_some polled with
        ⟨front, unread, rfl, clean, rfl⟩ | ⟨bytes, rfl, _, rfl⟩ | ⟨rfl, rfl⟩ |
          ⟨rfl, rfl⟩
      · simp only [heardLine]
        split
        · exact .inr (.inr (.inr (.inl
            ⟨responseBuf, phase, .inr ⟨.inr ⟨_, rfl⟩, unread, rfl⟩⟩)))
        · rename_i other
          exact .inr (.inr (.inr (.inr ⟨.unexpected _,
            ⟨responseBuf, phase, other, .inl ⟨front, unread, rfl, clean, rfl⟩⟩, rfl⟩)))
      · exact .inr (.inr (.inr (.inl ⟨responseBuf, phase, .inl ⟨bytes, rfl, rfl⟩⟩)))
      · simp only [heardLine]
        split
        · rename_i empty
          exact .inr (.inr (.inr (.inr
            ⟨.closed, ⟨by rw [phase, empty], rfl⟩, rfl⟩)))
        · rename_i nonempty
          split
          · exact .inr (.inr (.inr (.inl
              ⟨responseBuf, phase, .inr ⟨.inl trivial, [], rfl⟩⟩)))
          · rename_i other
            exact .inr (.inr (.inr (.inr ⟨.unexpected _,
              ⟨responseBuf, phase, other, .inr ⟨rfl, rfl, nonempty⟩⟩, rfl⟩)))
      · exact .inr (.inr (.inr (.inr ⟨.readFailed, ⟨⟨responseBuf, phase⟩, rfl⟩, rfl⟩)))
  · cases taken

theorem step_cause {client next : KeepaliveClient} {event : Event} {exit : Exit}
    (taken : step client event = some next) (ended : next.phase = .returned exit) :
    client.Cause event exit := by
  rcases step_cases taken with ⟨_, _, rfl⟩ | ⟨_, _, ⟨rest, rfl⟩ | rfl⟩ | ⟨_, _, rfl⟩ |
    ⟨_, _, ⟨bytes, _, rfl⟩ | ⟨_, unread, rfl⟩⟩ | ⟨other, cause, rfl⟩
  · cases ended
  · cases ended
  · cases ended
  · cases ended
  · cases ended
  · cases ended
  · cases ended
    exact cause

theorem step_of_cause {client next : KeepaliveClient} {event : Event} {exit : Exit}
    (cause : client.Cause event exit) (taken : step client event = some next) :
    next.phase = .returned exit := by
  cases exit with
  | sendFailed =>
      obtain ⟨⟨rest, phase⟩, rfl⟩ := cause
      simp only [step, phase] at taken
      cases taken
      rfl
  | flushFailed =>
      obtain ⟨phase, rfl⟩ := cause
      simp only [step, phase] at taken
      cases taken
      rfl
  | closed =>
      obtain ⟨phase, rfl⟩ := cause
      simp only [step, phase] at taken
      cases taken
      rfl
  | readFailed =>
      obtain ⟨⟨responseBuf, phase⟩, rfl⟩ := cause
      simp only [step, phase] at taken
      cases taken
      rfl
  | timedOut =>
      obtain ⟨⟨responseBuf, phase⟩, rfl⟩ := cause
      simp only [step, phase] at taken
      cases taken
      rfl
  | unexpected response =>
      obtain ⟨responseBuf, phase, other, heard⟩ := cause
      simp only [step, phase] at taken
      rcases heard with ⟨front, unread, rfl, clean, rfl⟩ | ⟨rfl, rfl, nonempty⟩
      · rw [if_neg Event.noConfusion] at taken
        obtain ⟨outcome, polled, rfl⟩ := Option.map_eq_some_iff.mp taken
        rcases pollReadUntil_eq_some polled with
          ⟨front', unread', same, clean', rfl⟩ | ⟨bytes, same, unbroken, _⟩ | ⟨same, _⟩ |
            ⟨same, _⟩
        · have split := splitLine_line clean unread
          have split' := splitLine_line clean' unread'
          injection same with same
          simp only [List.append_assoc, List.singleton_append] at same
          rw [same, split', Option.some.injEq, Prod.mk.injEq] at split
          rw [← split.1] at other ⊢
          simp only [heardLine, if_neg other]
        · injection same with same
          rw [← same] at unbroken
          simp at unbroken
        · cases same
        · cases same
      · rw [if_neg Event.noConfusion] at taken
        obtain ⟨outcome, polled, rfl⟩ := Option.map_eq_some_iff.mp taken
        cases polled
        simp [heardLine, if_neg other, nonempty]

theorem step_unread {client next : KeepaliveClient} {event : Event}
    (taken : step client event = some next) :
    next.phase = .awaitTick ∨ next.unread = client.unread := by
  rcases step_cases taken with ⟨_, _, rfl⟩ | ⟨_, _, ⟨rest, rfl⟩ | rfl⟩ | ⟨_, _, rfl⟩ |
    ⟨_, _, ⟨bytes, _, rfl⟩ | ⟨_, unread, rfl⟩⟩ | ⟨other, cause, rfl⟩
  · exact .inr rfl
  · exact .inr rfl
  · exact .inr rfl
  · exact .inr rfl
  · exact .inr rfl
  · exact .inl rfl
  · exact .inr rfl

end KeepaliveClient

namespace ControlChannelLoop

/-! What the server loop has read and written, whatever is at the other end: one
PONG for each PING line and nothing else. -/

def Transcript : ControlChannelLoop → Bytes → Bytes → Prop
  | .readLine buf, received, sent =>
      ∃ count, received = repeated pingMessage count ++ buf ∧ 10 ∉ buf ∧
        sent = repeated pongMessage count
  | .writePong rest, received, sent =>
      ∃ count, received = repeated pingMessage count ∧
        sent ++ rest = repeated pongMessage count
  | .flushPong, received, sent =>
      ∃ count, received = repeated pingMessage count ∧
        sent = repeated pongMessage count
  | .returned exit, received, sent =>
      ∃ count, repeated pingMessage count <+: received ∧
        sent <+: repeated pongMessage count ∧
        (exit ≠ .sendFailed → sent = repeated pongMessage count)

theorem transcript_start : Transcript start [] [] :=
  ⟨0, rfl, List.not_mem_nil, rfl⟩

theorem Transcript.bounds {state : ControlChannelLoop} {received sent : Bytes}
    (holds : state.Transcript received sent) :
    ∃ count, repeated pingMessage count <+: received ∧
      sent <+: repeated pongMessage count := by
  cases state with
  | readLine buf =>
      obtain ⟨count, rfl, _, rfl⟩ := holds
      exact ⟨count, List.prefix_append _ _, List.prefix_rfl⟩
  | writePong rest =>
      obtain ⟨count, rfl, written⟩ := holds
      exact ⟨count, List.prefix_rfl, written ▸ List.prefix_append _ _⟩
  | flushPong =>
      obtain ⟨count, rfl, rfl⟩ := holds
      exact ⟨count, List.prefix_rfl, List.prefix_rfl⟩
  | returned exit =>
      obtain ⟨count, pings, pongs, _⟩ := holds
      exact ⟨count, pings, pongs⟩

private theorem transcript_heardMessage (buf : Bytes) (count : Nat) :
    (heardMessage buf).Transcript (repeated pingMessage count ++ buf)
      (repeated pongMessage count) := by
  have returned (exit : Exit) : (ControlChannelLoop.returned exit).Transcript
      (repeated pingMessage count ++ buf) (repeated pongMessage count) :=
    ⟨count, List.prefix_append _ _, List.prefix_rfl, fun _ => rfl⟩
  unfold heardMessage
  split
  · exact returned .closed
  · split
    · rename_i ping
      exact ⟨count + 1, by rw [ping, repeated_succ], by rw [repeated_succ]⟩
    · split
      · exact returned .bye
      · exact returned (.unexpected buf)

theorem transcript_step {state next : ControlChannelLoop} {event : Event}
    {received sent : Bytes} (holds : state.Transcript received sent)
    (taken : step state event = some next) :
    next.Transcript (received ++ event.input) (sent ++ event.output) := by
  cases state with
  | readLine buf =>
      obtain ⟨count, rfl, clean, rfl⟩ := holds
      have returned (exit : Exit) : (ControlChannelLoop.returned exit).Transcript
          (repeated pingMessage count ++ buf) (repeated pongMessage count) :=
        ⟨count, List.prefix_append _ _, List.prefix_rfl, fun _ => rfl⟩
      simp only [step] at taken
      split at taken
      · rename_i elapsed
        cases taken
        subst elapsed
        simpa using returned .timedOut
      · split at taken
        · rename_i cancelled
          cases taken
          subst cancelled
          simpa using returned .cancelled
        · obtain ⟨outcome, polled, rfl⟩ := Option.map_eq_some_iff.mp taken
          rcases pollRead_eq_some polled with
            ⟨bytes, rfl, rfl, nonempty, single⟩ | ⟨rfl, rfl⟩ | ⟨rfl, rfl⟩
          · simp only [Event.input, Event.output, List.append_nil, List.append_assoc]
            split
            · exact transcript_heardMessage (buf ++ bytes) count
            · rename_i unbroken
              rw [not_or] at unbroken
              have newline : 10 ∉ bytes := by
                intro member
                obtain ⟨byte, rfl⟩ := List.length_eq_one_iff.mp
                  (Nat.le_antisymm single (List.length_pos_iff.mpr nonempty))
                exact unbroken.2 (by rw [List.mem_singleton.mp member])
              refine ⟨count, rfl, ?_, rfl⟩
              rw [List.mem_append, not_or]
              exact ⟨clean, newline⟩
          · simpa using transcript_heardMessage buf count
          · simpa using returned .readFailed
  | writePong rest =>
      obtain ⟨count, rfl, written⟩ := holds
      obtain ⟨outcome, polled, rfl⟩ := Option.map_eq_some_iff.mp taken
      rcases pollWriteAll_eq_some polled with
        ⟨rfl, rfl⟩ | ⟨bytes, tail, rfl, rfl, rfl, _, _⟩ | ⟨rfl, rfl⟩
      · exact ⟨count, by simp, written⟩
      · exact ⟨count, by simp, by simpa using written⟩
      · refine ⟨count, by simp, ?_, fun other => absurd rfl other⟩
        simp [← written]
  | flushPong =>
      obtain ⟨count, rfl, rfl⟩ := holds
      obtain ⟨outcome, polled, rfl⟩ := Option.map_eq_some_iff.mp taken
      rcases pollFlush_eq_some polled with ⟨rfl, rfl⟩ | ⟨rfl, rfl⟩
      · exact ⟨count, by simp, List.not_mem_nil, by simp⟩
      · exact ⟨count, by simp, by simp, by simp⟩
  | returned exit => simp [step] at taken

theorem party_preserves : party.Preserves Transcript := by
  intro state event next received sent holds taken
  exact transcript_step holds taken

/-- Why the loop ends. -/
def Cause (state : ControlChannelLoop) (event : Event) : Exit → Prop
  | .cancelled => (∃ buf, state = .readLine buf) ∧ event = .cancelled
  | .closed => state = .readLine [] ∧ event = .eof
  | .bye =>
      ∃ buf, state = .readLine buf ∧
        ((event = .received [10] ∧ connectionEndMessage = buf ++ [10]) ∨
          (event = .eof ∧ connectionEndMessage = buf))
  | .unexpected message =>
      ∃ buf, state = .readLine buf ∧ message ≠ pingMessage ∧
        ((event = .received [10] ∧ message = buf ++ [10]) ∨
          (event = .eof ∧ message = buf ∧ buf ≠ []))
  | .sendFailed => (∃ rest, state = .writePong rest) ∧ event = .writeFailed
  | .flushFailed => state = .flushPong ∧ event = .writeFailed
  | .readFailed => (∃ buf, state = .readLine buf) ∧ event = .readFailed
  | .timedOut => (∃ buf, state = .readLine buf) ∧ event = .elapsed

private theorem heardMessage_cases (buf : Bytes) :
    (buf = pingMessage ∧ heardMessage buf = .writePong pongMessage) ∨
    (buf = [] ∧ heardMessage buf = .returned .closed) ∨
    (buf = connectionEndMessage ∧ heardMessage buf = .returned .bye) ∨
    (buf ≠ [] ∧ buf ≠ pingMessage ∧ heardMessage buf = .returned (.unexpected buf)) := by
  unfold heardMessage
  split
  · rename_i empty
    exact .inr (.inl ⟨empty, rfl⟩)
  · rename_i nonempty
    split
    · rename_i ping
      exact .inl ⟨ping, rfl⟩
    · rename_i other
      split
      · rename_i bye
        exact .inr (.inr (.inl ⟨bye, rfl⟩))
      · exact .inr (.inr (.inr ⟨nonempty, other, rfl⟩))

theorem step_cases {state next : ControlChannelLoop} {event : Event}
    (taken : step state event = some next) :
    (∃ buf, state = .readLine buf ∧
      ((∃ byte, event = .received [byte] ∧ next = .readLine (buf ++ [byte])) ∨
        ((event = .eof ∨ event = .received [10]) ∧ next = .writePong pongMessage))) ∨
    ((∃ rest, state = .writePong rest) ∧ (∃ bytes, event = .sent bytes) ∧
      ((∃ rest, next = .writePong rest) ∨ next = .flushPong)) ∨
    (state = .flushPong ∧ event = .flushed ∧ next = .readLine []) ∨
    (∃ exit, state.Cause event exit ∧ next = .returned exit) := by
  cases state with
  | readLine buf =>
      simp only [step] at taken
      split at taken
      · rename_i elapsed
        cases taken
        exact .inr (.inr (.inr ⟨.timedOut, ⟨⟨buf, rfl⟩, elapsed⟩, rfl⟩))
      · split at taken
        · rename_i cancelled
          cases taken
          exact .inr (.inr (.inr ⟨.cancelled, ⟨⟨buf, rfl⟩, cancelled⟩, rfl⟩))
        · obtain ⟨outcome, polled, rfl⟩ := Option.map_eq_some_iff.mp taken
          rcases pollRead_eq_some polled with
            ⟨bytes, rfl, rfl, nonempty, single⟩ | ⟨rfl, rfl⟩ | ⟨rfl, rfl⟩
          · simp only
            split
            · rename_i broken
              have newline : bytes = [10] := broken.resolve_left nonempty
              subst newline
              rcases heardMessage_cases (buf ++ [10]) with
                ⟨_, heard⟩ | ⟨empty, _⟩ | ⟨bye, heard⟩ | ⟨_, other, heard⟩
              · exact .inl ⟨buf, rfl, .inr ⟨.inr rfl, heard⟩⟩
              · simp at empty
              · exact .inr (.inr (.inr
                  ⟨.bye, ⟨buf, rfl, .inl ⟨rfl, bye.symm⟩⟩, heard⟩))
              · exact .inr (.inr (.inr
                  ⟨.unexpected _, ⟨buf, rfl, other, .inl ⟨rfl, rfl⟩⟩, heard⟩))
            · obtain ⟨byte, rfl⟩ := List.length_eq_one_iff.mp
                (Nat.le_antisymm single (List.length_pos_iff.mpr nonempty))
              exact .inl ⟨buf, rfl, .inl ⟨byte, rfl, rfl⟩⟩
          · simp only [true_or, if_true, List.append_nil]
            rcases heardMessage_cases buf with
              ⟨_, heard⟩ | ⟨rfl, heard⟩ | ⟨bye, heard⟩ | ⟨nonempty, other, heard⟩
            · exact .inl ⟨buf, rfl, .inr ⟨trivial, heard⟩⟩
            · exact .inr (.inr (.inr ⟨.closed, ⟨rfl, rfl⟩, heard⟩))
            · exact .inr (.inr (.inr
                ⟨.bye, ⟨buf, rfl, .inr ⟨rfl, bye.symm⟩⟩, heard⟩))
            · exact .inr (.inr (.inr ⟨.unexpected _,
                ⟨buf, rfl, other, .inr ⟨rfl, rfl, nonempty⟩⟩, heard⟩))
          · exact .inr (.inr (.inr ⟨.readFailed, ⟨⟨buf, rfl⟩, rfl⟩, rfl⟩))
  | writePong rest =>
      obtain ⟨outcome, polled, rfl⟩ := Option.map_eq_some_iff.mp taken
      rcases pollWriteAll_eq_some polled with
        ⟨rfl, rfl⟩ | ⟨bytes, tail, rfl, rfl, _⟩ | ⟨rfl, rfl⟩
      · exact .inr (.inl ⟨⟨rest, rfl⟩, ⟨rest, rfl⟩, .inr rfl⟩)
      · exact .inr (.inl ⟨⟨rest, rfl⟩, ⟨bytes, rfl⟩, .inl ⟨tail, rfl⟩⟩)
      · exact .inr (.inr (.inr ⟨.sendFailed, ⟨⟨rest, rfl⟩, rfl⟩, rfl⟩))
  | flushPong =>
      obtain ⟨outcome, polled, rfl⟩ := Option.map_eq_some_iff.mp taken
      rcases pollFlush_eq_some polled with ⟨rfl, rfl⟩ | ⟨rfl, rfl⟩
      · exact .inr (.inr (.inl ⟨rfl, rfl, rfl⟩))
      · exact .inr (.inr (.inr ⟨.flushFailed, ⟨rfl, rfl⟩, rfl⟩))
  | returned exit => simp [step] at taken

theorem step_cause {state : ControlChannelLoop} {event : Event} {exit : Exit}
    (taken : step state event = some (.returned exit)) : state.Cause event exit := by
  rcases step_cases taken with ⟨_, _, ⟨_, _, ended⟩ | ⟨_, ended⟩⟩ |
    ⟨_, _, ⟨_, ended⟩ | ended⟩ | ⟨_, _, ended⟩ | ⟨other, cause, ended⟩
  · cases ended
  · cases ended
  · cases ended
  · cases ended
  · cases ended
  · cases ended
    exact cause

end ControlChannelLoop

end PortRedirect.Protocol
