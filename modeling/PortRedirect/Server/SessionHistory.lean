import PortRedirect.Server.SessionTranscript
import PortRedirect.Transition.Run

namespace PortRedirect.Server

open PortRedirect.Text
open PortRedirect.Stream
open PortRedirect.Protocol
open PortRedirect.Transition

/-! A session by the events of its run alone, without a stream under it. -/

namespace Session

def Event.input : Event → Bytes
  | .control event => event.input
  | _ => []

def Event.output : Event → Bytes
  | .control event => event.output
  | _ => []

variable {setting : Setting} {session next : Session} {events : List Event}

theorem party_input (event : Event) : (party setting).input event = event.input := by
  cases event <;> rfl

theorem party_output (event : Event) : (party setting).output event = event.output := by
  cases event <;> rfl

/-- What a session has read and written, by its events. -/
theorem transcript_run {challenge : String} (drawn : setting.challenge = .ok challenge)
    (ran : run (step setting) {} events = some session) :
    Transcript setting challenge True session (events.flatMap Event.input)
      (events.flatMap Event.output) := by
  refine run_history_invariant
    (fun history session => Transcript setting challenge True session
      (history.flatMap Event.input) (history.flatMap Event.output)) ?_ transcript_start ran
  intro history state event next holds taken
  have moved := transcript_step drawn holds taken fun _ => trivial
  rw [party_input, party_output] at moved
  simpa using moved

/-- Where no random bytes come there is no challenge, and a session only fails. -/
def Undrawn (session : Session) : Prop :=
  session.Unbound ∧
    match session.stage with
    | .openControl | .returned _ => True
    | _ => False

theorem undrawn_step {event : Event} {error : Error}
    (undrawn : setting.challenge = .error error) (holds : session.Undrawn)
    (taken : step setting session event = some next) : next.Undrawn := by
  obtain ⟨unbound, early⟩ := holds
  rcases step_cases taken with
    ⟨_, opening⟩ | ⟨_, _, _, stage, _⟩ | ⟨_, _, stage, _⟩ | ⟨_, stage, _⟩ |
      ⟨_, _, _, stage, _⟩ | ⟨listener, _, _, _, spawned, _⟩ | ⟨listener, _, stage, _⟩
  · rcases opening with ⟨_, rfl⟩ | ⟨_, rfl⟩ | ⟨reason, _, rfl⟩
    · exact ⟨unbound, trivial⟩
    · unfold authenticate
      rw [undrawn]
      exact ⟨unbound, trivial⟩
    · exact ⟨unbound, trivial⟩
  · simp only [stage] at early
  · simp only [stage] at early
  · simp only [stage] at early
  · simp only [stage] at early
  · rw [unbound.2] at spawned
    cases spawned
  · simp only [stage] at early

theorem unbound_of_undrawn {error : Error} (undrawn : setting.challenge = .error error)
    (ran : run (step setting) {} events = some session) : session.Unbound :=
  (run_invariant Undrawn (fun _ _ _ holds taken => undrawn_step undrawn holds taken)
    ⟨⟨rfl, rfl⟩, trivial⟩ ran).1

/-- Whatever a session binds, it has read a gate for it, against its own challenge. -/
theorem gate_of_run (ran : run (step setting) {} events = some session)
    (opened : ¬ session.Unbound) :
    ∃ challenge port front, setting.challenge = .ok challenge ∧
      session.Bound setting challenge port front ∧
      front <+: events.flatMap Event.input ∧
      greeting challenge <+: events.flatMap Event.output := by
  cases drawn : setting.challenge with
  | error error => exact absurd (unbound_of_undrawn drawn ran) opened
  | ok challenge =>
      obtain ⟨port, front, rest, pongs, bound, heard, written⟩ :=
        (transcript_run drawn ran).bound opened
      exact ⟨challenge, port, front, rfl, bound, ⟨rest, heard.symm⟩, ⟨pongs, written.symm⟩⟩

end Session

end PortRedirect.Server
