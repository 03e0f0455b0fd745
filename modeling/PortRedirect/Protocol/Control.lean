import PortRedirect.Protocol.Basic
import PortRedirect.Stream.Duplex

namespace PortRedirect.Protocol

open PortRedirect.Text
open PortRedirect.Stream

/-! `configure_quic_client`: a fixed header, then a port. -/

structure RequestedClientConfiguration where
  port : UInt16
deriving DecidableEq, Repr

def fromBeBytes (high low : UInt8) : UInt16 :=
  UInt16.ofNat (256 * high.toNat + low.toNat)

inductive ConfigureQuicClient where
  | readHeader (buffer : Bytes)
  | readPort (buffer : Bytes)
  | returned (result : Except Error RequestedClientConfiguration)

namespace ConfigureQuicClient

def start : ConfigureQuicClient := .readHeader []

def checkHeader (headerBuf : Bytes) : ConfigureQuicClient :=
  match fromUtf8 headerBuf with
  | none => .returned (.error (.context "control message header is not valid UTF-8" .utf8))
  | some header =>
      if header = "LISTENPORT" then .readPort []
      else
        .returned (.error (.message
          ("invalid control message header: expected 'LISTENPORT', got '" ++ header ++
            "'")))

def requested (portBuf : Bytes) : RequestedClientConfiguration where
  port := fromBeBytes (portBuf.getD 0 0) (portBuf.getD 1 0)

def step (state : ConfigureQuicClient) (event : Event) : Option ConfigureQuicClient :=
  match state with
  | .readHeader buffer =>
      (pollReadExact 10 buffer event).map fun
        | .filled headerBuf => checkHeader headerBuf
        | .more buffer => .readHeader buffer
        | .unexpectedEof => .returned (.error (.context
            "failed to read control message header from client" (.io .unexpectedEof)))
        | .failed => .returned (.error (.context
            "failed to read control message header from client" (.io .readFailed)))
  | .readPort buffer =>
      (pollReadExact 2 buffer event).map fun
        | .filled portBuf => .returned (.ok (requested portBuf))
        | .more buffer => .readPort buffer
        | .unexpectedEof => .returned (.error (.context
            "failed to read port bytes from client" (.io .unexpectedEof)))
        | .failed => .returned (.error (.context
            "failed to read port bytes from client" (.io .readFailed)))
  | .returned _ => none

/-- A control message that asks for a port. -/
def IsListenPort (port : UInt16) (message : Bytes) : Prop :=
  ∃ high low, message = utf8 "LISTENPORT" ++ [high, low] ∧ port = fromBeBytes high low

theorem IsListenPort.length_eq {port : UInt16} {message : Bytes}
    (listens : IsListenPort port message) : message.length = 12 := by
  obtain ⟨high, low, rfl, _⟩ := listens
  rfl

theorem checkHeader_cases (headerBuf : Bytes) :
    (headerBuf = utf8 "LISTENPORT" ∧ checkHeader headerBuf = .readPort []) ∨
    (headerBuf ≠ utf8 "LISTENPORT" ∧
      ∃ error, checkHeader headerBuf = .returned (.error error)) := by
  unfold checkHeader
  cases decoded : fromUtf8 headerBuf with
  | none =>
      refine .inr ⟨?_, _, rfl⟩
      rintro rfl
      simp at decoded
  | some header =>
      by_cases same : header = "LISTENPORT"
      · refine .inl ⟨?_, by simp [same]⟩
        rw [← fromUtf8_eq_some.mp decoded, same]
      · refine .inr ⟨?_, _, if_neg same⟩
        rintro rfl
        rw [fromUtf8_utf8] at decoded
        exact same (Option.some.inj decoded).symm

private theorem isListenPort_requested {portBuf : Bytes} (full : portBuf.length = 2) :
    IsListenPort (requested portBuf).port (utf8 "LISTENPORT" ++ portBuf) := by
  obtain ⟨high, low, rfl⟩ := List.length_eq_two.mp full
  exact ⟨high, low, rfl, rfl⟩

/-- The reader takes 10 bytes and then, past a right header, 2 more. -/
def Transcript : ConfigureQuicClient → Bytes → Prop
  | .readHeader buffer, received => received = buffer ∧ buffer.length < 10
  | .readPort buffer, received =>
      received = utf8 "LISTENPORT" ++ buffer ∧ buffer.length < 2
  | .returned (.ok config), received => IsListenPort config.port received
  | .returned (.error error), received =>
      error.cause = .io .readFailed ∨
        (error.cause = .io .unexpectedEof ∧ received.length < 12) ∨
        (received.length = 10 ∧ received ≠ utf8 "LISTENPORT")

theorem transcript_start : Transcript start [] := ⟨rfl, by decide⟩

theorem transcript_step {state next : ConfigureQuicClient} {event : Event}
    {received : Bytes} (holds : Transcript state received)
    (taken : step state event = some next) :
    Transcript next (received ++ event.input) := by
  cases state with
  | readHeader buffer =>
      obtain ⟨rfl, short⟩ := holds
      obtain ⟨outcome, polled, rfl⟩ := Option.map_eq_some_iff.mp taken
      rcases pollReadExact_eq_some polled with
        ⟨bytes, rfl, _, rfl, full⟩ | ⟨bytes, rfl, _, rfl, short⟩ | ⟨rfl, rfl⟩ |
          ⟨rfl, rfl⟩
      · rcases checkHeader_cases (received ++ bytes) with
          ⟨header, checked⟩ | ⟨wrong, error, checked⟩
        · simp only [Event.input, checked]
          exact ⟨by rw [header, List.append_nil], by decide⟩
        · simp only [Event.input, checked]
          exact .inr (.inr ⟨full, wrong⟩)
      · exact ⟨rfl, short⟩
      · refine .inr (.inl ⟨rfl, ?_⟩)
        simp only [Event.input, List.append_nil]
        omega
      · exact .inl rfl
  | readPort buffer =>
      obtain ⟨rfl, short⟩ := holds
      obtain ⟨outcome, polled, rfl⟩ := Option.map_eq_some_iff.mp taken
      rcases pollReadExact_eq_some polled with
        ⟨bytes, rfl, _, rfl, full⟩ | ⟨bytes, rfl, _, rfl, short⟩ | ⟨rfl, rfl⟩ |
          ⟨rfl, rfl⟩
      · rw [Event.input, List.append_assoc]
        exact isListenPort_requested full
      · exact ⟨by rw [Event.input, List.append_assoc], short⟩
      · refine .inr (.inl ⟨rfl, ?_⟩)
        have header : (utf8 "LISTENPORT").length = 10 := by decide
        simp only [Event.input, List.append_nil, List.length_append, header]
        omega
      · exact .inl rfl
  | returned result => simp [step] at taken

theorem step_enabled {state : ConfigureQuicClient} {received : Bytes}
    (holds : Transcript state received) (running : ∀ result, state ≠ .returned result)
    (inbound outbound : Channel) :
    ∃ event next after, event.fault = false ∧ step state event = some next ∧
      transfer event inbound outbound true = some after := by
  cases state with
  | readHeader buffer =>
      obtain ⟨event, outcome, after, sound, polled, moved⟩ :=
        pollReadExact_enabled holds.2 (.inr rfl) outbound
      obtain ⟨next, taken⟩ : ∃ next, step (.readHeader buffer) event = some next := by
        simp [step, polled]
      exact ⟨event, next, after, sound, taken, moved⟩
  | readPort buffer =>
      obtain ⟨event, outcome, after, sound, polled, moved⟩ :=
        pollReadExact_enabled holds.2 (.inr rfl) outbound
      obtain ⟨next, taken⟩ : ∃ next, step (.readPort buffer) event = some next := by
        simp [step, polled]
      exact ⟨event, next, after, sound, taken, moved⟩
  | returned result => exact absurd rfl (running result)

theorem step_fault {state next : ConfigureQuicClient} {event : Event}
    (fault : event.fault = true ∨ event = .eof) (taken : step state event = some next) :
    ∃ error, next = .returned (.error error) := by
  cases state with
  | readHeader buffer | readPort buffer =>
      obtain ⟨outcome, polled, rfl⟩ := Option.map_eq_some_iff.mp taken
      rcases pollReadExact_eq_some polled with
        ⟨bytes, rfl, _⟩ | ⟨bytes, rfl, _⟩ | ⟨rfl, rfl⟩ | ⟨rfl, rfl⟩
      · simp [Event.fault] at fault
      · simp [Event.fault] at fault
      · exact ⟨_, rfl⟩
      · exact ⟨_, rfl⟩
  | returned result => simp [step] at taken

theorem step_silent {state next : ConfigureQuicClient} {event : Event}
    (taken : step state event = some next) : event.output = [] := by
  have silent {size : Nat} {buffer : Bytes} {outcome : ReadExactOutcome}
      (polled : pollReadExact size buffer event = some outcome) : event.output = [] := by
    rcases pollReadExact_eq_some polled with
      ⟨bytes, rfl, _⟩ | ⟨bytes, rfl, _⟩ | ⟨rfl, _⟩ | ⟨rfl, _⟩ <;> rfl
  cases state with
  | readHeader buffer | readPort buffer =>
      obtain ⟨outcome, polled, _⟩ := Option.map_eq_some_iff.mp taken
      exact silent polled
  | returned result => simp [step] at taken

theorem step_io {state : ConfigureQuicClient} {event : Event} {error : Error}
    {cause : IoError} (taken : step state event = some (.returned (.error error)))
    (caused : error.cause = .io cause) :
    (cause = .readFailed ∧ event = .readFailed) ∨
      (cause = .unexpectedEof ∧ event = .eof) := by
  cases state with
  | readHeader buffer =>
      obtain ⟨outcome, polled, ended⟩ := Option.map_eq_some_iff.mp taken
      rcases pollReadExact_eq_some polled with
        ⟨bytes, rfl, _, rfl, _⟩ | ⟨bytes, rfl, _, rfl, _⟩ | ⟨rfl, rfl⟩ | ⟨rfl, rfl⟩
      · simp only [checkHeader] at ended
        split at ended
        · cases ended
          cases caused
        · split at ended
          · cases ended
          · cases ended
            cases caused
      · cases ended
      · cases ended
        cases caused
        exact .inr ⟨rfl, rfl⟩
      · cases ended
        cases caused
        exact .inl ⟨rfl, rfl⟩
  | readPort buffer =>
      obtain ⟨outcome, polled, ended⟩ := Option.map_eq_some_iff.mp taken
      rcases pollReadExact_eq_some polled with
        ⟨bytes, rfl, _, rfl, _⟩ | ⟨bytes, rfl, _, rfl, _⟩ | ⟨rfl, rfl⟩ | ⟨rfl, rfl⟩
      · cases ended
      · cases ended
      · cases ended
        cases caused
        exact .inr ⟨rfl, rfl⟩
      · cases ended
        cases caused
        exact .inl ⟨rfl, rfl⟩
  | returned result => simp [step] at taken

end ConfigureQuicClient

end PortRedirect.Protocol
