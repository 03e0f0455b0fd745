import PortRedirect.Server.TcpListener
import PortRedirect.Transition.Pool
import PortRedirect.Tunnel.Integrity

namespace PortRedirect.Tunnel

open PortRedirect.Text
open PortRedirect.Forward
open PortRedirect.Protocol
open PortRedirect.Stream
open PortRedirect.Transition

/-- The TCP peer has sent a byte, or its connection has ended. -/
def TcpForwarder.Spoke (forwarder : TcpForwarder) : Prop :=
  forwarder.inbound.sent ≠ [] ∨ forwarder.inbound.finished = true ∨ forwarder.failed = true

/-- A call that is due when it can be made.  (A write that fails is made where one could
also succeed.) -/
def TcpForwarder.due : CopyEvent → Bool
  | .aToB (.writeFailed _) | .bToA (.writeFailed _) => false
  | _ => true

namespace ForwardedConnection

/-- Something has been sent on the stream that makes it known to the client: `open_bi` by
itself sends nothing. -/
def visible (stream : ForwardedConnection) : Bool :=
  stream.server.quicOut.sent ≠ [] || stream.server.quicOut.finished

def Live (stream : ForwardedConnection) : Prop :=
  (stream.server.inbound.finished = false ∧ stream.server.failed = false) ∧
    stream.client.inbound.finished = false ∧ stream.client.failed = false

/-- The client has opened a connection to the destination, or tried to. -/
def Attempted (stream : ForwardedConnection) : Prop :=
  stream.client.stage ≠ .unaccepted

end ForwardedConnection

/-- One session: the server's listener, the streams that it has opened, in order, and the
client's loop that accepts them. -/
structure TunnelSession where
  listener : Server.TcpListener
  streams : List ForwardedConnection := []
  accepted : Nat := 0

namespace TunnelSession

inductive Event where
  | listener (event : Server.TcpListener.Event)
  | accept
  | stream (index : Nat) (event : ForwardedConnection.Event)

def opened : Server.TcpListener.Event → List ForwardedConnection
  | .opened => [{}]
  | _ => []

def step (session : TunnelSession) : Event → Option TunnelSession
  | .listener event =>
      (session.listener.step false false event).map fun listener =>
        { session with
          listener := listener
          streams := session.streams ++ opened event }
  | .accept =>
      -- a stream that has been heard of opens all before it
      if (session.streams.drop session.accepted).any ForwardedConnection.visible then
        (stepAt ForwardedConnection.step session.streams session.accepted
          (.client .accepted)).map fun streams =>
            { session with streams := streams, accepted := session.accepted + 1 }
      else none
  | .stream index event =>
      if event = .client .accepted then none
      else
        (stepAt ForwardedConnection.step session.streams index event).map fun streams =>
          { session with streams := streams }

/-- A step that the code takes by itself. -/
def Event.due : Event → Bool
  | .accept => true
  | .stream _ (.server (.forward call)) | .stream _ (.client (.forward call)) =>
      TcpForwarder.due call
  | _ => false

/-- Nothing is in flight and nothing is due. -/
def Quiescent (session : TunnelSession) : Prop :=
  ∀ event, event.due = true → session.step event = none

end TunnelSession

namespace TcpForwarder

variable {forwarder other next other' : TcpForwarder}

/-- A task that is over has finished its direction of the QUIC stream, and one that is not
goes on copying. -/
structure Tidy (forwarder : TcpForwarder) : Prop where
  closed : forwarder.dropped = true → forwarder.quicOut.finished = true
  copying : forwarder.forward.result = none → forwarder.forward.copy.result = none

theorem Tidy.step_own {event : Event} (tidy : forwarder.Tidy)
    (taken : forwarder.step other event = some (next, other')) : next.Tidy := by
  rcases step_cases taken with ⟨call, _, stage, called⟩ | ⟨rfl,
    ⟨bytes, _, _, rfl⟩ | ⟨_, rfl⟩ | ⟨bytes, outbound, _, _, rfl⟩ | ⟨_, _, rfl⟩ |
      ⟨_, rfl⟩ | ⟨_, stage, rfl⟩ | ⟨_, stage, rfl⟩ | ⟨reason, _, _, rfl⟩⟩
  · refine ⟨?_, ForwardBidirectional.copying_of_running (forwardStep_forward called)⟩
    obtain ⟨_, cases⟩ := forwardStep_cases called
    rcases cases with
      ⟨call, forward, inbound, quicOut, _, _, _, _, ⟨running, rfl⟩ | ⟨_, _, rfl⟩, _⟩ |
      ⟨call, forward, quicIn, outbound, _, _, _, _, ⟨running, rfl⟩ | ⟨_, _, rfl⟩, _⟩ |
      ⟨forward, _, _, _, _, rfl, _⟩
    · exact fun gone => absurd gone (running_of_live stage running)
    · exact fun _ => rfl
    · exact fun gone => absurd gone (running_of_live stage running)
    · exact fun _ => rfl
    · exact fun _ => rfl
  · exact ⟨tidy.closed, tidy.copying⟩
  · exact ⟨tidy.closed, tidy.copying⟩
  · exact ⟨tidy.closed, tidy.copying⟩
  · exact ⟨tidy.closed, tidy.copying⟩
  · exact ⟨tidy.closed, tidy.copying⟩
  · refine ⟨?_, tidy.copying⟩
    rw [(advance (.inl stage) (.inl rfl)).1]
    exact tidy.closed
  · refine ⟨?_, tidy.copying⟩
    rw [(advance (.inr stage) (.inr rfl)).1]
    exact tidy.closed
  · exact ⟨fun _ => rfl, tidy.copying⟩

theorem step_other {event : Event}
    (taken : forwarder.step other event = some (next, other')) :
    ∃ quicOut, other' = { other with quicOut := quicOut } ∧
      quicOut.finished = other.quicOut.finished := by
  rcases step_over taken with ⟨call, stage, called⟩ | ⟨_, rfl, _⟩
  · exact (forwardStep_over stage called).2.2
  · exact ⟨_, rfl, rfl⟩

theorem step_stage {event : Event}
    (taken : forwarder.step other event = some (next, other')) :
    next.stage = forwarder.stage ∨
      (event = .accepted ∧ forwarder.stage = .unaccepted ∧ next.stage = .connecting) ∨
      (forwarder.stage = .connecting ∧ next.stage ≠ .unaccepted) := by
  rcases step_cases taken with ⟨call, _, _, called⟩ | ⟨rfl,
    ⟨bytes, _, _, rfl⟩ | ⟨_, rfl⟩ | ⟨bytes, outbound, _, _, rfl⟩ | ⟨_, _, rfl⟩ |
      ⟨_, rfl⟩ | ⟨rfl, stage, rfl⟩ | ⟨_, stage, rfl⟩ | ⟨reason, _, stage, rfl⟩⟩
  · left
    obtain ⟨_, cases⟩ := forwardStep_cases called
    rcases cases with
      ⟨call, forward, inbound, quicOut, _, _, _, _, ⟨_, rfl⟩ | ⟨_, _, rfl⟩, _⟩ |
      ⟨call, forward, quicIn, outbound, _, _, _, _, ⟨_, rfl⟩ | ⟨_, _, rfl⟩, _⟩ |
      ⟨forward, _, _, _, _, rfl, _⟩
    · rfl
    · rfl
    · rfl
    · rfl
    · rfl
  · exact .inl rfl
  · exact .inl rfl
  · exact .inl rfl
  · exact .inl rfl
  · exact .inl rfl
  · exact .inr (.inl ⟨rfl, stage, rfl⟩)
  · exact .inr (.inr ⟨stage, Stage.noConfusion⟩)
  · exact .inr (.inr ⟨stage, Stage.noConfusion⟩)

theorem Spoke.step_own {event : Event} (spoke : forwarder.Spoke)
    (taken : forwarder.step other event = some (next, other')) : next.Spoke := by
  rcases step_cases taken with ⟨call, _, _, called⟩ | ⟨rfl,
    ⟨bytes, _, _, rfl⟩ | ⟨_, rfl⟩ | ⟨bytes, outbound, _, _, rfl⟩ | ⟨_, _, rfl⟩ |
      ⟨_, rfl⟩ | ⟨_, _, rfl⟩ | ⟨_, _, rfl⟩ | ⟨reason, _, _, rfl⟩⟩
  · obtain ⟨_, cases⟩ := forwardStep_cases called
    rcases cases with
      ⟨call, forward, inbound, quicOut, _, _, _, effect, resumes, _⟩ |
      ⟨call, forward, quicIn, outbound, _, _, _, _, ⟨_, rfl⟩ | ⟨_, _, rfl⟩, _⟩ |
      ⟨forward, _, _, _, _, rfl, _⟩
    · obtain ⟨sent, finished⟩ := TransferEvent.effect_source effect
      have kept : inbound.sent ≠ [] ∨ inbound.finished = true ∨ forwarder.failed = true := by
        rw [sent, finished]
        exact spoke
      rcases resumes with ⟨_, rfl⟩ | ⟨_, _, rfl⟩
      · exact kept
      · exact kept
    · exact spoke
    · exact spoke
    · exact spoke
  · refine spoke.imp_left fun heard => ?_
    rw [Pipe.sent_write]
    exact fun empty => heard (List.append_eq_nil_iff.mp empty).1
  · exact .inr (.inl rfl)
  · exact spoke
  · exact spoke
  · exact .inr (.inr rfl)
  · exact spoke
  · exact spoke
  · exact spoke

/-- Where no call is due, a call from the TCP peer to the QUIC stream that the pipes
allow is not one that the transfer could take. -/
theorem blocked_of_quiet {pipes : Pipe × Pipe} (tidy : forwarder.Tidy)
    (live : forwarder.forward.result = none)
    (quiet : ∀ call, due call = true → forwarder.forwardStep other call = none)
    (call : TransferEvent) (isDue : due (.aToB call) = true)
    (may : forwarder.mayFail other (.aToB call))
    (effect : call.effect forwarder.inbound forwarder.quicOut = some pipes) :
    forwarder.aToB.step quicStreamReadBufferSize call = none := by
  by_contra taken
  obtain ⟨result, called⟩ := Option.ne_none_iff_exists'.mp taken
  have copied : forwarder.forward.copy.step quicStreamReadBufferSize (.aToB call) ≠ none := by
    unfold CopyBidirectional.step
    rw [if_pos (tidy.copying live)]
    simp only [show forwarder.forward.copy.aToB.step quicStreamReadBufferSize call =
      some result from called, Option.map_some]
    exact Option.some_ne_none _
  obtain ⟨copy, moved⟩ := Option.ne_none_iff_exists'.mp copied
  have blocked := quiet _ isDue
  unfold forwardStep at blocked
  rw [if_pos may] at blocked
  simp [ForwardBidirectional.step, live, moved, effect] at blocked

theorem heard_of_quiet (tidy : forwarder.Tidy) (stage : forwarder.stage = .forwarding)
    (up : forwarder.aToB.Between forwarder.inbound forwarder.quicOut)
    (quiet : ∀ call, due call = true → forwarder.forwardStep other call = none)
    (spoke : forwarder.Spoke) :
    forwarder.quicOut.sent ≠ [] ∨ forwarder.quicOut.finished = true := by
  by_cases live : forwarder.forward.result = none
  · have blocked := @blocked_of_quiet forwarder other
    have drained : forwarder.aToB.buffer = [] := by
      have kept := blocked tidy live quiet (.wrote forwarder.aToB.buffer) rfl trivial rfl
      simpa [Transfer.step] using kept
    cases running : forwarder.aToB.stage with
    | running =>
        left
        have room : forwarder.aToB.buffer.length < quicStreamReadBufferSize := by
          rw [drained]
          decide
        have unfailed : ¬ forwarder.failed = true := by
          intro failed
          have kept := blocked tidy live quiet (.readFailed "") rfl failed rfl
          simp [Transfer.step, running, room] at kept
        have arrived : forwarder.inbound.pending = [] := by
          by_contra waiting
          obtain ⟨byte, rest, pending⟩ := List.exists_cons_of_ne_nil waiting
          have front : [byte] <+: forwarder.inbound.pending := by
            rw [pending]
            exact ⟨rest, rfl⟩
          obtain ⟨inbound, handed⟩ := Pipe.exists_deliver front
          have kept := blocked tidy live quiet (.read [byte]) rfl trivial
            (Option.map_eq_some_iff.mpr ⟨inbound, handed, rfl⟩)
          simp [Transfer.step, running, drained, quicStreamReadBufferSize] at kept
        have unfinished : ¬ forwarder.inbound.finished = true := by
          intro finished
          have kept := blocked tidy live quiet .eof rfl trivial (if_pos ⟨finished, arrived⟩)
          simp [Transfer.step, running, room] at kept
        have sent := spoke.resolve_right (not_or.mpr ⟨unfinished, unfailed⟩)
        have flow := up.flow
        rw [drained, List.append_nil] at flow
        rw [← flow]
        intro untouched
        apply sent
        rw [Channel.sent, untouched, arrived]
        rfl
    | draining =>
        have kept := blocked tidy live quiet .flushed rfl trivial rfl
        simp [Transfer.step, running, drained] at kept
    | shuttingDown =>
        have kept := blocked tidy live quiet .shutdown rfl trivial rfl
        simp [Transfer.step, running] at kept
    | done => exact .inr (up.closed running)
  · refine .inr (tidy.closed ?_)
    rw [dropped_of_forwarding stage]
    exact Option.isSome_iff_ne_none.mpr live

end TcpForwarder

namespace ForwardedConnection

variable {stream next : ForwardedConnection}

/-- What holds of a stream whatever the session does. -/
structure Kept (stream : ForwardedConnection) : Prop where
  sound : stream.Sound
  standing : stream.server.stage = .forwarding
  tidy : stream.server.Tidy
  fresh : stream.client.stage = .unaccepted → stream.client.forward.result = none

theorem kept_start : Kept {} where
  sound := sound_start
  standing := rfl
  tidy :=
    { closed := fun gone => by cases gone
      copying := fun _ => rfl }
  fresh := fun _ => rfl

theorem kept_step {event : Event} (holds : stream.Kept)
    (taken : stream.step event = some next) : next.Kept := by
  have sound := sound_step holds.sound taken
  cases event with
  | server event =>
      obtain ⟨⟨self, other⟩, moved, rfl⟩ := Option.map_eq_some_iff.mp taken
      obtain ⟨quicOut, rfl, _⟩ := TcpForwarder.step_other moved
      refine ⟨sound, ?_, holds.tidy.step_own moved, holds.fresh⟩
      rcases TcpForwarder.step_stage moved with same | ⟨_, unaccepted, _⟩ | ⟨connecting, _⟩
      · exact same.trans holds.standing
      · cases unaccepted.symm.trans holds.standing
      · cases connecting.symm.trans holds.standing
  | client event =>
      obtain ⟨⟨self, other⟩, moved, rfl⟩ := Option.map_eq_some_iff.mp taken
      obtain ⟨quicOut, rfl, finished⟩ := TcpForwarder.step_other moved
      refine ⟨sound, holds.standing, ⟨?_, holds.tidy.copying⟩, ?_⟩
      · exact fun gone => finished.trans (holds.tidy.closed gone)
      · intro unaccepted
        have before : stream.client.stage = .unaccepted := by
          rcases TcpForwarder.step_stage moved with same | ⟨_, before, _⟩ | ⟨_, other⟩
          · exact same.symm.trans unaccepted
          · exact before
          · exact absurd unaccepted other
        rcases TcpForwarder.step_over moved with ⟨call, forwarding, _⟩ | ⟨same, _⟩
        · cases before.symm.trans forwarding
        · rw [show self.forward = stream.client.forward from same]
          exact holds.fresh before

/-- A stream is made known by what its external peer does, or by a client that has it. -/
theorem Kept.spoke_of_visible (holds : stream.Kept) (visible : stream.visible = true)
    (unaccepted : stream.client.stage = .unaccepted) : stream.server.Spoke := by
  have ended (stage : stream.server.aToB.stage = .done) : stream.server.Spoke :=
    .inr (.inl (holds.sound.toClient.up.complete stage).1)
  rcases (by simpa [ForwardedConnection.visible] using visible :
      ¬ stream.server.quicOut.sent = [] ∨ stream.server.quicOut.finished = true) with
    sent | finished
  · left
    intro silent
    have flow := holds.sound.toClient.up.flow
    have nothing := @Pipe.delivered_isPrefix stream.server.inbound
    rw [silent, List.prefix_nil] at nothing
    rw [nothing] at flow
    exact sent (List.append_eq_nil_iff.mp flow.symm).1
  · rcases holds.sound.toClient.middle finished with done | dropped
    · exact ended done
    · rcases holds.sound.server dropped with done | faulted | gone
      · exact ended done.1
      · refine .inr (.inr ?_)
        simpa [TcpForwarder.faulted, holds.standing] using faulted
      · simp [TcpForwarder.dropped, TcpForwarder.result, unaccepted,
          holds.fresh unaccepted] at gone

/-- And where the server has nothing due, what its external peer does makes it known. -/
theorem Kept.visible_of_spoke (holds : stream.Kept)
    (quiet : ∀ call, TcpForwarder.due call = true →
      stream.server.forwardStep stream.client call = none)
    (spoke : stream.server.Spoke) : stream.visible = true := by
  have heard := TcpForwarder.heard_of_quiet holds.tidy holds.standing
    holds.sound.toClient.up quiet spoke
  simpa [visible] using heard

theorem step_spoke {event : Event} (spoke : stream.server.Spoke)
    (taken : stream.step event = some next) : next.server.Spoke := by
  cases event with
  | server event =>
      obtain ⟨⟨self, other⟩, moved, rfl⟩ := Option.map_eq_some_iff.mp taken
      exact spoke.step_own moved
  | client event =>
      obtain ⟨⟨self, other⟩, moved, rfl⟩ := Option.map_eq_some_iff.mp taken
      obtain ⟨quicOut, rfl, _⟩ := TcpForwarder.step_other moved
      exact spoke

theorem step_attempted {event : Event} (other : event ≠ .client .accepted)
    (taken : stream.step event = some next) : next.Attempted ↔ stream.Attempted := by
  unfold Attempted
  cases event with
  | server event =>
      obtain ⟨⟨self, other⟩, moved, rfl⟩ := Option.map_eq_some_iff.mp taken
      obtain ⟨quicOut, rfl, _⟩ := TcpForwarder.step_other moved
      rfl
  | client event =>
      obtain ⟨⟨self, server⟩, moved, rfl⟩ := Option.map_eq_some_iff.mp taken
      rcases TcpForwarder.step_stage moved with same | ⟨rfl, _⟩ | ⟨connecting, started⟩
      · rw [show self.stage = stream.client.stage from same]
      · exact absurd rfl other
      · apply iff_of_true started
        rw [connecting]
        exact TcpForwarder.Stage.noConfusion

end ForwardedConnection

namespace TunnelSession

variable {session next : TunnelSession}

/-- The external peer of this stream or of a later one has spoken. -/
def SpokeFrom (session : TunnelSession) (index : Nat) : Prop :=
  ∃ later stream, index ≤ later ∧ session.streams[later]? = some stream ∧
    stream.server.Spoke

/-- The client accepts the streams in order, and only up to one that was heard of. -/
structure Tended (session : TunnelSession) : Prop where
  kept : ∀ stream ∈ session.streams, stream.Kept
  inOrder : ∀ index stream, session.streams[index]? = some stream →
    (stream.Attempted ↔ index < session.accepted)
  heard : ∀ index < session.accepted, session.SpokeFrom index

theorem tended_start (listener : Server.TcpListener) : Tended { listener := listener } where
  kept := fun stream member => by cases member
  inOrder := fun index stream found => by cases found
  heard := fun index early => absurd early (Nat.not_lt_zero index)

theorem Tended.accepted_le (tended : session.Tended) :
    session.accepted ≤ session.streams.length := by
  cases count : session.accepted with
  | zero => exact Nat.zero_le _
  | succ index =>
      obtain ⟨later, stream, le, found, _⟩ := tended.heard index (by omega)
      have bound := (List.getElem?_eq_some_iff.mp found).1
      omega

theorem SpokeFrom.append {more : List ForwardedConnection} {index : Nat}
    (spoke : session.SpokeFrom index) (grown : next.streams = session.streams ++ more) :
    next.SpokeFrom index := by
  obtain ⟨later, stream, le, found, spoke⟩ := spoke
  refine ⟨later, stream, le, ?_, spoke⟩
  rw [grown, List.getElem?_append_left (List.getElem?_eq_some_iff.mp found).1]
  exact found

theorem SpokeFrom.stepAt {index at' : Nat} {event : ForwardedConnection.Event}
    {streams : List ForwardedConnection} (spoke : session.SpokeFrom index)
    (taken : Transition.stepAt ForwardedConnection.step session.streams at' event =
      some streams) (same : next.streams = streams) : next.SpokeFrom index := by
  obtain ⟨later, stream, le, found, spoke⟩ := spoke
  obtain ⟨before, after, here, moved, rfl⟩ := stepAt_eq_some.mp taken
  by_cases hit : later = at'
  · subst hit
    cases found.symm.trans here
    refine ⟨later, after, le, ?_, ForwardedConnection.step_spoke spoke moved⟩
    rw [same, List.getElem?_set_self (List.getElem?_eq_some_iff.mp found).1]
  · refine ⟨later, stream, le, ?_, spoke⟩
    rw [same, List.getElem?_set_ne (Ne.symm hit)]
    exact found

theorem tended_listener {event : Server.TcpListener.Event} (tended : session.Tended)
    (taken : session.step (.listener event) = some next) : next.Tended := by
  have bound := tended.accepted_le
  obtain ⟨listener, _, rfl⟩ := Option.map_eq_some_iff.mp taken
  have fresh : ∀ stream ∈ opened event, stream = {} := by
    intro stream member
    cases event with
    | opened => exact List.mem_singleton.mp member
    | _ => cases member
  refine ⟨?_, ?_, fun index early => (tended.heard index early).append rfl⟩
  · intro stream member
    rcases List.mem_append.mp member with before | new
    · exact tended.kept stream before
    · rw [fresh stream new]
      exact ForwardedConnection.kept_start
  · intro index stream found
    by_cases early : index < session.streams.length
    · rw [List.getElem?_append_left early] at found
      exact tended.inOrder index stream found
    · rw [List.getElem?_append_right (by omega)] at found
      rw [fresh stream (List.mem_of_getElem? found)]
      apply iff_of_false
      · exact fun attempted => attempted rfl
      · show ¬ index < session.accepted
        omega

theorem tended_accept (tended : session.Tended) (taken : session.step .accept = some next) :
    next.Tended := by
  simp only [step] at taken
  split at taken
  · rename_i visible
    obtain ⟨streams, moved, rfl⟩ := Option.map_eq_some_iff.mp taken
    obtain ⟨stream, stream', here, accepted, rfl⟩ := stepAt_eq_some.mp moved
    have reached : session.SpokeFrom session.accepted := by
      obtain ⟨other, member, seen⟩ := List.any_eq_true.mp visible
      obtain ⟨offset, found⟩ := List.mem_iff_getElem?.mp member
      rw [List.getElem?_drop] at found
      refine ⟨_, other, Nat.le_add_right _ offset, found, ?_⟩
      apply (tended.kept other (List.mem_of_getElem? found)).spoke_of_visible seen
      by_contra attempted
      have early := (tended.inOrder _ other found).mp attempted
      omega
    refine ⟨?_, ?_, ?_⟩
    · exact forall_stepAt ForwardedConnection.Kept
        (fun _ _ _ holds taken => ForwardedConnection.kept_step holds taken) tended.kept moved
    · intro index other found
      by_cases hit : session.accepted = index
      · subst hit
        rw [List.getElem?_set_self (List.getElem?_eq_some_iff.mp here).1] at found
        cases found
        apply iff_of_true
        · obtain ⟨⟨client, server⟩, called, rfl⟩ := Option.map_eq_some_iff.mp accepted
          simp only [TcpForwarder.step] at called
          split at called
          · cases called
            exact TcpForwarder.Stage.noConfusion
          · cases called
        · exact Nat.lt_succ_self _
      · rw [List.getElem?_set_ne hit] at found
        rw [tended.inOrder index other found]
        show index < session.accepted ↔ index < session.accepted + 1
        omega
    · intro index early
      have before : session.SpokeFrom index := by
        rcases Nat.lt_succ_iff_lt_or_eq.mp early with earlier | rfl
        · exact tended.heard index earlier
        · exact reached
      exact before.stepAt moved rfl
  · cases taken

theorem tended_stream {at' : Nat} {event : ForwardedConnection.Event}
    (tended : session.Tended) (taken : session.step (.stream at' event) = some next) :
    next.Tended := by
  simp only [step] at taken
  split at taken
  · cases taken
  · rename_i other
    obtain ⟨streams, moved, rfl⟩ := Option.map_eq_some_iff.mp taken
    obtain ⟨stream, stream', here, resumed, rfl⟩ := stepAt_eq_some.mp moved
    refine ⟨?_, ?_, fun index early => (tended.heard index early).stepAt moved rfl⟩
    · exact forall_stepAt ForwardedConnection.Kept
        (fun _ _ _ holds taken => ForwardedConnection.kept_step holds taken) tended.kept moved
    · intro index found' found
      by_cases hit : at' = index
      · subst hit
        rw [List.getElem?_set_self (List.getElem?_eq_some_iff.mp here).1] at found
        cases found
        rw [ForwardedConnection.step_attempted other resumed]
        exact tended.inOrder _ stream here
      · rw [List.getElem?_set_ne hit] at found
        exact tended.inOrder index found' found

theorem tended_step {event : Event} (tended : session.Tended)
    (taken : session.step event = some next) : next.Tended := by
  cases event with
  | listener event => exact tended_listener tended taken
  | accept => exact tended_accept tended taken
  | stream index event => exact tended_stream tended taken

/-- Where nothing is due, no call is. -/
theorem Quiescent.forwardStep_eq_none (quiet : session.Quiescent) {index : Nat}
    {stream : ForwardedConnection} (found : session.streams[index]? = some stream)
    (standing : stream.server.stage = .forwarding) {call : CopyEvent}
    (isDue : TcpForwarder.due call = true) :
    stream.server.forwardStep stream.client call = none := by
  have blocked := quiet (.stream index (.server (.forward call))) isDue
  by_contra enabled
  obtain ⟨sides, moved⟩ := Option.ne_none_iff_exists'.mp enabled
  simp [step, stepAt, found, ForwardedConnection.step, TcpForwarder.step, standing, moved]
    at blocked

/-- Where nothing is due, the client has accepted every stream that it has heard of. -/
theorem Quiescent.attempted_of_spokeFrom (quiet : session.Quiescent)
    (tended : session.Tended) {index : Nat} {stream : ForwardedConnection}
    (found : session.streams[index]? = some stream) (spoke : session.SpokeFrom index) :
    stream.Attempted := by
  rw [tended.inOrder index stream found]
  by_contra late
  obtain ⟨later, other, le, there, spoke⟩ := spoke
  have kept := tended.kept other (List.mem_of_getElem? there)
  have visible := kept.visible_of_spoke
    (fun call isDue => quiet.forwardStep_eq_none there kept.standing isDue) spoke
  have heard : (session.streams.drop session.accepted).any
      ForwardedConnection.visible = true := by
    refine List.any_eq_true.mpr ⟨other, List.mem_iff_getElem?.mpr
      ⟨later - session.accepted, ?_⟩, visible⟩
    rw [List.getElem?_drop, show session.accepted + (later - session.accepted) = later by omega]
    exact there
  have bound := (List.getElem?_eq_some_iff.mp there).1
  obtain ⟨first, here⟩ : ∃ first, session.streams[session.accepted]? = some first :=
    ⟨_, List.getElem?_eq_getElem (by omega)⟩
  have unaccepted : first.client.stage = .unaccepted := by
    by_contra attempted
    have early := (tended.inOrder _ first here).mp attempted
    omega
  have blocked := quiet .accept rfl
  simp [step, heard, stepAt, here, ForwardedConnection.step, TcpForwarder.step, unaccepted]
    at blocked

/-- In every quiescent state that a session gets to: the destination of every connection
that neither side has ended has been tried if and only if, for each of them, its external
peer or that of a connection whose stream was opened later has sent a byte or ended or
lost its connection. -/
theorem none_stranded_iff {port : UInt16} {events : List Event}
    (ran : run step { listener := { port := port } } events = some session)
    (quiet : session.Quiescent) :
    (∀ (index : Nat) (stream : ForwardedConnection),
        session.streams[index]? = some stream → stream.Live → stream.Attempted) ↔
      ∀ (index : Nat) (stream : ForwardedConnection),
        session.streams[index]? = some stream → stream.Live →
          session.SpokeFrom index := by
  have tended := run_invariant Tended (fun _ _ _ holds taken => tended_step holds taken)
    (tended_start { port := port }) ran
  constructor
  · intro attempted index stream found live
    exact tended.heard index
      ((tended.inOrder index stream found).mp (attempted index stream found live))
  · intro spoken index stream found live
    exact quiet.attempted_of_spokeFrom tended found (spoken index stream found live)

end TunnelSession

namespace TcpForwarder

/-- A task with nothing to read and nothing to write. -/
structure AtRest (forwarder other : TcpForwarder) : Prop where
  standing : forwarder.failed = false
  aToB : forwarder.aToB.stage = .running ∧ forwarder.aToB.buffer = []
  bToA : forwarder.bToA.stage = .running ∧ forwarder.bToA.buffer = []
  inbound : forwarder.inbound.pending = [] ∧ forwarder.inbound.finished = false
  quicIn : other.quicOut.pending = [] ∧ other.quicOut.finished = false

/-- A transfer between an empty pipe and an empty buffer takes no call. -/
private theorem transfer_at_rest {source target source' target' : Pipe}
    {transfer transfer' : Transfer} {call : TransferEvent} {size : Nat}
    (rest : transfer.stage = .running ∧ transfer.buffer = [])
    (empty : source.pending = [] ∧ source.finished = false)
    (called : transfer.step size call = some (.ok transfer'))
    (effect : call.effect source target = some (source', target')) : False := by
  rcases Transfer.step_cases called with ⟨bytes, rfl, _, nonempty, _⟩ | ⟨rfl, _, _⟩ |
    ⟨bytes, tail, _, nonempty, split, _⟩ | ⟨_, draining, _⟩ | ⟨_, closing, _⟩ |
    ⟨error, _, _, same⟩ | ⟨error, _, _, same⟩
  · obtain ⟨next, handed, _⟩ := Option.map_eq_some_iff.mp effect
    obtain ⟨_, _, pending, _⟩ := Pipe.deliver_eq_some handed
    rw [empty.1] at pending
    exact nonempty (List.append_eq_nil_iff.mp pending.symm).1
  · simp only [TransferEvent.effect] at effect
    split at effect
    · rename_i atEnd
      cases empty.2.symm.trans atEnd.1
    · cases effect
  · rw [rest.2] at split
    exact nonempty (List.append_eq_nil_iff.mp split.symm).1
  · cases rest.1.symm.trans draining
  · cases rest.1.symm.trans closing
  · cases same
  · cases same

theorem AtRest.forwardStep_eq_none {forwarder other : TcpForwarder} {call : CopyEvent}
    (rest : forwarder.AtRest other) (isDue : due call = true) :
    forwarder.forwardStep other call = none := by
  by_contra enabled
  obtain ⟨⟨next, other'⟩, taken⟩ := Option.ne_none_iff_exists'.mp enabled
  obtain ⟨_, cases⟩ := forwardStep_cases taken
  rcases cases with
    ⟨call, forward, inbound, quicOut, _, called, _, effect, _⟩ |
    ⟨call, forward, quicIn, outbound, _, called, _, effect, _⟩ |
    ⟨forward, _, _, _, failed | ⟨⟨error, rfl⟩, _⟩, _⟩
  · exact transfer_at_rest rest.aToB rest.inbound called effect
  · exact transfer_at_rest rest.bToA rest.quicIn called effect
  · cases rest.standing.symm.trans failed
  · cases isDue

end TcpForwarder

namespace TunnelSession

/-- A session in which every task is at rest, and no stream that is not accepted has been
heard of. -/
theorem quiescent_of_atRest {session : TunnelSession}
    (unheard : (session.streams.drop session.accepted).any
      ForwardedConnection.visible = false)
    (server : ∀ stream ∈ session.streams, stream.server.AtRest stream.client)
    (client : ∀ stream ∈ session.streams, stream.client.stage ≠ .forwarding) :
    session.Quiescent := by
  intro event isDue
  cases event with
  | listener event => cases isDue
  | accept => simp [step, unheard]
  | stream index event =>
      by_contra enabled
      obtain ⟨next, taken⟩ := Option.ne_none_iff_exists'.mp enabled
      simp only [step] at taken
      split at taken
      · cases taken
      · obtain ⟨streams, moved, _⟩ := Option.map_eq_some_iff.mp taken
        obtain ⟨stream, stream', found, resumed, _⟩ := stepAt_eq_some.mp moved
        have member := List.mem_of_getElem? found
        cases event with
        | server event =>
            obtain ⟨sides, called, _⟩ := Option.map_eq_some_iff.mp resumed
            cases event with
            | forward call =>
                simp only [TcpForwarder.step] at called
                split at called
                · rw [(server stream member).forwardStep_eq_none isDue] at called
                  cases called
                · cases called
            | _ => cases isDue
        | client event =>
            obtain ⟨sides, called, _⟩ := Option.map_eq_some_iff.mp resumed
            cases event with
            | forward call =>
                simp only [TcpForwarder.step] at called
                rw [if_neg (client stream member)] at called
                cases called
            | _ => cases isDue

def secondSpeaks : List Event :=
  [.listener (.localAddr true), .listener .accepted, .listener .opened,
    .listener .accepted, .listener .opened,
    .stream 1 (.server (.peerSends [7])),
    .stream 1 (.server (.forward (.aToB (.read [7])))),
    .stream 1 (.server (.forward (.aToB (.wrote [7])))), .accept, .accept]

def afterSecondSpeaks : TunnelSession where
  listener :=
    { port := 80
      phase := .selecting
      settled :=
        [{ late := false, outcome := .forwarded }, { late := false, outcome := .forwarded }]
      tcpConnectionsAccepted := 2 }
  streams :=
    [{ client := { stage := .connecting } },
      { server :=
          { stage := .forwarding
            inbound := { delivered := [7] }
            forward :=
              { copy := { aToB := { amount := 1 } }
                streamACounter := 0
                streamBCounter := 0 }
            quicOut := { pending := [7] } }
        client := { stage := .connecting } }]
  accepted := 2

theorem none_stranded_secondSpeaks :
    run step { listener := { port := 80 } } secondSpeaks = some afterSecondSpeaks ∧
      afterSecondSpeaks.Quiescent ∧
      ∀ (index : Nat) (stream : ForwardedConnection),
        afterSecondSpeaks.streams[index]? = some stream → stream.Live →
          stream.Attempted := by
  have ran : run step { listener := { port := 80 } } secondSpeaks =
      some afterSecondSpeaks := rfl
  have quiet : afterSecondSpeaks.Quiescent := by
    apply quiescent_of_atRest
    · rfl
    · intro stream member
      rcases List.mem_pair.mp member with rfl | rfl
      · exact ⟨rfl, ⟨rfl, rfl⟩, ⟨rfl, rfl⟩, ⟨rfl, rfl⟩, rfl, rfl⟩
      · exact ⟨rfl, ⟨rfl, rfl⟩, ⟨rfl, rfl⟩, ⟨rfl, rfl⟩, rfl, rfl⟩
    · intro stream member
      rcases List.mem_pair.mp member with rfl | rfl
      · exact TcpForwarder.Stage.noConfusion
      · exact TcpForwarder.Stage.noConfusion
  refine ⟨ran, quiet, (none_stranded_iff ran quiet).mpr ?_⟩
  intro index stream found _
  have bound := (List.getElem?_eq_some_iff.mp found).1
  change index < 2 at bound
  exact ⟨1, _, by omega, rfl, .inl (List.cons_ne_nil 7 [])⟩

def destinationSpeaksFirst : List Event :=
  [.listener (.localAddr true), .listener .accepted, .listener .opened]

def afterDestinationSpeaksFirst : TunnelSession where
  listener :=
    { port := 80
      phase := .selecting
      settled := [{ late := false, outcome := .forwarded }]
      tcpConnectionsAccepted := 1 }
  streams := [{}]

/-- The client never hears of it. -/
theorem stranded_destinationSpeaksFirst :
    run step { listener := { port := 80 } } destinationSpeaksFirst =
        some afterDestinationSpeaksFirst ∧
      afterDestinationSpeaksFirst.Quiescent ∧
      ¬ ∀ (index : Nat) (stream : ForwardedConnection),
        afterDestinationSpeaksFirst.streams[index]? = some stream → stream.Live →
          stream.Attempted := by
  refine ⟨rfl, ?_, ?_⟩
  · apply quiescent_of_atRest
    · rfl
    · intro stream member
      cases List.mem_singleton.mp member
      exact ⟨rfl, ⟨rfl, rfl⟩, ⟨rfl, rfl⟩, ⟨rfl, rfl⟩, rfl, rfl⟩
    · intro stream member
      cases List.mem_singleton.mp member
      exact TcpForwarder.Stage.noConfusion
  · intro attempted
    exact attempted 0 {} rfl ⟨⟨rfl, rfl⟩, rfl, rfl⟩ rfl

end TunnelSession

end PortRedirect.Tunnel
