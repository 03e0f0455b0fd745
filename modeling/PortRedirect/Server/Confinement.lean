import PortRedirect.Server.SessionGate

namespace PortRedirect.Server

open PortRedirect.Text
open PortRedirect.Stream
open PortRedirect.Protocol
open PortRedirect.Transition

/-! The allow-list is checked against the port asked for, and what is opened is the
port that the system binds. -/

namespace Session

variable {setting : Setting} {challenge : String}

/-- Every listener of a session on the stream listens on an allowed port. -/
def Confined (setting : Setting) (stream : Bytes) : Prop :=
  ∀ events final listener, runOn setting stream events = some final →
    final.left.listener = some listener →
      allows setting.config.localBindPorts listener.port = true

private theorem gate_of_listener (drawn : setting.challenge = .ok challenge)
    {stream : Bytes} {events : List Event} {final : Duplex Session Unit}
    {listener : TcpListener} (ran : runOn setting stream events = some final)
    (spawned : final.left.listener = some listener) :
    ∃ port, IsGate setting challenge port (stream.take 141) ∧
      BindsTo port listener.port := by
  have bound : ¬ final.left.Unbound := by
    intro unbound
    rw [unbound.2] at spawned
    cases spawned
  obtain ⟨port, ⟨_, gate, binds⟩, _⟩ := gate_of_bound drawn ran bound
  exact ⟨port, gate, binds listener spawned⟩

private theorem exists_listener (drawn : setting.challenge = .ok challenge)
    {stream : Bytes} (gate : IsGate setting challenge 0 (stream.take 141))
    {port : UInt16} (picked : port ≠ 0) :
    ∃ events final, runOn setting stream events = some final ∧
      final.left.listener = some { port := port } := by
  obtain ⟨events, final, ran, stage⟩ := exists_run_to_bind drawn gate
  refine ⟨events ++ [.bound port], { final with left := final.left.bound port }, ?_, rfl⟩
  rw [runOn, List.map_append, run_append_eq_some]
  refine ⟨final, ran, run_singleton_eq_some.mpr (Duplex.step_inl_eq_of_silent ?_ rfl)⟩
  simp only [party, step, stage]
  exact if_pos (.inl ⟨rfl, picked⟩)

/-- The sessions on a stream are confined exactly when it does not ask for port 0
through its gate, or every port is allowed that the system may pick then. -/
theorem confined_iff (drawn : setting.challenge = .ok challenge) (stream : Bytes) :
    Confined setting stream ↔
      (IsGate setting challenge 0 (stream.take 141) →
        ∀ port, port ≠ 0 → allows setting.config.localBindPorts port = true) := by
  constructor
  · intro confined gate port picked
    obtain ⟨events, final, ran, spawned⟩ := exists_listener drawn gate picked
    exact confined events final _ ran spawned
  · intro every events final listener ran spawned
    obtain ⟨requested, gate, binds⟩ := gate_of_listener drawn ran spawned
    rcases binds with ⟨rfl, picked⟩ | ⟨_, same⟩
    · exact every gate listener.port picked
    · obtain ⟨_, _, _, _, _, allowed⟩ := gate
      rw [same, allowed]

theorem confined_iff_port80 :
    Confined (sampleSetting [.single 80])
        (sampleResponse ++ (utf8 "LISTENPORT" ++ [0, 80])) ↔
      (IsGate (sampleSetting [.single 80]) sampleChallenge 0
          ((sampleResponse ++ (utf8 "LISTENPORT" ++ [0, 80])).take 141) →
        ∀ port, port ≠ 0 → allows [.single 80] port = true) :=
  confined_iff (sample_drawn [.single 80])
    (sampleResponse ++ (utf8 "LISTENPORT" ++ [0, 80]))

/-- The allow-list `0-1023` and a client that asks for port 0: the system may open
port 49152. -/
theorem not_confined_port0 :
    PortSpec.fromStr "0-1023" = .ok (.range 0 1023) ∧
      ¬ Confined (sampleSetting [.range 0 1023])
        (sampleResponse ++ (utf8 "LISTENPORT" ++ [0, 0])) := by
  refine ⟨by rfl, ?_⟩
  intro confined
  have gate : IsGate (sampleSetting [.range 0 1023]) sampleChallenge 0
      ((sampleResponse ++ (utf8 "LISTENPORT" ++ [0, 0])).take 141) := by
    rw [List.take_of_length_le]
    · exact ⟨sampleResponse, _, rfl, sample_isResponse _, ⟨0, 0, rfl, by decide⟩, by decide⟩
    · rw [List.length_append, (sample_isResponse []).length_eq]
      decide
  have picked : (49152 : UInt16) ≠ 0 := by decide
  obtain ⟨events, final, ran, spawned⟩ :=
    exists_listener (sample_drawn [.range 0 1023]) gate picked
  have opened := confined events final _ ran spawned
  exact absurd opened (by decide)

end Session

end PortRedirect.Server
