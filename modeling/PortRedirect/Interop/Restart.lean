import PortRedirect.Client.Main
import PortRedirect.Server.Program

namespace PortRedirect.Server

open PortRedirect.Text
open PortRedirect.Net
open PortRedirect.Protocol
open PortRedirect.Quic
open PortRedirect.Transition

/-! The server started again and again, on whatever directories: the certificate that it
has once presented is the one that it presents, and the one that a client loads. -/

/-- What a start finds, but for the files, which earlier starts have left. -/
structure Start where
  environment : Environment
  surroundings : ServerSurroundings
  args : Args

namespace Start

variable (start : Start) (files : FileSystem)

def configDir : Except Error (List String) :=
  getConfigDir start.environment 0 start.args.configDir

def found : ServerSurroundings := { start.surroundings with files := files }

/-- The call of `load_or_generate_quic_cert` in `run_quic_server`. -/
def call (certHostname : String) : Call where
  generated := start.surroundings.generate certHostname
  certWrite := start.surroundings.certWrite
  keyWrite := start.surroundings.keyWrite
  keyRead := start.surroundings.keyRead
  certRead := start.surroundings.certRead

/-- The files after the start. -/
def leaves : FileSystem :=
  match main start.environment start.args with
  | .error _ => files
  | .ok config =>
      (loadOrGenerateQuicCert start.surroundings.pem config.keyFile config.certFile files
        (start.call config.certHostname)).2

/-- The certificates of the start, if it gets to accept connections. -/
def presents : Except EarlyExit (List Bytes) :=
  presented start.environment (start.found files) start.args

end Start

/-- A start that got to accept connections, its directory and its certificates. -/
structure Presentation where
  start : Start
  configDir : List String
  certChain : List Bytes

/-- The certificate was presented, and its key was the one accepted with it. -/
structure Presentation.Matches (presentation : Presentation) (pair : CertifiedKey) : Prop where
  cert : presentation.certChain = [pair.cert]
  key : presentation.start.surroundings.singleCert presentation.certChain pair.key = .ok ()

structure Installation where
  files : FileSystem
  shown : List Presentation := []

def Installation.step (installation : Installation) (start : Start) : Option Installation :=
  some
    { files := start.leaves installation.files
      shown := installation.shown ++
        match start.configDir, start.presents installation.files with
        | .ok configDir, .ok certChain => [⟨start, configDir, certChain⟩]
        | _, _ => [] }

/-- A directory with both files. -/
structure Holds (configDir : List String) (pair : CertifiedKey) (files : FileSystem) :
    Prop where
  key : files (joinPath configDir "key.der") = some pair.key
  cert : files (joinPath configDir "cert.der") = some pair.cert

theorem Holds.unique {configDir : List String} {pair pair' : CertifiedKey} {files : FileSystem}
    (holds : Holds configDir pair files) (holds' : Holds configDir pair' files) :
    pair = pair' := by
  obtain ⟨cert, key⟩ := pair
  obtain ⟨cert', key'⟩ := pair'
  cases holds.key.symm.trans holds'.key
  cases holds.cert.symm.trans holds'.cert
  rfl

theorem joinPath_ne (configDir configDir' : List String) :
    joinPath configDir "key.der" ≠ joinPath configDir' "cert.der" := by
  intro same
  have names : "key.der" = "cert.der" := congrArg PathBuf.fileName same
  exact absurd names (by decide)

theorem extension_joinPath (configDir : List String) :
    (joinPath configDir "key.der").extension = some "der" ∧
      (joinPath configDir "cert.der").extension = some "der" := by
  have named (fileName : String) :
      (joinPath configDir fileName).extension = (joinPath [] fileName).extension := by
    unfold PathBuf.extension joinPath
    rfl
  rw [named, named]
  decide

section Call

variable {configDir : List String} {files : FileSystem} {call : Call}

theorem generateQuicCert_joinPath (configDir : List String) (files : FileSystem)
    (call : Call) :
    ∃ outcome files', generateQuicCert (joinPath configDir "key.der")
        (joinPath configDir "cert.der") files call = (outcome, files') ∧
      (∀ path, path ≠ joinPath configDir "key.der" → path ≠ joinPath configDir "cert.der" →
        files' path = files path) ∧
      ∀ chain key, outcome = .returned (.ok (chain, key)) →
        ∃ pair, (chain = [pair.cert] ∧ key = pair.key) ∧ Holds configDir pair files' := by
  unfold generateQuicCert
  cases call.generated with
  | none => exact ⟨_, _, rfl, fun _ _ _ => rfl, nofun⟩
  | some pair =>
      cases call.certWrite with
      | failed error left =>
          exact ⟨_, _, rfl, fun _ _ notCert => Function.update_of_ne notCert _ _, nofun⟩
      | written =>
          have elsewhere (content : Option Bytes) (path : PathBuf)
              (notKey : path ≠ joinPath configDir "key.der")
              (notCert : path ≠ joinPath configDir "cert.der") :
              Function.update
                (Function.update files (joinPath configDir "cert.der") (some pair.cert))
                (joinPath configDir "key.der") content path = files path := by
            rw [Function.update_of_ne notKey, Function.update_of_ne notCert]
          cases call.keyWrite with
          | failed error left => exact ⟨_, _, rfl, elsewhere left, nofun⟩
          | written =>
              refine ⟨_, _, rfl, elsewhere (some pair.key), ?_⟩
              rintro chain key ⟨⟩
              refine ⟨pair, ⟨rfl, rfl⟩, Function.update_self .., ?_⟩
              rw [Function.update_of_ne (joinPath_ne _ _).symm, Function.update_self]

/-- What `load_or_generate_quic_cert` does in a directory. -/
theorem loadOrGenerateQuicCert_cases (pem : PemFile) (configDir : List String)
    (files : FileSystem) (call : Call) :
    ∃ outcome files', loadOrGenerateQuicCert pem (joinPath configDir "key.der")
        (joinPath configDir "cert.der") files call = (outcome, files') ∧
      ((∃ pair, Holds configDir pair files ∧ files' = files ∧
          ∀ chain key, outcome = .returned (.ok (chain, key)) →
            chain = [pair.cert] ∧ key = pair.key) ∨
        (∀ pair, ¬ Holds configDir pair files) ∧
          (∀ path, path ≠ joinPath configDir "key.der" →
            path ≠ joinPath configDir "cert.der" → files' path = files path) ∧
          ∀ chain key, outcome = .returned (.ok (chain, key)) →
            ∃ pair, (chain = [pair.cert] ∧ key = pair.key) ∧ Holds configDir pair files') := by
  obtain ⟨derKey, derCert⟩ := extension_joinPath configDir
  unfold loadOrGenerateQuicCert
  by_cases stored : Stored (joinPath configDir "key.der") (joinPath configDir "cert.der") files
  · obtain ⟨key, keyThere⟩ := Option.ne_none_iff_exists'.mp stored.1
    obtain ⟨cert, certThere⟩ := Option.ne_none_iff_exists'.mp stored.2
    rw [if_pos stored]
    refine ⟨_, _, rfl, .inl ⟨⟨cert, key⟩, ⟨keyThere, certThere⟩, rfl, ?_⟩⟩
    intro chain key' loaded
    exact loadQuicCert_eq_ok derKey derCert keyThere certThere (Outcome.returned.inj loaded)
  · rw [if_neg stored]
    obtain ⟨outcome, files', generated, elsewhere, returned⟩ :=
      generateQuicCert_joinPath configDir files call
    refine ⟨outcome, files', generated, .inr ⟨?_, elsewhere, returned⟩⟩
    intro pair holds
    apply stored
    exact ⟨by simp [holds.key], by simp [holds.cert]⟩

/-- Files that are there are never written again. -/
theorem Holds.kept {directory : List String} {pair : CertifiedKey}
    (holds : Holds directory pair files) (pem : PemFile) (configDir : List String)
    (call : Call) :
    Holds directory pair (loadOrGenerateQuicCert pem (joinPath configDir "key.der")
      (joinPath configDir "cert.der") files call).2 := by
  obtain ⟨outcome, files', called, ⟨_, _, rfl, _⟩ | ⟨missing, elsewhere, _⟩⟩ :=
    loadOrGenerateQuicCert_cases pem configDir files call
  · rw [called]
    exact holds
  · rw [called]
    have other : directory ≠ configDir := by
      rintro rfl
      exact missing pair holds
    have apart (name name' : String) : joinPath directory name ≠ joinPath configDir name' :=
      fun same => other (congrArg PathBuf.parent same)
    exact ⟨(elsewhere _ (apart _ _) (apart _ _)).trans holds.key,
      (elsewhere _ (apart _ _) (apart _ _)).trans holds.cert⟩

end Call

theorem main_eq_createDefaultConfig {environment : Environment} {args : Args}
    {config : ServerConfig ServerAppData} (called : main environment args = .ok config) :
    ∃ configDir quicAddr appData, getConfigDir environment 0 args.configDir = .ok configDir ∧
      config = .createDefaultConfig configDir args.quicCertHostname quicAddr none appData := by
  unfold main at called
  simp only [bind_eq_ok, passing_eq_ok] at called
  obtain ⟨_, _, configDir, made, _, _, quicAddr, _, ⟨⟩⟩ := called
  refine ⟨configDir, quicAddr, _, ?_, rfl⟩
  cases directory : getConfigDir environment 0 args.configDir with
  | error error => simp [directory, Except.mapError] at made
  | ok dir =>
      rw [directory] at made
      cases made
      rfl

namespace Start

variable {start : Start} {files : FileSystem} {configDir : List String}
  {chain : List Bytes}

/-- What a start that presents certificates has been given by
`load_or_generate_quic_cert`, and has had accepted. -/
theorem presents_eq_ok (made : start.configDir = .ok configDir)
    (ready : start.presents files = .ok chain) :
    ∃ key files', loadOrGenerateQuicCert start.surroundings.pem
        (joinPath configDir "key.der") (joinPath configDir "cert.der") files
        (start.call start.args.quicCertHostname) =
          (.returned (.ok (chain, key)), files') ∧ start.leaves files = files' ∧
      start.surroundings.singleCert chain key = .ok () := by
  obtain ⟨config, called, rest⟩ := bind_eq_ok.mp ready
  obtain ⟨directory, quicAddr, appData, there, rfl⟩ := main_eq_createDefaultConfig called
  cases made.symm.trans there
  have ready : setUp (start.found files) (.createDefaultConfig configDir
      start.args.quicCertHostname quicAddr none appData) = .ok chain := by
    split at rest
    · cases rest
    · exact rest
  unfold setUp at ready
  have left : start.leaves files = (loadOrGenerateQuicCert start.surroundings.pem
      (joinPath configDir "key.der") (joinPath configDir "cert.der") files
      (start.call start.args.quicCertHostname)).2 := by
    simp only [leaves, called]
    rfl
  obtain ⟨outcome, files', made⟩ : ∃ outcome files',
      loadOrGenerateQuicCert start.surroundings.pem (joinPath configDir "key.der")
        (joinPath configDir "cert.der") files (start.call start.args.quicCertHostname) =
          (outcome, files') := ⟨_, _, rfl⟩
  rw [left, made]
  dsimp only [call] at made
  dsimp only [ServerConfig.createDefaultConfig, found] at ready
  rw [made] at ready
  cases outcome with
  | panicked => cases ready
  | returned result =>
      simp only [passing_eq_ok, bind_eq_ok] at ready
      obtain ⟨⟨certChain, key⟩, given, _, accepted, _, _, _, _, ⟨⟩⟩ := ready
      cases result with
      | error error => cases given
      | ok value =>
          cases given
          refine ⟨key, files', rfl, rfl, ?_⟩
          cases single : start.surroundings.singleCert certChain key with
          | error error =>
              rw [single] at accepted
              cases accepted
          | ok done => rfl

theorem holds_leaves {directory : List String} {pair : CertifiedKey}
    (holds : Holds directory pair files) : Holds directory pair (start.leaves files) := by
  unfold leaves
  cases called : main start.environment start.args with
  | error early => exact holds
  | ok config =>
      obtain ⟨configDir, _, _, _, rfl⟩ := main_eq_createDefaultConfig called
      exact holds.kept ..

/-- A start that presents certificates leaves them in the directory, and where they were
already it presents these. -/
theorem holds_of_presents (made : start.configDir = .ok configDir)
    (ready : start.presents files = .ok chain) :
    ∃ pair, Presentation.Matches ⟨start, configDir, chain⟩ pair ∧
      Holds configDir pair (start.leaves files) := by
  obtain ⟨key, files', called, left, accepted⟩ := presents_eq_ok made ready
  obtain ⟨outcome, after, called', ⟨pair, holds, same, returned⟩ | ⟨_, _, returned⟩⟩ :=
    loadOrGenerateQuicCert_cases start.surroundings.pem configDir files
      (start.call start.args.quicCertHostname)
  · cases called.symm.trans called'
    obtain ⟨cert, rfl⟩ := returned chain key rfl
    exact ⟨pair, ⟨cert, accepted⟩, by rw [left, same]; exact holds⟩
  · cases called.symm.trans called'
    obtain ⟨pair, ⟨cert, rfl⟩, holds⟩ := returned chain key rfl
    exact ⟨pair, ⟨cert, accepted⟩, by rw [left]; exact holds⟩

end Start

namespace Installation

variable {installation next : Installation}

/-- What a start has presented is in its directory. -/
def Pinned (installation : Installation) : Prop :=
  ∀ presentation ∈ installation.shown,
    ∃ pair, presentation.Matches pair ∧ Holds presentation.configDir pair installation.files

theorem pinned_step {start : Start} (pinned : installation.Pinned)
    (taken : installation.step start = some next) : next.Pinned := by
  cases taken
  intro presentation member
  rcases List.mem_append.mp member with before | now
  · obtain ⟨pair, matching, holds⟩ := pinned presentation before
    exact ⟨pair, matching, Start.holds_leaves holds⟩
  · split at now
    · rename_i directory certChain made ready
      cases List.mem_singleton.mp now
      exact Start.holds_of_presents made ready
    · cases now

theorem holds_run {configDir : List String} {pair : CertifiedKey} {starts : List Start}
    {final : Installation} (holds : Holds configDir pair installation.files)
    (ran : run step installation starts = some final) : Holds configDir pair final.files := by
  refine run_invariant (fun state : Installation => Holds configDir pair state.files) ?_ holds
    ran
  intro state start next holds taken
  cases taken
  exact Start.holds_leaves holds

end Installation

/-- The client's roots are the certificate in its directory. -/
theorem loadRoots_eq_ok {environment : Environment} {call : Client.RunClientCall}
    {config : ClientConfig Client.ClientAppData} {surroundings : ClientSurroundings}
    {configDir : List String} {pair : CertifiedKey} {roots : List Bytes}
    (made : getConfigDir environment 1 none = .ok configDir)
    (configured : Client.runClient environment call = .ok config)
    (holds : Holds configDir pair surroundings.files) (sound : surroundings.readFault = none)
    (loaded : loadRoots config surroundings = .ok roots) : roots = [pair.cert] := by
  obtain ⟨directory, there, ⟨⟩⟩ := bind_eq_ok.mp configured
  cases made.symm.trans there
  simp only [loadRoots, ClientConfig.createDefaultConfig, FileSystem.read, sound,
    holds.cert] at loaded
  split at loaded
  · cases loaded
  · cases loaded
    rfl

/-- What a start of the server has presented on a directory, every later one that gets to
accept connections there presents too, with the same key, whatever its arguments and whatever
has failed in between; and a client that can read its certificate file there trusts that
certificate and no other. -/
theorem certificate_pinned {files : FileSystem} {starts later : List Start}
    {middle final : Installation}
    (ran : run Installation.step { files := files } starts = some middle)
    (more : run Installation.step middle later = some final)
    {presentation : Presentation} (shown : presentation ∈ middle.shown) :
    ∃ pair, presentation.Matches pair ∧ Holds presentation.configDir pair middle.files ∧
      Holds presentation.configDir pair final.files ∧
      (∀ other ∈ final.shown, other.configDir = presentation.configDir →
        other.Matches pair) ∧
      ∀ environment call config surroundings roots,
        getConfigDir environment 1 none = .ok presentation.configDir →
        Client.runClient environment call = .ok config →
        surroundings.files = final.files → surroundings.readFault = none →
        loadRoots config surroundings = .ok roots → roots = [pair.cert] := by
  have pinned {starts : List Start} {final : Installation}
      (ran : run Installation.step { files := files } starts = some final) : final.Pinned :=
    run_invariant Installation.Pinned
      (fun _ _ _ pinned taken => Installation.pinned_step pinned taken)
      (fun _ member => absurd member List.not_mem_nil) ran
  obtain ⟨pair, matching, there⟩ := pinned ran presentation shown
  have still := Installation.holds_run there more
  refine ⟨pair, matching, there, still, ?_, ?_⟩
  · intro other member directory
    obtain ⟨pair', matching', holds⟩ :=
      pinned (run_append_eq_some.mpr ⟨middle, ran, more⟩) other member
    rw [directory] at holds
    rwa [← holds.unique still]
  · intro environment call config surroundings roots made configured same sound loaded
    exact loadRoots_eq_ok made configured (by rw [same]; exact still) sound loaded

/-- Accepts one key, and one certificate with it. -/
def sampleSingleCert (certChain : List Bytes) (key : Bytes) : Except String Unit :=
  if certChain = [utf8 "127.0.0.1"] ∧ key = [0] then .ok ()
  else .error "keys may not be consistent: KeyMismatch"

def sampleStart : Start where
  environment := .loopback
  surroundings := { ServerProgram.sampleSurroundings with singleCert := sampleSingleCert }
  args := ServerProgram.sampleArgs

/-- For another name, and on a full disk. -/
def sampleRestart : Start where
  environment := .loopback
  surroundings :=
    { sampleStart.surroundings with
      certWrite := .failed noSpace none }
  args := { ServerProgram.sampleArgs with quicCertHostname := "example.org" }

def sampleDirectory : List String := ["home", ".config", "portredirect"]

def samplePresentations : List Presentation :=
  [⟨sampleStart, sampleDirectory, [utf8 "127.0.0.1"]⟩,
    ⟨sampleRestart, sampleDirectory, [utf8 "127.0.0.1"]⟩]

theorem certificate_pinned_sampleRestart :
    ∃ middle final pair,
      run Installation.step { files := .empty } [sampleStart] = some middle ∧
      run Installation.step middle [sampleRestart] = some final ∧
      middle.shown = samplePresentations.take 1 ∧ final.shown = samplePresentations ∧
      (∀ presentation ∈ samplePresentations, presentation.Matches pair) ∧
      Holds sampleDirectory pair final.files := by
  have ran : run Installation.step { files := .empty } [sampleStart] = some
      { files := sampleStart.leaves .empty
        shown := samplePresentations.take 1 } := rfl
  obtain ⟨pair, _, _, holds, same, _⟩ :=
    @certificate_pinned _ _ [sampleRestart] _ _ ran rfl _ (List.mem_singleton_self _)
  refine ⟨_, _, pair, ran, rfl, rfl, rfl, ?_, holds⟩
  intro presentation member
  have directory : ∀ other ∈ samplePresentations, other.configDir = sampleDirectory := by
    simp [samplePresentations]
  exact same presentation member (directory presentation member)

end PortRedirect.Server
