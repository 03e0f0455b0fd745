import Mathlib.Logic.Function.Basic
import PortRedirect.Protocol.Basic
import PortRedirect.Transition.Run

namespace PortRedirect.Quic

open PortRedirect.Text
open PortRedirect.Protocol
open PortRedirect.Transition

/-! The server's certificate and private key on disk. -/

/-- The path of a file: the components before its name, and its name. -/
structure PathBuf where
  parent : List String
  fileName : String
deriving DecidableEq, Repr

/-- `Path::extension`: what follows the last dot, unless the name begins with that dot. -/
def PathBuf.extension (path : PathBuf) : Option String :=
  let backward := path.fileName.toList.reverse
  let after := backward.takeWhile (· != '.')
  match backward.dropWhile (· != '.') with
  | [] | [_] => none
  | _ :: _ =>
      if path.fileName = ".." then none else some (String.ofList after.reverse)

abbrev FileSystem := PathBuf → Option Bytes

/-- The end of an `fs::write`; one that fails leaves nothing behind or some bytes. -/
inductive WriteOutcome where
  | written
  | failed (error : String) (left : Option Bytes)
deriving DecidableEq, Repr

namespace FileSystem

def empty : FileSystem := fun _ => none

/-- `fs::read`, which may fail for a reason of its own. -/
def read (files : FileSystem) (path : PathBuf) (fault : Option String) :
    Except String Bytes :=
  match fault with
  | some error => .error error
  | none =>
      match files path with
      | none => .error "No such file or directory (os error 2)"
      | some bytes => .ok bytes

def write (files : FileSystem) (path : PathBuf) (content : Bytes) :
    WriteOutcome → Except String Unit × FileSystem
  | .written => (.ok (), Function.update files path (some content))
  | .failed error left => (.error error, Function.update files path left)

end FileSystem

/-- What `generate_simple_self_signed` generates, in DER. -/
structure CertifiedKey where
  cert : Bytes
  key : Bytes
deriving DecidableEq, Repr

/-- `rustls_pemfile`. -/
structure PemFile where
  privateKey : Bytes → Except String (Option Bytes)
  certs : Bytes → Except String (List Bytes)

structure Call where
  /-- What is generated for the name of the call, if that name can stand in a
  certificate. -/
  generated : Option CertifiedKey
  certWrite : WriteOutcome := .written
  keyWrite : WriteOutcome := .written
  keyRead : Option String := none
  certRead : Option String := none
deriving DecidableEq, Repr

inductive Outcome where
  | returned (result : Except Error (List Bytes × Bytes))
  | panicked
deriving DecidableEq, Repr

section Calls

variable (pem : PemFile) (keyPath certPath : PathBuf)

def parseKey (contents : Bytes) : Except Error Bytes :=
  if keyPath.extension = some "der" then .ok contents
  else
    match pem.privateKey contents with
    | .error error =>
        .error (.context "malformed PKCS #1 private key" (.io (.reported error)))
    | .ok none => .error (.message "no private keys found")
    | .ok (some key) => .ok key

def parseCertChain (contents : Bytes) : Except Error (List Bytes) :=
  if certPath.extension = some "der" then .ok [contents]
  else
    match pem.certs contents with
    | .error error =>
        .error (.context "invalid PEM-encoded certificate" (.io (.reported error)))
    | .ok chain => .ok chain

def loadQuicCert (files : FileSystem) (call : Call) : Except Error (List Bytes × Bytes) :=
  match files.read keyPath call.keyRead with
  | .error error => .error (.context "failed to read private key" (.io (.reported error)))
  | .ok contents =>
      match parseKey pem keyPath contents with
      | .error error => .error error
      | .ok key =>
          match files.read certPath call.certRead with
          | .error error =>
              .error (.context "failed to read certificate chain" (.io (.reported error)))
          | .ok contents =>
              match parseCertChain pem certPath contents with
              | .error error => .error error
              | .ok certChain => .ok (certChain, key)

def generateQuicCert (files : FileSystem) (call : Call) : Outcome × FileSystem :=
  match call.generated with
  -- the result of the generation is unwrapped
  | none => (.panicked, files)
  | some pair =>
      match files.write certPath pair.cert call.certWrite with
      | (.error error, files) =>
          (.returned (.error (.context "failed to write certificate"
            (.io (.reported error)))), files)
      | (.ok (), files) =>
          match files.write keyPath pair.key call.keyWrite with
          | (.error error, files) =>
              (.returned (.error (.context "failed to write private key"
                (.io (.reported error)))), files)
          | (.ok (), files) => (.returned (.ok ([pair.cert], pair.key)), files)

def Stored (files : FileSystem) : Prop := files keyPath ≠ none ∧ files certPath ≠ none

instance (files : FileSystem) : Decidable (Stored keyPath certPath files) :=
  inferInstanceAs (Decidable (_ ∧ _))

def loadOrGenerateQuicCert (files : FileSystem) (call : Call) : Outcome × FileSystem :=
  if Stored keyPath certPath files then
    (.returned (loadQuicCert pem keyPath certPath files call), files)
  else generateQuicCert keyPath certPath files call

/-- The files after some calls, with what has been generated and what was returned. -/
structure Store where
  files : FileSystem
  generated : List CertifiedKey := []
  results : List Outcome := []

def Store.call (store : Store) (call : Call) : Option Store :=
  let outcome := loadOrGenerateQuicCert pem keyPath certPath store.files call
  some
    { files := outcome.2
      generated :=
        if Stored keyPath certPath store.files then store.generated
        else store.generated ++ call.generated.toList
      results := store.results ++ [outcome.1] }

variable {pem keyPath certPath}

/-- Every call that returns a certificate and a key returns those of one generation. -/
def Store.SamePair (store : Store) : Prop :=
  ∀ chain key, .returned (.ok (chain, key)) ∈ store.results →
    ∃ pair ∈ store.generated, chain = [pair.cert] ∧ key = pair.key

/-- There is no key file, or the two files hold one generation. -/
def Store.Whole (keyPath certPath : PathBuf) (store : Store) : Prop :=
  store.files keyPath = none ∨
    ∃ pair ∈ store.generated, store.files keyPath = some pair.key ∧
      store.files certPath = some pair.cert

/-- A key write that fails leaves no key file. -/
def Call.KeyWriteClean (call : Call) : Prop :=
  ∀ error left, call.keyWrite = .failed error left → left = none

theorem loadQuicCert_eq_ok {files : FileSystem} {call : Call} {chain : List Bytes}
    {key keyFile certFile : Bytes}
    (derKey : keyPath.extension = some "der") (derCert : certPath.extension = some "der")
    (keyThere : files keyPath = some keyFile) (certThere : files certPath = some certFile)
    (loaded : loadQuicCert pem keyPath certPath files call = .ok (chain, key)) :
    chain = [certFile] ∧ key = keyFile := by
  unfold loadQuicCert parseKey parseCertChain FileSystem.read at loaded
  simp only [derKey, derCert, keyThere, certThere, if_true] at loaded
  cases keyFault : call.keyRead with
  | some error => simp [keyFault] at loaded
  | none =>
      cases certFault : call.certRead with
      | some error => simp [keyFault, certFault] at loaded
      | none =>
          simp only [keyFault, certFault] at loaded
          cases loaded
          exact ⟨rfl, rfl⟩

theorem generateQuicCert_cases (distinct : keyPath ≠ certPath) (files : FileSystem)
    (call : Call) (clean : call.KeyWriteClean) (missing : files keyPath = none) :
    (∃ pair, call.generated = some pair ∧
      generateQuicCert keyPath certPath files call =
        (.returned (.ok ([pair.cert], pair.key)),
          Function.update (Function.update files certPath (some pair.cert)) keyPath
            (some pair.key))) ∨
    ∃ outcome files', generateQuicCert keyPath certPath files call = (outcome, files') ∧
      (∀ result, outcome ≠ .returned (.ok result)) ∧ files' keyPath = none := by
  unfold generateQuicCert
  cases drawn : call.generated with
  | none => exact .inr ⟨_, _, rfl, by simp, missing⟩
  | some pair =>
      cases certWritten : call.certWrite with
      | failed error left =>
          refine .inr ⟨_, _, rfl, by simp, ?_⟩
          rw [Function.update_of_ne distinct, missing]
      | written =>
          cases keyWritten : call.keyWrite with
          | failed error left =>
              refine .inr ⟨_, _, rfl, by simp, ?_⟩
              rw [Function.update_self]
              exact clean error left keyWritten
          | written => exact .inl ⟨pair, rfl, rfl⟩

private theorem samePair_append {store : Store} {files : FileSystem}
    {generated : List CertifiedKey} {outcome : Outcome} (holds : store.SamePair)
    (kept : ∀ pair ∈ store.generated, pair ∈ generated)
    (last : ∀ chain key, outcome = .returned (.ok (chain, key)) →
      ∃ pair ∈ generated, chain = [pair.cert] ∧ key = pair.key) :
    Store.SamePair
      { files := files, generated := generated, results := store.results ++ [outcome] } := by
  intro chain key member
  rcases List.mem_append.mp member with before | now
  · obtain ⟨pair, drawn, same⟩ := holds chain key before
    exact ⟨pair, kept pair drawn, same⟩
  · exact last chain key (List.mem_singleton.mp now).symm

theorem samePair_step (distinct : keyPath ≠ certPath)
    (derKey : keyPath.extension = some "der") (derCert : certPath.extension = some "der")
    {store next : Store} {call : Call} (clean : call.KeyWriteClean)
    (holds : store.SamePair ∧ store.Whole keyPath certPath)
    (taken : store.call pem keyPath certPath call = some next) :
    next.SamePair ∧ next.Whole keyPath certPath := by
  obtain ⟨same, whole⟩ := holds
  cases taken
  unfold loadOrGenerateQuicCert
  by_cases stored : Stored keyPath certPath store.files
  · simp only [if_pos stored]
    obtain ⟨pair, drawn, keyThere, certThere⟩ := whole.resolve_left stored.1
    refine ⟨samePair_append same (fun _ member => member) ?_,
      .inr ⟨pair, drawn, keyThere, certThere⟩⟩
    intro chain key returned
    have loaded := Outcome.returned.inj returned
    obtain ⟨rfl, rfl⟩ := loadQuicCert_eq_ok derKey derCert keyThere certThere loaded
    exact ⟨pair, drawn, rfl, rfl⟩
  · simp only [if_neg stored]
    have kept : ∀ pair ∈ store.generated,
        pair ∈ store.generated ++ call.generated.toList :=
      fun pair member => List.mem_append_left _ member
    have missing : store.files keyPath = none := by
      rcases whole with absent | ⟨pair, _, keyThere, certThere⟩
      · exact absent
      · exact absurd ⟨by simp [keyThere], by simp [certThere]⟩ stored
    rcases generateQuicCert_cases distinct store.files call clean missing with
      ⟨pair, drawn, generated⟩ | ⟨outcome, files, generated, failed, absent⟩
    · have member : pair ∈ store.generated ++ call.generated.toList := by
        simp [drawn]
      rw [generated]
      refine ⟨samePair_append same kept ?_, .inr ⟨pair, member, ?_, ?_⟩⟩
      · intro chain key returned
        cases returned
        exact ⟨pair, member, rfl, rfl⟩
      · exact Function.update_self ..
      · exact (Function.update_of_ne distinct.symm _ _).trans (Function.update_self ..)
    · rw [generated]
      refine ⟨samePair_append same kept ?_, .inl absent⟩
      intro chain key returned
      exact absurd returned (failed (chain, key))

/-- On one pair of DER paths that starts out empty, the certificate and the key of every
call that returns them are of one generation, as long as no failed key write leaves a
file behind. -/
theorem same_generation (distinct : keyPath ≠ certPath)
    (derKey : keyPath.extension = some "der") (derCert : certPath.extension = some "der")
    {calls : List Call} {final : Store} (clean : ∀ call ∈ calls, call.KeyWriteClean)
    (ran : run (Store.call pem keyPath certPath) { files := FileSystem.empty } calls =
      some final) : final.SamePair := by
  have invariant := run_invariant_of_forall Call.KeyWriteClean
    (fun store : Store => store.SamePair ∧ store.Whole keyPath certPath)
    (fun _ _ _ allowed holds taken =>
      samePair_step distinct derKey derCert allowed holds taken)
    ⟨fun _ _ member => absurd member List.not_mem_nil, .inl rfl⟩ clean ran
  exact invariant.1

def noSpace : String := "No space left on device (os error 28)"

/-- The disk is full for the certificate and then for the key, before both are written. -/
def fullDiskAtFirst : List Call :=
  [{ generated := some ⟨[1, 1], [2]⟩, certWrite := .failed noSpace (some [1]) },
    { generated := some ⟨[3], [4]⟩, keyWrite := .failed noSpace none },
    { generated := some ⟨[5], [6]⟩ }, { generated := none }]

theorem same_generation_reload :
    ∃ final, run (Store.call ⟨fun _ => .ok none, fun _ => .ok []⟩ ⟨[], "key.der"⟩
        ⟨[], "cert.der"⟩) { files := FileSystem.empty } fullDiskAtFirst = some final ∧
      final.results =
        [.returned (.error (.context "failed to write certificate" (.io (.reported noSpace)))),
          .returned (.error (.context "failed to write private key" (.io (.reported noSpace)))),
          .returned (.ok ([[5]], [6])), .returned (.ok ([[5]], [6]))] ∧
      final.SamePair := by
  refine ⟨_, rfl, by decide, ?_⟩
  have clean : ∀ call ∈ fullDiskAtFirst, call.KeyWriteClean := by
    simp [fullDiskAtFirst, Call.KeyWriteClean]
  exact same_generation (by decide) (by decide) (by decide) clean rfl

/-- A key write that fails and leaves an empty file is loaded by the next call. -/
theorem other_generation :
    ∃ final, run (Store.call ⟨fun _ => .ok none, fun _ => .ok []⟩ ⟨[], "key.der"⟩
        ⟨[], "cert.der"⟩) { files := FileSystem.empty }
        [{ generated := some ⟨[1], [2]⟩
           keyWrite := .failed noSpace (some []) },
          { generated := none }] = some final ∧
      .returned (.ok ([[1]], [])) ∈ final.results ∧ ¬ final.SamePair := by
  refine ⟨_, rfl, by decide, ?_⟩
  intro same
  obtain ⟨pair, drawn, _, key⟩ := same [[1]] [] (by decide)
  have only : pair = ⟨[1], [2]⟩ := List.mem_singleton.mp drawn
  subst only
  cases key

/-! What is generated is written in DER and loaded by the extension of each path. -/

def Call.Clean (call : Call) : Prop :=
  call.certWrite = .written ∧ call.keyWrite = .written ∧
    call.keyRead = none ∧ call.certRead = none

/-- The first call and any later ones return the same chain and key. -/
def RoundTrip (pem : PemFile) (keyPath certPath : PathBuf) (files : FileSystem)
    (first : Call) : Prop :=
  ∃ chain key, ∀ later : List Call, (∀ call ∈ first :: later, call.Clean) →
    ∀ final, run (Store.call pem keyPath certPath) { files := files } (first :: later) =
        some final →
      ∀ outcome ∈ final.results, outcome = .returned (.ok (chain, key))

theorem parse_der (derKey : keyPath.extension = some "der")
    (derCert : certPath.extension = some "der") (pair : CertifiedKey) :
    parseKey pem keyPath pair.key = .ok pair.key ∧
      parseCertChain pem certPath pair.cert = .ok [pair.cert] := by
  rw [parseKey, parseCertChain, if_pos derKey, if_pos derCert]
  exact ⟨rfl, rfl⟩

private theorem loadQuicCert_clean {files : FileSystem} {call : Call} {pair : CertifiedKey}
    (clean : call.Clean) (keyThere : files keyPath = some pair.key)
    (certThere : files certPath = some pair.cert) :
    loadQuicCert pem keyPath certPath files call =
      match parseKey pem keyPath pair.key with
      | .error error => .error error
      | .ok key =>
          match parseCertChain pem certPath pair.cert with
          | .error error => .error error
          | .ok certChain => .ok (certChain, key) := by
  obtain ⟨_, _, keyRead, certRead⟩ := clean
  simp only [loadQuicCert, FileSystem.read, keyRead, certRead, keyThere, certThere]

/-- Both files hold the pair and everything returned so far is that pair. -/
structure Store.Kept (pair : CertifiedKey) (keyPath certPath : PathBuf) (store : Store) :
    Prop where
  keyThere : store.files keyPath = some pair.key
  certThere : store.files certPath = some pair.cert
  same : ∀ outcome ∈ store.results, outcome = .returned (.ok ([pair.cert], pair.key))

private theorem kept_first (distinct : keyPath ≠ certPath) {files : FileSystem} {call : Call}
    {pair : CertifiedKey} (missing : files keyPath = none) (clean : call.Clean)
    (drawn : call.generated = some pair) :
    ∃ store, Store.call pem keyPath certPath { files := files } call = some store ∧
      store.Kept pair keyPath certPath ∧
      .returned (.ok ([pair.cert], pair.key)) ∈ store.results := by
  have unstored : ¬ Stored keyPath certPath files := fun stored => stored.1 missing
  have generated : generateQuicCert keyPath certPath files call =
      (.returned (.ok ([pair.cert], pair.key)),
        Function.update (Function.update files certPath (some pair.cert)) keyPath
          (some pair.key)) := by
    obtain ⟨certWritten, keyWritten, _, _⟩ := clean
    simp only [generateQuicCert, drawn, certWritten, keyWritten, FileSystem.write]
  refine ⟨_, rfl, ⟨?_, ?_, ?_⟩, ?_⟩
  · simp [loadOrGenerateQuicCert, unstored, generated]
  · simp [loadOrGenerateQuicCert, unstored, generated, Function.update_of_ne distinct.symm]
  · simp [loadOrGenerateQuicCert, unstored, generated]
  · simp [loadOrGenerateQuicCert, unstored, generated]

private theorem call_stored {store : Store} {call : Call} {pair : CertifiedKey}
    (kept : store.Kept pair keyPath certPath) :
    Store.call pem keyPath certPath store call =
      some { store with
        results := store.results ++
          [.returned (loadQuicCert pem keyPath certPath store.files call)] } := by
  have stored : Stored keyPath certPath store.files := by
    refine ⟨?_, ?_⟩
    · simp [kept.keyThere]
    · simp [kept.certThere]
  simp only [Store.call, loadOrGenerateQuicCert, if_pos stored]

theorem kept_step (derKey : keyPath.extension = some "der")
    (derCert : certPath.extension = some "der") {store next : Store} {call : Call}
    {pair : CertifiedKey} (clean : call.Clean) (kept : store.Kept pair keyPath certPath)
    (taken : store.call pem keyPath certPath call = some next) :
    next.Kept pair keyPath certPath := by
  rw [call_stored kept] at taken
  cases taken
  obtain ⟨key, cert⟩ := @parse_der pem _ _ derKey derCert pair
  refine ⟨kept.keyThere, kept.certThere, List.forall_mem_append.mpr ⟨kept.same, ?_⟩⟩
  rw [List.forall_mem_singleton, loadQuicCert_clean clean kept.keyThere kept.certThere,
    key, cert]

private theorem reload (distinct : keyPath ≠ certPath) {files : FileSystem} {first : Call}
    {pair : CertifiedKey} (missing : files keyPath = none) (clean : first.Clean)
    (drawn : first.generated = some pair)
    (trip : RoundTrip pem keyPath certPath files first) :
    (match parseKey pem keyPath pair.key with
      | .error error => .error error
      | .ok key =>
          match parseCertChain pem certPath pair.cert with
          | .error error => .error error
          | .ok certChain => .ok (certChain, key)) =
      (.ok ([pair.cert], pair.key) : Except Error (List Bytes × Bytes)) := by
  obtain ⟨chain, key, every⟩ := trip
  obtain ⟨store, called, kept, returned⟩ :=
    @kept_first pem _ _ distinct files first pair missing clean drawn
  obtain ⟨again, second⟩ : ∃ call : Call, call.Clean :=
    ⟨{ generated := none }, rfl, rfl, rfl, rfl⟩
  have called_again := @call_stored pem _ _ store again pair kept
  have outcomes := every [again]
    (List.forall_mem_cons.mpr ⟨clean, List.forall_mem_singleton.mpr second⟩) _
    (run_cons_eq_some.mpr ⟨store, called, run_singleton_eq_some.mpr called_again⟩)
  have generated := outcomes _ (List.mem_append_left _ returned)
  have loaded := outcomes _ (List.mem_append_right _ (List.mem_singleton_self _))
  rw [← loadQuicCert_clean second kept.keyThere kept.certThere]
  exact Outcome.returned.inj (loaded.trans generated.symm)

/-- For names that can be generated for, and with every file operation succeeding, what is
generated is what is loaded again if and only if both paths end in `.der`. -/
theorem round_trip_iff (distinct : keyPath ≠ certPath) {files : FileSystem} {first : Call}
    (missing : files keyPath = none ∧ files certPath = none) (clean : first.Clean)
    (binary : ∀ pair, first.generated = some pair →
      pem.privateKey pair.key = .ok none ∧ pem.certs pair.cert = .ok []) :
    RoundTrip pem keyPath certPath files first ↔
      first.generated ≠ none ∧ keyPath.extension = some "der" ∧
        certPath.extension = some "der" := by
  constructor
  · intro trip
    cases drawn : first.generated with
    | none =>
        obtain ⟨chain, key, every⟩ := trip
        have unstored : ¬ Stored keyPath certPath files := fun stored => stored.1 missing.1
        have panicked : Store.call pem keyPath certPath { files := files } first =
            some { files := files, results := [.panicked] } := by
          simp [Store.call, loadOrGenerateQuicCert, unstored, generateQuicCert, drawn]
        have outcomes := every [] (List.forall_mem_singleton.mpr clean) _
          (run_singleton_eq_some.mpr panicked)
        exact nomatch outcomes _ (List.mem_singleton_self _)
    | some pair =>
        obtain ⟨noKey, noCert⟩ := binary pair drawn
        have loaded := reload distinct missing.1 clean drawn trip
        unfold parseKey parseCertChain at loaded
        refine ⟨Option.some_ne_none _, ?_, ?_⟩
        · by_contra other
          simp [other, noKey] at loaded
        · by_contra other
          by_cases derKey : keyPath.extension = some "der"
          · simp [derKey, other, noCert] at loaded
          · simp [derKey, noKey] at loaded
  · rintro ⟨drawn, derKey, derCert⟩
    obtain ⟨pair, drawn⟩ := Option.ne_none_iff_exists'.mp drawn
    refine ⟨[pair.cert], pair.key, ?_⟩
    intro later clean final ran
    rw [List.forall_mem_cons] at clean
    obtain ⟨store, called, rest⟩ := run_cons_eq_some.mp ran
    obtain ⟨store', called', kept, _⟩ :=
      @kept_first pem _ _ distinct files first pair missing.1 clean.1 drawn
    obtain rfl := Option.some.inj (called.symm.trans called')
    have invariant := run_invariant_of_forall Call.Clean (Store.Kept pair keyPath certPath)
      (fun _ _ _ allowed holds taken => kept_step derKey derCert allowed holds taken)
      kept clean.2 rest
    exact invariant.same

theorem round_trip_der :
    RoundTrip ⟨fun _ => .ok none, fun _ => .ok []⟩ ⟨[], "key.der"⟩ ⟨[], "cert.der"⟩
      FileSystem.empty { generated := some ⟨[1], [2]⟩ } :=
  (round_trip_iff (by decide) ⟨rfl, rfl⟩ ⟨rfl, rfl, rfl, rfl⟩
    fun _ _ => ⟨rfl, rfl⟩).mpr ⟨by decide, by decide, by decide⟩

/-- The key that was written in DER is looked for in PEM. -/
theorem no_round_trip_pem :
    ¬ RoundTrip ⟨fun _ => .ok none, fun _ => .ok []⟩ ⟨[], "key.pem"⟩ ⟨[], "cert.pem"⟩
      FileSystem.empty { generated := some ⟨[1], [2]⟩ } := by
  intro trip
  have distinct : (⟨[], "key.pem"⟩ : PathBuf) ≠ ⟨[], "cert.pem"⟩ := by decide
  have extension : (⟨[], "key.pem"⟩ : PathBuf).extension ≠ some "der" := by decide
  have loaded := reload distinct rfl ⟨rfl, rfl, rfl, rfl⟩ rfl trip
  simp [parseKey, extension] at loaded

end Calls

end PortRedirect.Quic
