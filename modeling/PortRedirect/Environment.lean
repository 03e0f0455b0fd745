import PortRedirect.Net.IpAddr
import PortRedirect.Protocol.Basic

namespace PortRedirect

open PortRedirect.Net
open PortRedirect.Protocol

universe u v

/-! What the two programs find around them, and how they end. -/

/-- The answers of the system.  A call that is made several times is given its number,
for it may be answered differently each time. -/
structure Environment where
  /-- `dirs::config_dir`. -/
  configDir : Option (List String)
  createDirAll : Nat → List String → Except String Unit
  /-- `ToSocketAddrs` of a host and a port. -/
  toSocketAddrs : Nat → String → Except String (List SocketAddr)
  /-- `CryptoProvider::install_default`, which fails where one is installed. -/
  installDefault : Bool

/-- Every call succeeds, and every host is this one. -/
def Environment.loopback : Environment where
  configDir := some ["home", ".config"]
  createDirAll _ _ := .ok ()
  toSocketAddrs _ _ := .ok [{ ip := .v4 ⟨127, 0, 0, 1⟩, port := 4433 }]
  installDefault := true

/-- An error of a library call that `?` passes on. -/
def passedOn (error : String) : Error := .io (.reported error)

/-- How `main` ends. -/
inductive Exit where
  | returned (result : Except Error Unit)
  | panicked (message : String)
deriving DecidableEq, Repr

/-- What ends `main` before its last line. -/
inductive EarlyExit where
  | failed (error : Error)
  | panicked (message : String)
deriving DecidableEq, Repr

def EarlyExit.exit : EarlyExit → Exit
  | .failed error => .returned (.error error)
  | .panicked message => .panicked message

/-- `?` in `main`. -/
def passing {α : Type u} (result : Except Error α) : Except EarlyExit α :=
  result.mapError .failed

def expect {α : Type u} (message : String) : Option α → Except EarlyExit α
  | none => .error (.panicked message)
  | some value => .ok value

/-- `get_config_dir`; directories are given by their components. -/
def getConfigDir (environment : Environment) (call : Nat)
    (overrideConfigDir : Option (List String)) : Except Error (List String) := do
  let configDir ←
    match overrideConfigDir, environment.configDir with
    | some overridePath, _ => .ok overridePath
    | none, some configDir => .ok (configDir ++ ["portredirect"])
    | none, none => .error (.message "Failed to find your platform's config directory")
  match environment.createDirAll call configDir with
  | .error error => .error (.context "create config dir" (passedOn error))
  | .ok () => .ok configDir

theorem bind_eq_ok {ε : Type u} {α β : Type v} {source : Except ε α} {next : α → Except ε β}
    {result : β} :
    source >>= next = .ok result ↔ ∃ value, source = .ok value ∧ next value = .ok result := by
  cases source with
  | error error => exact iff_of_false (by rintro ⟨⟩) (by simp)
  | ok value =>
      constructor
      · exact fun goes => ⟨value, rfl, goes⟩
      · rintro ⟨_, ⟨⟩, goes⟩
        exact goes

@[simp] theorem passing_eq_ok {α : Type u} {result : Except Error α} {value : α} :
    passing result = .ok value ↔ result = .ok value := by
  cases result <;> simp [passing, Except.mapError]

@[simp] theorem expect_eq_ok {α : Type u} {message : String} {found : Option α} {value : α} :
    expect message found = .ok value ↔ found = some value := by
  cases found <;> simp [expect]

def hostPort (host : String) (port : UInt16) : String :=
  host ++ ":" ++ Text.decimal port.toNat

end PortRedirect
