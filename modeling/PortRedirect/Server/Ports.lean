import Mathlib.Data.UInt
import PortRedirect.Text.Trim

namespace PortRedirect.Server

open PortRedirect.Text

/-! Port specifications of the command line and what they allow. -/

inductive ParseIntError where
  | empty
  | invalidDigit
  | posOverflow
deriving DecidableEq, Repr

def ParseIntError.display : ParseIntError → String
  | .empty => "cannot parse integer from empty string"
  | .invalidDigit => "invalid digit found in string"
  | .posOverflow => "number too large to fit in target type"

/-- The digits of a `u16`, most significant first. -/
def parseDigits : UInt16 → List Char → Except ParseIntError UInt16
  | number, [] => .ok number
  | number, char :: chars =>
      if char.isDigit then
        let extended := 10 * number.toNat + (char.toNat - '0'.toNat)
        if extended < 2 ^ 16 then parseDigits (UInt16.ofNat extended) chars
        else .error .posOverflow
      else
        .error .invalidDigit

def parseU16 (text : String) : Except ParseIntError UInt16 :=
  match text.toList with
  | [] => .error .empty
  | ['+'] | ['-'] => .error .invalidDigit
  | '+' :: digits => parseDigits 0 digits
  | digits => parseDigits 0 digits

def splitOnce (text : String) (separator : Char) : Option (String × String) :=
  let front := text.toList.takeWhile (· != separator)
  match text.toList.dropWhile (· != separator) with
  | [] => none
  | _ :: back => some (String.ofList front, String.ofList back)

inductive PortSpec where
  | single (port : UInt16)
  | range (first last : UInt16)
deriving DecidableEq, Repr

namespace PortSpec

def fromStr (text : String) : Except String PortSpec :=
  let text := trim text
  match splitOnce text '-' with
  | some (first, last) =>
      match parseU16 (trim first) with
      | .error error => .error ("Invalid start port: " ++ error.display)
      | .ok first =>
          match parseU16 (trim last) with
          | .error error => .error ("Invalid end port: " ++ error.display)
          | .ok last =>
              if last < first then
                .error ("Invalid range: " ++ toString first.toNat ++ "-" ++
                  toString last.toNat)
              else
                .ok (.range first last)
  | none =>
      match parseU16 text with
      | .error error => .error ("Invalid port: " ++ error.display)
      | .ok port => .ok (.single port)

def allows (spec : PortSpec) (port : UInt16) : Bool :=
  match spec with
  | .single allowed => port == allowed
  | .range first last => decide (first ≤ port) && decide (port ≤ last)

end PortSpec

def allows (specs : List PortSpec) (port : UInt16) : Bool :=
  specs.any fun spec => spec.allows port

/-- `--allowed-client-ports`, which the command line parser has split at commas. -/
def parseAllowedClientPorts (texts : Option (List String)) :
    Except String (Option (List PortSpec)) :=
  match texts with
  | none => .ok none
  | some texts => (texts.mapM PortSpec.fromStr).map some

/-- The list that `main` assembles, together with the deprecated `--local-port`. -/
def allowedClientPorts (specs : Option (List PortSpec)) (localPort : Option UInt16) :
    Except String (List PortSpec) :=
  let allowed :=
    match localPort with
    | some localPort => specs.getD [] ++ [.single localPort]
    | none => specs.getD []
  if allowed = [] then .error "--allowed-client-ports is required" else .ok allowed

end PortRedirect.Server
