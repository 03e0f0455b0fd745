import Mathlib.Data.UInt
import PortRedirect.Text.Digits

namespace PortRedirect.Net

open PortRedirect.Text

/-! `std::net`'s addresses, how they are displayed and how they are parsed. -/

structure Ipv4Addr where
  a : UInt8
  b : UInt8
  c : UInt8
  d : UInt8
deriving DecidableEq, Repr

structure Ipv6Addr where
  segments : Vector UInt16 8
deriving DecidableEq, Repr

inductive IpAddr where
  | v4 (addr : Ipv4Addr)
  | v6 (addr : Ipv6Addr)
deriving DecidableEq, Repr

/-! `Display`. -/

def Ipv4Addr.chars (addr : Ipv4Addr) : List Char :=
  Nat.toDigits 10 addr.a.toNat ++ '.' :: (Nat.toDigits 10 addr.b.toNat ++
    '.' :: (Nat.toDigits 10 addr.c.toNat ++ '.' :: Nat.toDigits 10 addr.d.toNat))

def Ipv6Addr.groups (addr : Ipv6Addr) : List Nat := addr.segments.toList.map UInt16.toNat

/-- The two bytes of each group. -/
def embeddedIpv4 (high low : Nat) : Ipv4Addr where
  a := UInt8.ofNat (high / 256)
  b := UInt8.ofNat high
  c := UInt8.ofNat (low / 256)
  d := UInt8.ofNat low

def Ipv6Addr.toIpv4Mapped (addr : Ipv6Addr) : Option Ipv4Addr :=
  match addr.groups with
  | [0, 0, 0, 0, 0, 0xffff, high, low] => some (embeddedIpv4 high low)
  | _ => none

structure Span where
  start : Nat := 0
  len : Nat := 0
deriving DecidableEq, Repr

/-- The loop over the segments that looks for the longest run of zeroes. -/
def longestZeroes : List Nat → Nat → Span → Span → Span
  | [], _, longest, _ => longest
  | segment :: segments, index, longest, current =>
      if segment = 0 then
        let current :=
          { start := if current.len = 0 then index else current.start
            len := current.len + 1 }
        let longest := if longest.len < current.len then current else longest
        longestZeroes segments (index + 1) longest current
      else longestZeroes segments (index + 1) longest {}

def fmtSubslice : List Nat → List Char
  | [] => []
  | first :: tail =>
      Nat.toDigits 16 first ++ tail.flatMap fun segment => ':' :: Nat.toDigits 16 segment

def Ipv6Addr.chars (addr : Ipv6Addr) : List Char :=
  match addr.toIpv4Mapped with
  | some ipv4 => "::ffff:".toList ++ ipv4.chars
  | none =>
      let zeroes := longestZeroes addr.groups 0 {} {}
      if 1 < zeroes.len then
        fmtSubslice (addr.groups.take zeroes.start) ++ "::".toList ++
          fmtSubslice (addr.groups.drop (zeroes.start + zeroes.len))
      else fmtSubslice addr.groups

def IpAddr.chars : IpAddr → List Char
  | .v4 addr => addr.chars
  | .v6 addr => addr.chars

def IpAddr.display (addr : IpAddr) : String := String.ofList addr.chars

structure SocketAddr where
  ip : IpAddr
  port : UInt16
deriving DecidableEq, Repr

def SocketAddr.display (socket : SocketAddr) : String :=
  match socket.ip with
  | .v4 _ => socket.ip.display ++ ":" ++ decimal socket.port.toNat
  | .v6 _ => "[" ++ socket.ip.display ++ "]:" ++ decimal socket.port.toNat

/-! The parser of `FromStr`: each reader takes a front of the input and leaves the rest. -/

/-- `char::to_digit`. -/
def toDigit (radix : Nat) (char : Char) : Option Nat :=
  let digit :=
    if '0' ≤ char ∧ char ≤ '9' then char.toNat - '0'.toNat
    else if 'a' ≤ char ∧ char ≤ 'z' then char.toNat - 'a'.toNat + 10
    else if 'A' ≤ char ∧ char ≤ 'Z' then char.toNat - 'A'.toNat + 10
    else radix
  if digit < radix then some digit else none

def readDigits (radix : Nat) : List Char → List Nat × List Char
  | [] => ([], [])
  | char :: input =>
      match toDigit radix char with
      | none => ([], char :: input)
      | some digit =>
          let (digits, rest) := readDigits radix input
          (digit :: digits, rest)

def readNumber (radix maxDigits bound : Nat) (allowZeroPrefix : Bool) (input : List Char) :
    Option (Nat × List Char) :=
  let (digits, rest) := readDigits radix input
  if digits = [] ∨ maxDigits < digits.length then none
  else if allowZeroPrefix = false ∧ digits.head? = some 0 ∧ 1 < digits.length then none
  else
    let result := digits.foldl (fun result digit => result * radix + digit) 0
    if result < bound then some (result, rest) else none

/-- What `inner` reads, behind a separator unless it is the first to be read. -/
def readSeparator {α : Type} (separator : Char) (index : Nat)
    (inner : List Char → Option (α × List Char)) (input : List Char) :
    Option (α × List Char) :=
  if 0 < index then
    match input with
    | char :: rest => if char = separator then inner rest else none
    | [] => none
  else inner input

/-- One octet, with no zero in front of it. -/
def readOctet (index : Nat) : List Char → Option (Nat × List Char) :=
  readSeparator '.' index (readNumber 10 3 256 false)

def readIpv4Addr (input : List Char) : Option (Ipv4Addr × List Char) :=
  match readOctet 0 input with
  | none => none
  | some (a, input) =>
      match readOctet 1 input with
      | none => none
      | some (b, input) =>
          match readOctet 2 input with
          | none => none
          | some (c, input) =>
              match readOctet 3 input with
              | none => none
              | some (d, rest) =>
                  some (⟨UInt8.ofNat a, UInt8.ofNat b, UInt8.ofNat c, UInt8.ofNat d⟩, rest)

/-- The groups up to a limit, whether an IPv4 address has ended them, and the rest. -/
def readGroups : Nat → Nat → List Char → List Nat × Bool × List Char
  | 0, _, input => ([], false, input)
  | left + 1, index, input =>
      -- an embedded IPv4 address takes two groups
      match if 0 < left then readSeparator ':' index readIpv4Addr input else none with
      | some (ipv4, rest) =>
          ([ipv4.a.toNat * 256 + ipv4.b.toNat, ipv4.c.toNat * 256 + ipv4.d.toNat], true, rest)
      | none =>
          match readSeparator ':' index (readNumber 16 4 65536 true) input with
          | none => ([], false, input)
          | some (group, rest) =>
              let (groups, ipv4, rest) := readGroups left (index + 1) rest
              (group :: groups, ipv4, rest)

def Ipv6Addr.ofGroups (groups : List Nat) : Ipv6Addr where
  segments := Vector.ofFn fun index => UInt16.ofNat (groups.getD index 0)

def readIpv6Addr (input : List Char) : Option (Ipv6Addr × List Char) :=
  let (head, headIpv4, rest) := readGroups 8 0 input
  if head.length = 8 then some (.ofGroups head, rest)
  else if headIpv4 then none
  else
    match rest with
    | ':' :: ':' :: rest =>
        let (tail, _, rest) := readGroups (8 - (head.length + 1)) 0 rest
        some (.ofGroups (head ++ List.replicate (8 - head.length - tail.length) 0 ++ tail),
          rest)
    | _ => none

/-- `IpAddr::from_str`: the whole text is one address, IPv4 being tried first. -/
def IpAddr.fromStr (text : String) : Option IpAddr :=
  match readIpv4Addr text.toList with
  | some (addr, rest) => if rest = [] then some (.v4 addr) else none
  | none =>
      match readIpv6Addr text.toList with
      | some (addr, rest) => if rest = [] then some (.v6 addr) else none
      | none => none

end PortRedirect.Net
