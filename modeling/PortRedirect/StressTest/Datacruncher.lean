import Mathlib.Data.List.DropRight
import PortRedirect.StressTest.MonitorLog

namespace PortRedirect.StressTest

open PortRedirect.Text

/-! `cst_datacruncher.py`: how it reads the log files of the stress test. -/

/-- What it uses of the Python library. -/
structure Python (Time Number : Type) where
  /-- `\d`: the Unicode decimal digits. -/
  isDecimal : Char → Bool
  isDecimal_ascii : ∀ char, char.val ≤ 127 → isDecimal char = char.isDigit
  float : List Char → Option Number
  /-- `datetime.strptime` with the format of the log. -/
  strptime : List Char → Option Time

/-- `str.isspace`, and `\s`. -/
def isSpace (char : Char) : Bool :=
  isWhitespace char || (0x1C ≤ char.toNat && char.toNat ≤ 0x1F)

def strip (text : List Char) : List Char := (text.dropWhile isSpace).rdropWhile isSpace

/-- `str.find` of one character. -/
def find (char : Char) (text : List Char) : Int :=
  match text.idxOf? char with
  | some index => index
  | none => -1

/-- `text[start:stop]`; a negative index counts from the end. -/
def slice (text : List Char) (start stop : Int) : List Char :=
  let clip (index : Int) : Nat :=
    if index < 0 then (index + text.length).toNat else min index.toNat text.length
  (text.take (clip stop)).drop (clip start)

def contains (part text : List Char) : Bool := decide (part <:+: text)

section Parse

variable {Time Number : Type} (python : Python Time Number)

def parseFilename (filename : List Char) : Option (List Char × List Char × List Char) :=
  let base := filename.rtakeWhile (· != '/')
  match splitOn "_".toList base with
  | _ :: mode :: concurrency :: transfersize :: _ =>
      some (mode, concurrency, ((splitOn ".".toList transfersize).head?).getD [])
  | _ => none

/-- `float(part.split(label)[1].strip().split(" ")[0])`. -/
def parseSpeed (label : String) (part : List Char) : Option Number := do
  let rest ← (splitOn label.toList part)[1]?
  let text ← (splitOn " ".toList (strip rest))[0]?
  python.float text

/-- The section of one direction, with its name. -/
def parseDirection (name : String) (part : List Char) : Option (DirectionMetrics Number) := do
  let pieces := splitOn "MB transferred".toList part
  let front ← pieces[0]?
  let mbStr ← (splitOn name.toList front)[1]?
  let mb ← python.float (strip mbStr)
  let pctSection ← pieces[1]?
  let start := find '(' pctSection
  let stop := find '%' pctSection
  let pct ← python.float (strip (slice pctSection (start + 1) stop))
  let speedSection ← (splitOn "|".toList part).getLast?
  let speedSection ←
    if contains "Speed:".toList speedSection then
      (splitOn "Speed:".toList speedSection)[1]?
    else some speedSection
  let speedParts := splitOn ",".toList speedSection
  let min ← parseSpeed python "min:" (← speedParts[0]?)
  let max ← parseSpeed python "max:" (← speedParts[1]?)
  let avg ← parseSpeed python "avg:" (← speedParts[2]?)
  return { mb := mb, pct := pct, min := min, max := max, avg := avg }

def parseTransferMetrics (message : List Char) : Option (TransferMetrics Number) :=
  match splitOn "||".toList message with
  | up :: down :: _ => do
      let up ← parseDirection python "UP:" (strip up)
      let down ← parseDirection python "DOWN:" (strip down)
      return { up := up, down := down }
  | _ => none

/-- A text that begins in a shape, where `d` stands for a decimal digit, and what follows
it. -/
def matchShape : List Char → List Char → Option (List Char × List Char)
  | [], rest => some ([], rest)
  | _ :: _, [] => none
  | place :: shape, char :: rest =>
      if (if place = 'd' then python.isDecimal char else char = place) then
        (matchShape shape rest).map fun (front, rest) => (char :: front, rest)
      else none

structure LogLine where
  timestamp : List Char
  level : List Char
  message : List Char
deriving DecidableEq, Repr

/-- `log_line_re`.  The level is what stands before the last character of its word, for
white space must follow the colon. -/
def matchLogLine (line : List Char) : Option LogLine := do
  let (front, rest) ← matchShape python "dddd-dd-dd dd:dd:dd,".toList line
  let fraction := rest.takeWhile python.isDecimal
  let rest := rest.dropWhile python.isDecimal
  let word := (rest.dropWhile isSpace).takeWhile fun char => !isSpace char
  let after := (rest.dropWhile isSpace).dropWhile fun char => !isSpace char
  let message := after.dropWhile isSpace
  if fraction ≠ [] ∧ (rest.head?.any isSpace) ∧ 2 ≤ word.length ∧
      word.getLast? = some ':' ∧ after ≠ [] ∧ '\n' ∉ message then
    some { timestamp := front ++ fraction, level := word.dropLast, message := message }
  else none

structure LogEntry (Time Number : Type) where
  timestamp : Time
  level : List Char
  message : List Char
  file : List Char
  test : Option (List Char × List Char × List Char)
  event : String := "message"
  metrics : Option (TransferMetrics Number) := none

def parseLine (filepath line : List Char) : Option (LogEntry Time Number) :=
  let cleanLine := strip (removeEscapes line)
  if cleanLine = [] then none
  else do
    let logLine ← matchLogLine python cleanLine
    let timestamp ← python.strptime logLine.timestamp
    let entry : LogEntry Time Number :=
      { timestamp := timestamp
        level := logLine.level
        message := logLine.message
        file := filepath.rtakeWhile (· != '/')
        test := parseFilename filepath }
    if contains "UP:".toList logLine.message ∧ contains "DOWN:".toList logLine.message then
      match parseTransferMetrics python logLine.message with
      | some metrics => return { entry with event := "transfer", metrics := some metrics }
      | none => return entry
    else return entry

/-- The entries of a file, given its lines. -/
def parseLogFile (filepath : List Char) (lines : List (List Char)) :
    List (LogEntry Time Number) :=
  lines.filterMap (parseLine python filepath)

end Parse

end PortRedirect.StressTest
