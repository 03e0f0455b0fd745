import PortRedirect.Text.Split
import PortRedirect.Text.Trim

namespace PortRedirect.StressTest

universe u

/-! What `monitor_stats` writes to the log file.  The handler of the console comes first,
and its formatter changes the record that the handler of the file formats next. -/

/-- The numbers of one direction of a report. -/
structure DirectionMetrics (α : Type u) where
  mb : α
  pct : α
  min : α
  max : α
  avg : α
deriving DecidableEq, Repr

structure TransferMetrics (α : Type u) where
  up : DirectionMetrics α
  down : DirectionMetrics α
deriving DecidableEq, Repr

inductive LogLevel where
  | info
  | error
deriving DecidableEq, Repr

def LogLevel.name : LogLevel → String
  | .info => "INFO"
  | .error => "ERROR"

structure LogRecord where
  funcName : String
  level : LogLevel
  msg : List Char
deriving DecidableEq, Repr

namespace ColoredFormatter

def red : List Char := "\x1b[31m".toList
def green : List Char := "\x1b[32m".toList
def yellow : List Char := "\x1b[33m".toList
def blue : List Char := "\x1b[34m".toList
def magenta : List Char := "\x1b[35m".toList
def cyan : List Char := "\x1b[36m".toList
def white : List Char := "\x1b[37m".toList
def reset : List Char := "\x1b[0m".toList

def functionColor (funcName : String) : List Char :=
  match funcName with
  | "send_blocks" => blue
  | "receive_blocks" => magenta
  | "exercise_connection" => cyan
  | "worker" | "run_workers" => green
  | "handle_connection" => yellow
  | "tcp_listener" => white
  | _ => cyan

/-- The message that the formatter leaves in the record. -/
def format (record : LogRecord) : LogRecord :=
  let funcColor :=
    if record.level = .error then red
    else if record.funcName = "monitor_stats" then []
    else functionColor record.funcName
  { record with msg := funcColor ++ record.msg ++ reset }

end ColoredFormatter

open ColoredFormatter

/-- The line of a record in the log file. -/
def fileLine (asctime : List Char) (record : LogRecord) : List Char :=
  asctime ++ " ".toList ++ record.level.name.toList ++ ": ".toList ++
    (ColoredFormatter.format record).msg ++ "\n".toList

/-- A part of an f-string. -/
inductive Fragment where
  | color (code : List Char)
  | text (chars : List Char)

def Fragment.chars : Fragment → List Char
  | .color code => code
  | .text chars => chars

def Fragment.plain : Fragment → List Char
  | .color _ => []
  | .text chars => chars

def directionFragments (name : String) (metrics : DirectionMetrics (List Char)) : List Fragment :=
  [.color red, .text name.toList, .color reset, .text " ".toList, .text metrics.mb,
    .text " MB transferred (".toList, .text metrics.pct,
    .text "% complete) | Speed: min: ".toList, .color green, .text metrics.min, .color reset,
    .text " MB/s, max: ".toList, .color green, .text metrics.max, .color reset,
    .text " MB/s, avg: ".toList, .color yellow, .text metrics.avg, .color reset,
    .text " MB/s".toList]

def monitorFragments (metrics : TransferMetrics (List Char)) : List Fragment :=
  directionFragments "UP:" metrics.up ++ (.text " || ".toList ::
    (directionFragments "DOWN:" metrics.down ++ [.color reset]))

/-- The report, given the texts of its numbers. -/
def monitorMessage (metrics : TransferMetrics (List Char)) : List Char :=
  (monitorFragments metrics).flatMap Fragment.chars

def monitorRecord (metrics : TransferMetrics (List Char)) : LogRecord where
  funcName := "monitor_stats"
  level := .info
  msg := monitorMessage metrics

/-! `ansi_escape.sub("", line)` of the data cruncher. -/

/-- The length of the escape sequence that a text begins with, if it does.  The three
classes of characters have none in common. -/
def escapeLength : List Char → Option Nat
  | '\x1b' :: '[' :: rest =>
      let parameters := rest.takeWhile fun char => '0' ≤ char && char ≤ '?'
      let rest := rest.dropWhile fun char => '0' ≤ char && char ≤ '?'
      let intermediates := rest.takeWhile fun char => ' ' ≤ char && char ≤ '/'
      match rest.dropWhile fun char => ' ' ≤ char && char ≤ '/' with
      | final :: _ =>
          if '@' ≤ final && final ≤ '~' then
            some (2 + parameters.length + intermediates.length + 1)
          else none
      | [] => none
  | _ => none

def removeEscapesFrom : Nat → List Char → List Char
  | _, [] => []
  | skip + 1, _ :: rest => removeEscapesFrom skip rest
  | 0, char :: rest =>
      match escapeLength (char :: rest) with
      | some length => removeEscapesFrom (length - 1) rest
      | none => char :: removeEscapesFrom 0 rest

def removeEscapes (text : List Char) : List Char := removeEscapesFrom 0 text

theorem removeEscapesFrom_skip (front rest : List Char) :
    removeEscapesFrom front.length (front ++ rest) = removeEscapes rest := by
  induction front with
  | nil => rfl
  | cons char front ih => exact ih

theorem removeEscapes_append_plain {front : List Char} (plain : '\x1b' ∉ front)
    (rest : List Char) : removeEscapes (front ++ rest) = front ++ removeEscapes rest := by
  induction front with
  | nil => rfl
  | cons char front ih =>
      rw [List.mem_cons, not_or] at plain
      have none : escapeLength (char :: (front ++ rest)) = none := by
        unfold escapeLength
        split
        · rename_i same
          exact absurd (List.head_eq_of_cons_eq same).symm plain.1
        · rfl
      rw [List.cons_append, removeEscapes, removeEscapesFrom, none]
      exact congrArg (char :: ·) (ih plain.2)

/-- A sequence that the formatter uses. -/
theorem removeEscapes_append_color {color : List Char}
    (known : color ∈ [red, green, yellow, reset]) (rest : List Char) :
    removeEscapes (color ++ rest) = removeEscapes rest := by
  have skipped (digits : List Char)
      (length : escapeLength ('\x1b' :: ('[' :: digits ++ ['m'] ++ rest)) =
        some (digits.length + 3)) :
      removeEscapes (('\x1b' :: '[' :: digits ++ ['m']) ++ rest) = removeEscapes rest := by
    have dropped := removeEscapesFrom_skip ('[' :: digits ++ ['m']) rest
    rw [List.cons_append, List.cons_append, removeEscapes, removeEscapesFrom]
    simp only [List.cons_append] at length dropped ⊢
    rw [length]
    simpa using dropped
  simp only [List.mem_cons, List.not_mem_nil, or_false] at known
  rcases known with rfl | rfl | rfl | rfl
  · exact skipped ['3', '1'] rfl
  · exact skipped ['3', '2'] rfl
  · exact skipped ['3', '3'] rfl
  · exact skipped ['0'] rfl

def Fragment.Known : Fragment → Prop
  | .color code => code ∈ [red, green, yellow, reset]
  | .text chars => '\x1b' ∉ chars

theorem removeEscapes_fragments {fragments : List Fragment}
    (known : ∀ fragment ∈ fragments, fragment.Known)
    (rest : List Char) :
    removeEscapes (fragments.flatMap Fragment.chars ++ rest) =
      fragments.flatMap Fragment.plain ++ removeEscapes rest := by
  induction fragments with
  | nil => rfl
  | cons fragment fragments ih =>
      rw [List.forall_mem_cons] at known
      rw [List.flatMap_cons, List.flatMap_cons, List.append_assoc, List.append_assoc]
      cases fragment with
      | color code =>
          rw [Fragment.chars, removeEscapes_append_color known.1, ih known.2]
          rfl
      | text chars =>
          rw [Fragment.chars, removeEscapes_append_plain known.1, ih known.2, Fragment.plain]

end PortRedirect.StressTest
