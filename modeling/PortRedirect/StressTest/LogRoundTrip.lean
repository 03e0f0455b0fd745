import PortRedirect.StressTest.Datacruncher
import PortRedirect.Text.Digits

namespace PortRedirect.StressTest

open PortRedirect.Text
open ColoredFormatter

/-! What `monitor_stats` has logged, the data cruncher reads back. -/

section Traverse

variable {α β : Type} (f : α → Option β)

def DirectionMetrics.traverse (metrics : DirectionMetrics α) : Option (DirectionMetrics β) := do
  let mb ← f metrics.mb
  let pct ← f metrics.pct
  let min ← f metrics.min
  let max ← f metrics.max
  let avg ← f metrics.avg
  return { mb := mb, pct := pct, min := min, max := max, avg := avg }

def TransferMetrics.traverse (metrics : TransferMetrics α) : Option (TransferMetrics β) := do
  let up ← metrics.up.traverse f
  let down ← metrics.down.traverse f
  return { up := up, down := down }

end Traverse

/-- Digits and points, as in the fixed-point format and more: "." and "1.2.3" as well. -/
structure IsNumeral (text : List Char) : Prop where
  nonempty : text ≠ []
  every : ∀ char ∈ text, char.isDigit = true ∨ char = '.'

structure DirectionMetrics.Numerals (metrics : DirectionMetrics (List Char)) : Prop where
  mb : IsNumeral metrics.mb
  pct : IsNumeral metrics.pct
  min : IsNumeral metrics.min
  max : IsNumeral metrics.max
  avg : IsNumeral metrics.avg

/-- The time of a record. -/
def IsStamp (text : List Char) : Prop :=
  ∃ front fraction, text = front ++ fraction ∧
    List.Forall₂ (fun place char => if place = 'd' then char.isDigit = true else char = place)
      "dddd-dd-dd dd:dd:dd,".toList front ∧
    fraction ≠ [] ∧ ∀ char ∈ fraction, char.isDigit = true

/-! A report without its colors. -/

def plainDirection (name : String) (metrics : DirectionMetrics (List Char)) : List Char :=
  name.toList ++ (" ".toList ++ (metrics.mb ++ (" MB transferred (".toList ++
    (metrics.pct ++ ("% complete) | Speed: min: ".toList ++ (metrics.min ++
      (" MB/s, max: ".toList ++ (metrics.max ++ (" MB/s, avg: ".toList ++ (metrics.avg ++
        " MB/s".toList))))))))))

def plainMessage (metrics : TransferMetrics (List Char)) : List Char :=
  plainDirection "UP:" metrics.up ++ (" || ".toList ++ plainDirection "DOWN:" metrics.down)

namespace IsNumeral

variable {text : List Char} {char : Char}

theorem notMem (numeral : IsNumeral text) (other : char.isDigit = false ∧ char ≠ '.') :
    char ∉ text := by
  intro member
  rcases numeral.every char member with digit | point
  · exact Bool.false_ne_true (other.1.symm.trans digit)
  · exact other.2 point

theorem clear (numeral : IsNumeral text) {first : Char} {others : List Char}
    (other : first.isDigit = false ∧ first ≠ '.') : Clear (first :: others) text :=
  clear_of_notMem (numeral.notMem other)

end IsNumeral

theorem isSpace_of_isDigit {char : Char} (digit : char.isDigit = true) :
    isSpace char = false := by
  simp only [Char.isDigit, Bool.and_eq_true, decide_eq_true_eq, ge_iff_le,
    UInt32.le_iff_toNat_le] at digit
  have bounds : 48 ≤ char.toNat ∧ char.toNat ≤ 57 := digit
  have space : ¬ isSpace char = true := by
    simp only [isSpace, isWhitespace, Bool.or_eq_true, Bool.and_eq_true, decide_eq_true_eq,
      beq_iff_eq]
    omega
  simpa using space

theorem IsNumeral.isSpace {text : List Char} (numeral : IsNumeral text) {char : Char}
    (member : char ∈ text) : isSpace char = false := by
  rcases numeral.every char member with digit | rfl
  · exact isSpace_of_isDigit digit
  · decide

/-! Colors. -/

theorem plain_directionFragments (name : String) (metrics : DirectionMetrics (List Char)) :
    (directionFragments name metrics).flatMap Fragment.plain = plainDirection name metrics := by
  simp only [directionFragments, plainDirection, List.flatMap_cons, List.flatMap_nil,
    Fragment.plain, List.nil_append, List.append_nil]

theorem known_directionFragments {name : String} {metrics : DirectionMetrics (List Char)}
    (named : '\x1b' ∉ name.toList) (numerals : metrics.Numerals) :
    ∀ fragment ∈ directionFragments name metrics, fragment.Known := by
  have plain {text : List Char} (numeral : IsNumeral text) : '\x1b' ∉ text :=
    numeral.notMem (by decide)
  simp only [directionFragments, List.forall_mem_cons, Fragment.Known]
  simp [named, plain numerals.mb, plain numerals.pct, plain numerals.min,
    plain numerals.max, plain numerals.avg]

structure TransferMetrics.Numerals (metrics : TransferMetrics (List Char)) : Prop where
  up : metrics.up.Numerals
  down : metrics.down.Numerals

theorem plain_monitorFragments (metrics : TransferMetrics (List Char)) :
    (monitorFragments metrics).flatMap Fragment.plain = plainMessage metrics := by
  simp only [monitorFragments, plainMessage, List.flatMap_append, List.flatMap_cons,
    List.flatMap_nil, plain_directionFragments, Fragment.plain, List.append_nil]

theorem known_monitorFragments {metrics : TransferMetrics (List Char)}
    (numerals : metrics.Numerals) : ∀ fragment ∈ monitorFragments metrics, fragment.Known := by
  intro fragment member
  rw [monitorFragments, List.mem_append, List.mem_cons, List.mem_append,
    List.mem_singleton] at member
  rcases member with up | rfl | down | rfl
  · exact known_directionFragments (by decide) numerals.up fragment up
  · exact (by decide : '\x1b' ∉ " || ".toList)
  · exact known_directionFragments (by decide) numerals.down fragment down
  · exact (by decide : reset ∈ [red, green, yellow, reset])

/-- The line of a report in the log file, without the escape sequences. -/
theorem removeEscapes_fileLine {stamp : List Char} {metrics : TransferMetrics (List Char)}
    (stamped : '\x1b' ∉ stamp) (numerals : metrics.Numerals) :
    removeEscapes (fileLine stamp (monitorRecord metrics)) =
      stamp ++ (" INFO: ".toList ++ (plainMessage metrics ++ "\n".toList)) := by
  let front : List Fragment := [.text stamp, .text " INFO: ".toList]
  let back : List Fragment := [.color reset, .text "\n".toList]
  have line : fileLine stamp (monitorRecord metrics) =
      (front ++ (monitorFragments metrics ++ back)).flatMap Fragment.chars ++ [] := by
    simp only [fileLine, monitorRecord, ColoredFormatter.format, monitorMessage, front, back,
      List.flatMap_append, List.flatMap_cons, List.flatMap_nil, Fragment.chars,
      List.append_assoc, List.append_nil]
    rfl
  have known : ∀ fragment ∈ front ++ (monitorFragments metrics ++ back), fragment.Known := by
    rw [List.forall_mem_append, List.forall_mem_append]
    refine ⟨?_, known_monitorFragments numerals, ?_⟩
    · simp only [front, List.forall_mem_cons, Fragment.Known]
      exact ⟨stamped, by decide, List.forall_mem_nil _⟩
    · simp only [back, List.forall_mem_cons, Fragment.Known]
      exact ⟨by decide, by decide, List.forall_mem_nil _⟩
  rw [line, removeEscapes_fragments known]
  simp only [front, back, List.flatMap_append, plain_monitorFragments, List.flatMap_cons,
    List.flatMap_nil, Fragment.plain, List.append_assoc, List.nil_append]
  rfl

/-! White space around a text. -/

/-- A text with no white space at its ends. -/
structure Trimmed (text : List Char) : Prop where
  nonempty : text ≠ []
  first : text.head?.any isSpace = false
  last : text.getLast?.any isSpace = false

theorem Trimmed.dropWhile {text : List Char} (trimmed : Trimmed text) (rest : List Char) :
    (text ++ rest).dropWhile isSpace = text ++ rest := by
  cases text with
  | nil => exact absurd rfl trimmed.nonempty
  | cons char text =>
      have solid : isSpace char = false := trimmed.first
      rw [List.cons_append, List.dropWhile_cons_of_neg]
      rw [solid]
      exact Bool.false_ne_true

theorem strip_pad {front text back : List Char} (trimmed : Trimmed text)
    (blank : front.all isSpace = true) (blank' : back.all isSpace = true) :
    strip (front ++ (text ++ back)) = text := by
  have stop : text.rdropWhile isSpace = text := by
    rw [List.rdropWhile_eq_self_iff]
    intro nonempty
    have solid := trimmed.last
    rw [List.getLast?_eq_some_getLast nonempty] at solid
    exact Bool.eq_false_iff.mp solid
  rw [strip, List.dropWhile_append_of_pos (List.all_eq_true.mp blank), trimmed.dropWhile,
    List.rdropWhile, List.reverse_append, List.dropWhile_append_of_pos]
  · exact stop
  · exact fun char member => List.all_eq_true.mp blank' char (List.mem_reverse.mp member)

theorem strip_trimmed {text : List Char} (trimmed : Trimmed text) : strip text = text := by
  have padded : strip ([] ++ (text ++ [])) = text := strip_pad trimmed rfl rfl
  rwa [List.nil_append, List.append_nil] at padded

theorem trimmed_append {front back : List Char} (middle : List Char)
    (first : front ≠ [] ∧ front.head?.any isSpace = false)
    (last : back ≠ [] ∧ back.getLast?.any isSpace = false) :
    Trimmed (front ++ (middle ++ back)) where
  nonempty := List.append_ne_nil_of_left_ne_nil first.1 _
  first := by
    rw [List.head?_append_of_ne_nil _ first.1]
    exact first.2
  last := by
    rw [← List.append_assoc, List.getLast?_append_of_ne_nil _ last.1]
    exact last.2

theorem IsNumeral.trimmed {text : List Char} (numeral : IsNumeral text) : Trimmed text where
  nonempty := numeral.nonempty
  first := by
    rw [List.head?_eq_some_head numeral.nonempty]
    exact numeral.isSpace (List.head_mem numeral.nonempty)
  last := by
    rw [List.getLast?_eq_some_getLast numeral.nonempty]
    exact numeral.isSpace (List.getLast_mem numeral.nonempty)

/-! Each split of the parser, on the text of one direction. -/

section Direction

variable {name : String} {metrics : DirectionMetrics (List Char)}

def speedText (metrics : DirectionMetrics (List Char)) : List Char :=
  " min: ".toList ++ (metrics.min ++ (" MB/s".toList ++ (",".toList ++
    (" max: ".toList ++ (metrics.max ++ (" MB/s".toList ++ (",".toList ++
      (" avg: ".toList ++ (metrics.avg ++ " MB/s".toList)))))))))

theorem plainDirection_eq (name : String) (metrics : DirectionMetrics (List Char)) :
    plainDirection name metrics =
      name.toList ++ (" ".toList ++ (metrics.mb ++ (" ".toList ++ ("MB transferred".toList ++
        (" ".toList ++ ("(".toList ++ (metrics.pct ++ ("%".toList ++ (" complete) ".toList ++
          ("|".toList ++ (" ".toList ++ ("Speed:".toList ++ speedText metrics)))))))))))) := by
  delta plainDirection speedText
  rfl

theorem clear_speedText (numerals : metrics.Numerals) {first : Char} {others : List Char}
    (other : first.isDigit = false ∧ first ≠ '.')
    (clear : Clear (first :: others) " min: ".toList)
    (clear' : Clear (first :: others) " max: ".toList)
    (clear'' : Clear (first :: others) " avg: ".toList)
    (unit : Clear (first :: others) " MB/s".toList)
    (comma : Clear (first :: others) ",".toList) :
    Clear (first :: others) (speedText metrics) :=
  clear.append ((numerals.min.clear other).append (unit.append (comma.append
    (clear'.append ((numerals.max.clear other).append (unit.append (comma.append
      (clear''.append ((numerals.avg.clear other).append unit)))))))))

/-- What stands between the amount and the speeds. -/
def percentText (metrics : DirectionMetrics (List Char)) : List Char :=
  " ".toList ++ ("(".toList ++ (metrics.pct ++ ("%".toList ++ " complete) ".toList)))

theorem split_transferred (named : Clear "MB transferred".toList name.toList)
    (numerals : metrics.Numerals) :
    splitOn "MB transferred".toList (plainDirection name metrics) =
      [name.toList ++ (" ".toList ++ (metrics.mb ++ " ".toList)),
        percentText metrics ++ ("|".toList ++ (" ".toList ++ ("Speed:".toList ++
          speedText metrics)))] := by
  have other : ('M').isDigit = false ∧ 'M' ≠ '.' := by decide
  have front : Clear "MB transferred".toList
      (name.toList ++ (" ".toList ++ (metrics.mb ++ " ".toList))) :=
    named.append ((by decide : Clear _ _).append
      ((numerals.mb.clear other).append (by decide)))
  have percent : Clear "MB transferred".toList (percentText metrics) :=
    (by decide : Clear _ _).append ((by decide : Clear _ _).append
      ((numerals.pct.clear other).append ((by decide : Clear _ _).append (by decide))))
  have speeds : Clear "MB transferred".toList (speedText metrics) :=
    clear_speedText numerals other (by decide) (by decide) (by decide) (by decide) (by decide)
  have back := percent.append ((by decide : Clear "MB transferred".toList "|".toList).append
    ((by decide : Clear _ " ".toList).append ((by decide : Clear _ "Speed:".toList).append speeds)))
  rw [← splitOn_eq_singleton back, ← splitOn_of_clear (by decide) front, plainDirection_eq]
  simp only [percentText, List.append_assoc]

theorem split_name (nonempty : name.toList ≠ [])
    (amount : Clear name.toList (" ".toList ++ (metrics.mb ++ " ".toList))) :
    splitOn name.toList (name.toList ++ (" ".toList ++ (metrics.mb ++ " ".toList))) =
      [[], " ".toList ++ (metrics.mb ++ " ".toList)] := by
  rw [splitOn_separator nonempty, splitOn_eq_singleton amount]

theorem split_bar (named : Clear "|".toList name.toList) (numerals : metrics.Numerals) :
    splitOn "|".toList (plainDirection name metrics) =
      [name.toList ++ (" ".toList ++ (metrics.mb ++ (" ".toList ++ ("MB transferred".toList ++
        percentText metrics)))), " ".toList ++ ("Speed:".toList ++ speedText metrics)] := by
  have other : ('|').isDigit = false ∧ '|' ≠ '.' := by decide
  have percent : Clear "|".toList (percentText metrics) :=
    (by decide : Clear _ _).append ((by decide : Clear _ _).append
      ((numerals.pct.clear other).append ((by decide : Clear _ _).append (by decide))))
  have front := named.append ((by decide : Clear "|".toList " ".toList).append
    ((numerals.mb.clear other).append ((by decide : Clear _ " ".toList).append
      ((by decide : Clear _ "MB transferred".toList).append percent))))
  have speeds : Clear "|".toList (speedText metrics) :=
    clear_speedText numerals other (by decide) (by decide) (by decide) (by decide) (by decide)
  have back := (by decide : Clear "|".toList " ".toList).append
    ((by decide : Clear _ "Speed:".toList).append speeds)
  rw [← splitOn_eq_singleton back, ← splitOn_of_clear (by decide) front, plainDirection_eq]
  simp only [percentText, List.append_assoc]

theorem split_speed (numerals : metrics.Numerals) :
    splitOn "Speed:".toList (" ".toList ++ ("Speed:".toList ++ speedText metrics)) =
      [" ".toList, speedText metrics] := by
  have speeds : Clear "Speed:".toList (speedText metrics) :=
    clear_speedText numerals (by decide) (by decide) (by decide) (by decide) (by decide)
      (by decide)
  rw [splitOn_of_clear (by decide) (by decide), splitOn_eq_singleton speeds]

theorem split_comma (numerals : metrics.Numerals) :
    splitOn ",".toList (speedText metrics) =
      [" min: ".toList ++ (metrics.min ++ " MB/s".toList),
        " max: ".toList ++ (metrics.max ++ " MB/s".toList),
        " avg: ".toList ++ (metrics.avg ++ " MB/s".toList)] := by
  have other : (',').isDigit = false ∧ ',' ≠ '.' := by decide
  have clear {label text : List Char} (labelled : Clear ",".toList label)
      (numeral : IsNumeral text) : Clear ",".toList (label ++ (text ++ " MB/s".toList)) :=
    labelled.append ((numeral.clear other).append (by decide))
  have min : Clear ",".toList (" min: ".toList ++ (metrics.min ++ " MB/s".toList)) :=
    clear (by decide) numerals.min
  have max : Clear ",".toList (" max: ".toList ++ (metrics.max ++ " MB/s".toList)) :=
    clear (by decide) numerals.max
  have avg : Clear ",".toList (" avg: ".toList ++ (metrics.avg ++ " MB/s".toList)) :=
    clear (by decide) numerals.avg
  rw [← splitOn_eq_singleton avg, ← splitOn_of_clear (by decide) max,
    ← splitOn_of_clear (by decide) min]
  delta speedText
  simp only [List.append_assoc]

theorem find_append {char : Char} {front : List Char} (absent : char ∉ front)
    (rest : List Char) : find char (front ++ char :: rest) = front.length := by
  have index : (front ++ char :: rest).idxOf? char = some front.length := by
    induction front with
    | nil => rw [List.nil_append, List.idxOf?_cons, if_pos (beq_self_eq_true char)]; rfl
    | cons other front ih =>
        rw [List.mem_cons, not_or] at absent
        rw [List.cons_append, List.idxOf?_cons, if_neg (by simpa using Ne.symm absent.1),
          ih absent.2]
        rfl
  rw [find, index]

theorem slice_append (front middle back : List Char) :
    slice (front ++ (middle ++ back)) front.length (front.length + middle.length) = middle := by
  have stop : min (front.length + middle.length : Int).toNat
      (front ++ (middle ++ back)).length = (front ++ middle).length := by
    simp only [List.length_append]
    omega
  have start : min (front.length : Int).toNat (front ++ (middle ++ back)).length =
      front.length := by
    simp only [List.length_append]
    omega
  rw [slice]
  simp only [if_neg (by omega : ¬ (front.length : Int) < 0),
    if_neg (by omega : ¬ (front.length + middle.length : Int) < 0), stop, start]
  rw [← List.append_assoc, List.take_left, List.drop_left]

theorem slice_percentText (numeral : IsNumeral metrics.pct) (rest : List Char) :
    slice (percentText metrics ++ rest) (find '(' (percentText metrics ++ rest) + 1)
      (find '%' (percentText metrics ++ rest)) = metrics.pct := by
  have opened : find '(' (percentText metrics ++ rest) = (1 : Nat) :=
    find_append (by decide : '(' ∉ " ".toList) _
  have before : '%' ∉ " (".toList ++ metrics.pct := by
    rw [List.mem_append, not_or]
    exact ⟨by decide, numeral.notMem (by decide)⟩
  have text : percentText metrics ++ rest =
      " (".toList ++ (metrics.pct ++ '%' :: (" complete) ".toList ++ rest)) := by
    simp only [percentText, List.append_assoc]
    rfl
  have closed : find '%' (percentText metrics ++ rest) =
      (" (".toList ++ metrics.pct).length := by
    rw [text, ← List.append_assoc]
    exact find_append before _
  rw [opened, closed, text, List.length_append, Nat.cast_add]
  exact slice_append " (".toList metrics.pct _

theorem parseSpeed_eq {Time Number : Type} (python : Python Time Number) {label : String}
    {text : List Char} (nonempty : label.toList ≠ []) (spaced : Clear label.toList " ".toList)
    (unit : Clear label.toList " MB/s".toList) (clear : Clear label.toList text)
    (numeral : IsNumeral text) :
    parseSpeed python label (" ".toList ++ (label.toList ++ (" ".toList ++
      (text ++ " MB/s".toList)))) = python.float text := by
  have back : Clear label.toList (" ".toList ++ (text ++ " MB/s".toList)) :=
    spaced.append (clear.append unit)
  have trimmed : Trimmed (text ++ " MB/s".toList) :=
    trimmed_append [] ⟨numeral.nonempty, numeral.trimmed.first⟩ (by decide)
  have blank : " ".toList.all isSpace = true := by decide
  have stripped : strip (" ".toList ++ (text ++ " MB/s".toList)) = text ++ " MB/s".toList := by
    have padded := strip_pad trimmed blank (List.all_nil)
    rwa [List.append_nil] at padded
  have word : Clear " ".toList text := numeral.clear (by decide)
  have unit' : " MB/s".toList = " ".toList ++ "MB/s".toList := rfl
  rw [parseSpeed, splitOn_of_clear nonempty spaced, splitOn_eq_singleton back]
  simp only [List.getElem?_cons_succ, List.getElem?_cons_zero, Option.bind_eq_bind,
    Option.bind_some]
  rw [stripped, unit', splitOn_of_clear (by decide) word, List.getElem?_cons_zero, Option.bind_some]

theorem parseDirection_plainDirection {Time Number : Type} (python : Python Time Number)
    (named : name ∈ ["UP:", "DOWN:"]) (numerals : metrics.Numerals) :
    parseDirection python name (plainDirection name metrics) = metrics.traverse python.float := by
  have mb : strip (" ".toList ++ (metrics.mb ++ " ".toList)) = metrics.mb :=
    strip_pad numerals.mb.trimmed (by decide) (by decide)
  have pct : strip metrics.pct = metrics.pct := strip_trimmed numerals.pct.trimmed
  have speed : contains "Speed:".toList
      (" ".toList ++ ("Speed:".toList ++ speedText metrics)) = true :=
    decide_eq_true ⟨_, _, List.append_assoc _ _ _⟩
  have min : parseSpeed python "min:" (" min: ".toList ++ (metrics.min ++ " MB/s".toList)) =
      python.float metrics.min :=
    parseSpeed_eq python (by decide) (by decide) (by decide) (numerals.min.clear (by decide))
      numerals.min
  have max : parseSpeed python "max:" (" max: ".toList ++ (metrics.max ++ " MB/s".toList)) =
      python.float metrics.max :=
    parseSpeed_eq python (by decide) (by decide) (by decide) (numerals.max.clear (by decide))
      numerals.max
  have avg : parseSpeed python "avg:" (" avg: ".toList ++ (metrics.avg ++ " MB/s".toList)) =
      python.float metrics.avg :=
    parseSpeed_eq python (by decide) (by decide) (by decide) (numerals.avg.clear (by decide))
      numerals.avg
  have clear : name.toList ≠ [] ∧ Clear "MB transferred".toList name.toList ∧
      Clear "|".toList name.toList := by
    rw [List.mem_cons, List.mem_singleton] at named
    rcases named with rfl | rfl <;> decide
  have amount : Clear name.toList (" ".toList ++ (metrics.mb ++ " ".toList)) := by
    rw [List.mem_cons, List.mem_singleton] at named
    rcases named with rfl | rfl
    · exact (by decide : Clear _ _).append ((numerals.mb.clear (by decide)).append (by decide))
    · exact (by decide : Clear _ _).append ((numerals.mb.clear (by decide)).append (by decide))
  unfold parseDirection DirectionMetrics.traverse
  rw [split_transferred clear.2.1 numerals, split_bar clear.2.2 numerals]
  simp only [List.getElem?_cons_succ, List.getElem?_cons_zero, Option.bind_eq_bind,
    Option.bind_some, split_name clear.1 amount, List.getLast?_cons_cons,
    List.getLast?_singleton, speed, if_true, split_speed numerals, split_comma numerals, mb,
    slice_percentText numerals.pct, pct, min, max, avg]

theorem trimmed_plainDirection (named : name ∈ ["UP:", "DOWN:"]) :
    Trimmed (plainDirection name metrics) := by
  have first : name.toList ≠ [] ∧ name.toList.head?.any isSpace = false := by
    rw [List.mem_cons, List.mem_singleton] at named
    rcases named with rfl | rfl <;> decide
  have last : " MB/s".toList ≠ [] ∧ " MB/s".toList.getLast?.any isSpace = false := by
    decide
  have whole := trimmed_append (" ".toList ++ (metrics.mb ++ (" MB transferred (".toList ++
    (metrics.pct ++ ("% complete) | Speed: min: ".toList ++ (metrics.min ++
      (" MB/s, max: ".toList ++ (metrics.max ++ (" MB/s, avg: ".toList ++ metrics.avg)))))))))
    first last
  simpa only [plainDirection, List.append_assoc] using whole

end Direction

/-! A whole line. -/

section Line

variable {metrics : TransferMetrics (List Char)}

theorem clear_plainDirection {name : String} {metrics : DirectionMetrics (List Char)}
    (named : Clear "||".toList name.toList) (numerals : metrics.Numerals) :
    Clear "||".toList (plainDirection name metrics) := by
  have other : ('|').isDigit = false ∧ '|' ≠ '.' := by decide
  exact named.append ((by decide : Clear _ _).append ((numerals.mb.clear other).append
    ((by decide : Clear _ _).append ((numerals.pct.clear other).append
      ((by decide : Clear _ _).append ((numerals.min.clear other).append
        ((by decide : Clear _ _).append ((numerals.max.clear other).append
          ((by decide : Clear _ _).append ((numerals.avg.clear other).append
            (by decide)))))))))))

theorem trimmed_up (metrics : TransferMetrics (List Char)) :
    Trimmed (plainDirection "UP:" metrics.up) :=
  trimmed_plainDirection (List.mem_cons_self ..)

theorem trimmed_down (metrics : TransferMetrics (List Char)) :
    Trimmed (plainDirection "DOWN:" metrics.down) :=
  trimmed_plainDirection (List.mem_cons_of_mem _ (List.mem_singleton_self _))

theorem trimmed_plainMessage (metrics : TransferMetrics (List Char)) :
    Trimmed (plainMessage metrics) :=
  trimmed_append " || ".toList ⟨(trimmed_up metrics).nonempty, (trimmed_up metrics).first⟩
    ⟨(trimmed_down metrics).nonempty, (trimmed_down metrics).last⟩

theorem parseTransferMetrics_plainMessage {Time Number : Type} (python : Python Time Number)
    (numerals : metrics.Numerals) :
    parseTransferMetrics python (plainMessage metrics) = metrics.traverse python.float := by
  have up := clear_plainDirection (by decide : Clear _ "UP:".toList) numerals.up
  have down := clear_plainDirection (by decide : Clear _ "DOWN:".toList) numerals.down
  have message : plainMessage metrics =
      (plainDirection "UP:" metrics.up ++ " ".toList) ++ ("||".toList ++
        (" ".toList ++ plainDirection "DOWN:" metrics.down)) := by
    rw [plainMessage, List.append_assoc]
    rfl
  have blank : " ".toList.all isSpace = true := by decide
  have strips : strip (plainDirection "UP:" metrics.up ++ " ".toList) =
      plainDirection "UP:" metrics.up :=
    strip_pad (trimmed_up metrics) List.all_nil blank
  have strips' : strip (" ".toList ++ plainDirection "DOWN:" metrics.down) =
      plainDirection "DOWN:" metrics.down := by
    have padded := strip_pad (trimmed_down metrics) blank List.all_nil
    rwa [List.append_nil] at padded
  have spaced : Clear "||".toList " ".toList := by decide
  unfold parseTransferMetrics TransferMetrics.traverse
  rw [message, splitOn_of_clear (by decide) (up.append spaced),
    splitOn_eq_singleton (spaced.append down)]
  simp only [strips, strips',
    parseDirection_plainDirection python (List.mem_cons_self ..) numerals.up,
    parseDirection_plainDirection python
      (List.mem_cons_of_mem _ (List.mem_singleton_self _)) numerals.down]

theorem newline_notMem_plainMessage (numerals : metrics.Numerals) :
    '\n' ∉ plainMessage metrics := by
  have absent {text : List Char} (numeral : IsNumeral text) : '\n' ∉ text :=
    numeral.notMem (by decide)
  have direction {name : String} (named : '\n' ∉ name.toList)
      {metrics : DirectionMetrics (List Char)} (numerals : metrics.Numerals) :
      '\n' ∉ plainDirection name metrics := by
    simp only [plainDirection, List.mem_append, not_or]
    exact ⟨named, by decide, absent numerals.mb, by decide, absent numerals.pct, by decide,
      absent numerals.min, by decide, absent numerals.max, by decide, absent numerals.avg,
      by decide⟩
  rw [plainMessage, List.mem_append, List.mem_append, not_or, not_or]
  exact ⟨direction (by decide) numerals.up, by decide, direction (by decide) numerals.down⟩

theorem isDecimal_of_isDigit {Time Number : Type} (python : Python Time Number) {char : Char}
    (digit : char.isDigit = true) : python.isDecimal char = true := by
  have ascii : char.val ≤ 127 := isAscii_of_isDigit digit
  rw [python.isDecimal_ascii char ascii, digit]

theorem matchShape_append {Time Number : Type} (python : Python Time Number)
    {shape front : List Char}
    (fits : List.Forall₂ (fun place char =>
      if place = 'd' then char.isDigit = true else char = place) shape front)
    (rest : List Char) : matchShape python shape (front ++ rest) = some (front, rest) := by
  induction fits with
  | nil =>
      cases rest <;> rfl
  | @cons place char shape front fit fits ih =>
      have same : (if place = 'd' then python.isDecimal char else char = place) = true := by
        split
        · rename_i digits
          rw [if_pos digits] at fit
          exact isDecimal_of_isDigit python fit
        · rename_i other
          rw [if_neg other] at fit
          exact decide_eq_true fit
      rw [List.cons_append, matchShape, if_pos same, ih]
      rfl

/-- The line is what the expression matches. -/
theorem matchLogLine_eq {Time Number : Type} (python : Python Time Number)
    {stamp message : List Char} (stamped : IsStamp stamp) (trimmed : Trimmed message)
    (single : '\n' ∉ message) :
    matchLogLine python (stamp ++ (" INFO: ".toList ++ message)) =
      some { timestamp := stamp, level := "INFO".toList, message := message } := by
  obtain ⟨front, fraction, rfl, fits, nonempty, digits⟩ := stamped
  have decimal : ∀ char ∈ fraction, python.isDecimal char = true :=
    fun char member => isDecimal_of_isDigit python (digits char member)
  have blank : ¬ python.isDecimal ' ' = true := by
    rw [python.isDecimal_ascii ' ' (by decide)]
    decide
  have start : message.dropWhile isSpace = message := by
    have solid := trimmed.dropWhile []
    rwa [List.append_nil] at solid
  have taken : (fraction ++ (" INFO: ".toList ++ message)).takeWhile python.isDecimal =
      fraction := by
    rw [List.takeWhile_append_of_pos decimal]
    exact (congrArg (fraction ++ ·) (List.takeWhile_cons_of_neg blank)).trans
      (List.append_nil fraction)
  have dropped : (fraction ++ (" INFO: ".toList ++ message)).dropWhile python.isDecimal =
      " INFO: ".toList ++ message := by
    rw [List.dropWhile_append_of_pos decimal]
    exact List.dropWhile_cons_of_neg blank
  have spaced : (" INFO: ".toList ++ message).dropWhile isSpace =
      "INFO: ".toList ++ message := rfl
  have word : ("INFO: ".toList ++ message).takeWhile (fun char => !isSpace char) =
      "INFO:".toList := rfl
  have after : ("INFO: ".toList ++ message).dropWhile (fun char => !isSpace char) =
      ' ' :: message := rfl
  have text : (' ' :: message).dropWhile isSpace = message := start
  have head : (" INFO: ".toList ++ message).head?.any isSpace = true := rfl
  rw [matchLogLine, List.append_assoc, matchShape_append python fits]
  simp only [Option.bind_eq_bind, Option.bind_some, taken, dropped, spaced, word, after, text,
    head]
  rw [if_pos ⟨nonempty, trivial, by decide, by decide, List.cons_ne_nil _ _, single⟩]
  rfl

theorem notMem_of_fits {shape front : List Char} {char : Char}
    (fits : List.Forall₂ (fun place char =>
      if place = 'd' then char.isDigit = true else char = place) shape front)
    (other : char.isDigit = false) (absent : char ∉ shape) : char ∉ front := by
  induction fits with
  | nil => exact absent
  | @cons place first shape front fit fits ih =>
      rw [List.mem_cons, not_or] at absent ⊢
      refine ⟨?_, ih absent.2⟩
      rintro rfl
      split at fit
      · exact Bool.false_ne_true (other.symm.trans fit)
      · exact absent.1 fit

theorem escape_notMem_stamp {stamp : List Char} (stamped : IsStamp stamp) :
    '\x1b' ∉ stamp := by
  obtain ⟨front, fraction, rfl, fits, -, digits⟩ := stamped
  rw [List.mem_append, not_or]
  exact ⟨notMem_of_fits fits (by decide) (by decide),
    fun member => absurd (digits _ member) (by decide)⟩

theorem solid_stamp {stamp : List Char} (stamped : IsStamp stamp) :
    stamp ≠ [] ∧ stamp.head?.any isSpace = false := by
  obtain ⟨front, fraction, rfl, fits, -, -⟩ := stamped
  obtain ⟨first, rest, digit, -, rfl⟩ := List.forall₂_cons_left_iff.mp fits
  exact ⟨List.cons_ne_nil _ _, isSpace_of_isDigit digit⟩

end Line

/-! A whole file. -/

section File

variable {Time Number : Type} (python : Python Time Number)

/-- What an entry says about a transfer, with its time. -/
def LogEntry.transfer (entry : LogEntry Time Number) : Option (Time × TransferMetrics Number) :=
  if entry.event = "transfer" then entry.metrics.map (entry.timestamp, ·) else none

/-- A line of a log file. -/
inductive Logged where
  | report (asctime : List Char) (metrics : TransferMetrics (List Char))
  | other (line : List Char)

namespace Logged

def line : Logged → List Char
  | report asctime metrics => fileLine asctime (monitorRecord metrics)
  | other line => line

/-- Another line does not hold both labels once its escapes are removed, which can put one
together. -/
def Regular : Logged → Prop
  | report asctime metrics => IsStamp asctime ∧ metrics.Numerals
  | other line => ¬ ("UP:".toList <:+: removeEscapes line ∧ "DOWN:".toList <:+: removeEscapes line)

def transfer : Logged → Option (Time × TransferMetrics Number)
  | report asctime metrics => do
      let time ← python.strptime asctime
      let values ← metrics.traverse python.float
      return (time, values)
  | other _ => none

end Logged

theorem parseLine_report (filepath : List Char) {asctime : List Char}
    {metrics : TransferMetrics (List Char)} (stamped : IsStamp asctime)
    (numerals : metrics.Numerals) :
    (parseLine python filepath (fileLine asctime (monitorRecord metrics))).bind
      LogEntry.transfer = (Logged.report asctime metrics).transfer python := by
  have trimmed : Trimmed (asctime ++ (" INFO: ".toList ++ plainMessage metrics)) :=
    trimmed_append _ (solid_stamp stamped)
      ⟨(trimmed_plainMessage metrics).nonempty, (trimmed_plainMessage metrics).last⟩
  have stripped : strip (asctime ++ (" INFO: ".toList ++ (plainMessage metrics ++ "\n".toList))) =
      asctime ++ (" INFO: ".toList ++ plainMessage metrics) := by
    have padded := strip_pad trimmed List.all_nil (by decide : "\n".toList.all isSpace = true)
    simpa only [List.nil_append, List.append_assoc] using padded
  have up : contains "UP:".toList (plainMessage metrics) = true := by
    refine decide_eq_true (List.IsPrefix.isInfix ?_)
    exact (List.prefix_append _ _).trans (List.prefix_append _ _)
  have down : contains "DOWN:".toList (plainMessage metrics) = true := by
    refine decide_eq_true ?_
    refine (List.prefix_append _ _).isInfix.trans ((List.suffix_append (" || ".toList) _).trans
      (List.suffix_append (plainDirection "UP:" metrics.up) _)).isInfix
  unfold parseLine
  rw [removeEscapes_fileLine (escape_notMem_stamp stamped) numerals, stripped,
    if_neg trimmed.nonempty, matchLogLine_eq python stamped (trimmed_plainMessage metrics)
      (newline_notMem_plainMessage numerals)]
  simp only [Option.bind_eq_bind, Option.bind_some, up, down, and_self, if_true,
    parseTransferMetrics_plainMessage python numerals, Logged.transfer]
  cases python.strptime asctime with
  | none => rfl
  | some time =>
      cases metrics.traverse python.float with
      | none => rfl
      | some values => rfl

theorem matchShape_suffix {shape text front rest : List Char}
    (fits : matchShape python shape text = some (front, rest)) : rest <:+ text := by
  induction shape generalizing text front with
  | nil =>
      rw [matchShape, Option.some_inj, Prod.mk.injEq] at fits
      exact fits.2 ▸ List.suffix_refl _
  | cons place shape ih =>
      cases text with
      | nil => exact absurd fits (by simp [matchShape])
      | cons char text =>
          rw [matchShape] at fits
          obtain ⟨-, fits⟩ := Option.ite_none_right_eq_some.mp fits
          obtain ⟨⟨front, rest'⟩, shorter, same⟩ := Option.map_eq_some_iff.mp fits
          obtain ⟨-, rfl⟩ := Prod.mk.inj same
          exact (ih shorter).trans (List.suffix_cons char text)

theorem logLine_inside {line : List Char} {logLine : LogLine}
    (fits : matchLogLine python line = some logLine) : logLine.message <:+: line := by
  obtain ⟨⟨front, rest⟩, shaped, fits⟩ := Option.bind_eq_some_iff.mp fits
  simp only at fits
  split at fits
  · cases fits
    exact ((List.dropWhile_suffix _).trans ((List.dropWhile_suffix _).trans
      ((List.dropWhile_suffix _).trans ((List.dropWhile_suffix _).trans
        (matchShape_suffix python shaped))))).isInfix
  · exact absurd fits nofun

theorem parseLine_other (filepath : List Char) {line : List Char}
    (other : (Logged.other line).Regular) :
    (parseLine python filepath line).bind LogEntry.transfer = none := by
  have inside : strip (removeEscapes line) <:+: removeEscapes line :=
    (List.rdropWhile_prefix _ _).isInfix.trans (List.dropWhile_suffix _).isInfix
  unfold parseLine
  by_cases empty : strip (removeEscapes line) = []
  · rw [if_pos empty]
    rfl
  · rw [if_neg empty]
    cases fits : matchLogLine python (strip (removeEscapes line)) with
    | none => rfl
    | some logLine =>
        have message := (logLine_inside python fits).trans inside
        have neither : ¬ (contains "UP:".toList logLine.message = true ∧
            contains "DOWN:".toList logLine.message = true) :=
          fun both => other ⟨(of_decide_eq_true both.1).trans message,
            (of_decide_eq_true both.2).trans message⟩
        simp only [Option.bind_eq_bind, Option.bind_some, if_neg neither]
        cases python.strptime logLine.timestamp with
        | none => rfl
        | some time => rfl

/-- The transfers that the data cruncher reads from a log file are those that were logged,
in their order. -/
theorem transfers_read_back (filepath : List Char) {logged : List Logged}
    (regular : ∀ item ∈ logged, item.Regular) :
    (parseLogFile python filepath (logged.map Logged.line)).filterMap LogEntry.transfer =
      logged.filterMap (Logged.transfer python) := by
  have each : ∀ item ∈ logged, (parseLine python filepath item.line).bind LogEntry.transfer =
      item.transfer python := by
    intro item member
    cases item with
    | report asctime metrics =>
        obtain ⟨stamped, numerals⟩ := regular _ member
        exact parseLine_report python filepath stamped numerals
    | other line => exact parseLine_other python filepath (regular _ member)
  rw [parseLogFile, List.filterMap_map, List.filterMap_filterMap]
  exact List.filterMap_congr each

end File

def samplePython : Python (List Nat) (Nat × Nat) :=
  let value (digits : List Char) : Nat :=
    digits.foldl (fun value char => 10 * value + (char.toNat - '0'.toNat)) 0
  { isDecimal := Char.isDigit
    isDecimal_ascii := fun _ _ => rfl
    float := fun text =>
      match splitOn ".".toList text with
      | [whole, fraction] =>
          if (whole ++ fraction).all Char.isDigit then
            some (value (whole ++ fraction), fraction.length)
          else none
      | _ => none
    strptime := fun text =>
      if text.length = 23 then some ((text.splitOnP fun char => !char.isDigit).map value)
      else none }

def sampleMetrics : TransferMetrics (List Char) where
  up :=
    { mb := "447.69".toList, pct := "22.38".toList, min := "74.58".toList
      max := "177.97".toList, avg := "141.94".toList }
  down :=
    { mb := "256.19".toList, pct := "12.81".toList, min := "0.11".toList
      max := "433.30".toList, avg := "123.19".toList }

def sampleLog : List Logged :=
  [.other (fileLine "2025-02-14 07:17:57,770".toList
      { funcName := "worker", level := .info
        msg := "Worker 1: connection setup took 0.0012 s".toList }),
    .report "2025-02-14 07:17:58,776".toList sampleMetrics]

theorem transfers_read_back_sampleLog :
    (parseLogFile samplePython "logs/cst_benchmark_1c_2gb.log".toList
      (sampleLog.map Logged.line)).filterMap LogEntry.transfer =
        [([2025, 2, 14, 7, 17, 58, 776],
          { up :=
              { mb := (44769, 2), pct := (2238, 2), min := (7458, 2), max := (17797, 2)
                avg := (14194, 2) }
            down :=
              { mb := (25619, 2), pct := (1281, 2), min := (11, 2), max := (43330, 2)
                avg := (12319, 2) } })] := by
  have numeral {text : List Char} (checked : text ≠ [] ∧
      text.all (fun char => char.isDigit || char == '.') = true) : IsNumeral text :=
    ⟨checked.1, fun char member => by simpa using List.all_eq_true.mp checked.2 char member⟩
  have numerals : sampleMetrics.Numerals :=
    ⟨⟨numeral (by decide), numeral (by decide), numeral (by decide), numeral (by decide),
        numeral (by decide)⟩,
      ⟨numeral (by decide), numeral (by decide), numeral (by decide), numeral (by decide),
        numeral (by decide)⟩⟩
  have stamped : IsStamp "2025-02-14 07:17:58,776".toList :=
    ⟨"2025-02-14 07:17:58,".toList, "776".toList, rfl, by decide, by decide,
      List.all_eq_true.mp (by decide : "776".toList.all Char.isDigit = true)⟩
  refine (transfers_read_back samplePython _ ?_).trans (by decide +kernel)
  exact List.forall_mem_cons.mpr ⟨by unfold Logged.Regular; decide +kernel,
    List.forall_mem_singleton.mpr ⟨stamped, numerals⟩⟩

end PortRedirect.StressTest
