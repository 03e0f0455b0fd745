import PortRedirect.Net.IpAddr

namespace PortRedirect.Net

open PortRedirect.Text

/-! What is displayed is parsed back to the same address. -/

section Numbers

variable {radix : Nat}

/-- The radixes in which addresses are written. -/
def IsRadix (radix : Nat) : Prop := radix = 10 ∨ radix = 16

theorem toDigit_digitChar (known : IsRadix radix) {digit : Nat} (small : digit < radix) :
    toDigit radix (Nat.digitChar digit) = some digit := by
  have decimal : ∀ digit < 10, toDigit 10 (Nat.digitChar digit) = some digit := by decide
  have hexadecimal : ∀ digit < 16, toDigit 16 (Nat.digitChar digit) = some digit := by decide
  rcases known with rfl | rfl
  · exact decimal digit small
  · exact hexadecimal digit small

theorem IsRadix.one_lt (known : IsRadix radix) : 1 < radix := by
  rcases known with rfl | rfl <;> decide

/-- The digits of a number, as values. -/
def digitValues (radix number : Nat) : List Nat :=
  (Nat.toDigits radix number).filterMap (toDigit radix)

theorem digitValues_of_lt (known : IsRadix radix) {number : Nat} (small : number < radix) :
    digitValues radix number = [number] := by
  rw [digitValues, Nat.toDigits_of_lt_base small, List.filterMap_cons,
    toDigit_digitChar known small]
  rfl

theorem digitValues_of_le (known : IsRadix radix) {number : Nat} (large : radix ≤ number) :
    digitValues radix number = digitValues radix (number / radix) ++ [number % radix] := by
  have last : number % radix < radix :=
    Nat.mod_lt _ (Nat.lt_trans Nat.zero_lt_one known.one_lt)
  rw [digitValues, Nat.toDigits_of_base_le known.one_lt large, List.filterMap_append,
    List.filterMap_cons, toDigit_digitChar known last]
  rfl

private theorem quotient_lt (known : IsRadix radix) {number : Nat} (large : radix ≤ number) :
    number / radix < number :=
  Nat.div_lt_self (Nat.lt_of_lt_of_le (Nat.lt_trans Nat.zero_lt_one known.one_lt) large)
    known.one_lt

theorem foldl_digitValues (known : IsRadix radix) (number : Nat) :
    (digitValues radix number).foldl (fun result digit => result * radix + digit) 0 =
      number := by
  induction number using Nat.strongRecOn with
  | ind number ih =>
      rcases Nat.lt_or_ge number radix with small | large
      · rw [digitValues_of_lt known small]
        simp
      · rw [digitValues_of_le known large, List.foldl_append,
          ih _ (quotient_lt known large), List.foldl_cons, List.foldl_nil]
        exact Nat.div_add_mod' number radix

theorem length_digitValues (known : IsRadix radix) (number : Nat) :
    (digitValues radix number).length = (Nat.toDigits radix number).length := by
  induction number using Nat.strongRecOn with
  | ind number ih =>
      rcases Nat.lt_or_ge number radix with small | large
      · rw [digitValues_of_lt known small, Nat.toDigits_of_lt_base small]
        rfl
      · rw [digitValues_of_le known large, Nat.toDigits_of_base_le known.one_lt large,
          List.length_append, List.length_append, ih _ (quotient_lt known large)]
        rfl

theorem eq_zero_of_head_digitValues (known : IsRadix radix) {number : Nat}
    (leading : (digitValues radix number).head? = some 0) : number = 0 := by
  induction number using Nat.strongRecOn with
  | ind number ih =>
      rcases Nat.lt_or_ge number radix with small | large
      · rw [digitValues_of_lt known small] at leading
        exact Option.some.inj leading
      · have positive : 0 < number / radix :=
          Nat.div_pos large (Nat.lt_trans Nat.zero_lt_one known.one_lt)
        have nonempty : digitValues radix (number / radix) ≠ [] := by
          rw [← List.length_pos_iff, length_digitValues known]
          exact Nat.length_toDigits_pos
        rw [digitValues_of_le known large, List.head?_append_of_ne_nil _ nonempty] at leading
        have zero := ih _ (quotient_lt known large) leading
        omega

theorem isSome_toDigit (known : IsRadix radix) {number : Nat} {char : Char}
    (member : char ∈ Nat.toDigits radix number) : (toDigit radix char).isSome = true := by
  induction number using Nat.strongRecOn with
  | ind number ih =>
      rcases Nat.lt_or_ge number radix with small | large
      · rw [Nat.toDigits_of_lt_base small] at member
        rw [List.mem_singleton.mp member, toDigit_digitChar known small]
        rfl
      · rw [Nat.toDigits_of_base_le known.one_lt large] at member
        rcases List.mem_append.mp member with inside | last
        · exact ih _ (quotient_lt known large) inside
        · have small : number % radix < radix :=
            Nat.mod_lt _ (Nat.lt_trans Nat.zero_lt_one known.one_lt)
          rw [List.mem_singleton.mp last, toDigit_digitChar known small]
          rfl

/-- A number that is read does not go on there. -/
def Stops (radix : Nat) (rest : List Char) : Prop :=
  ∀ char, rest.head? = some char → toDigit radix char = none

theorem readDigits_append {front rest : List Char}
    (digits : ∀ char ∈ front, (toDigit radix char).isSome = true) (stops : Stops radix rest) :
    readDigits radix (front ++ rest) = (front.filterMap (toDigit radix), rest) := by
  induction front with
  | nil =>
      cases rest with
      | nil => rfl
      | cons char rest =>
          have none := stops char rfl
          rw [List.nil_append, readDigits, none]
          rfl
  | cons char front ih =>
      rw [List.forall_mem_cons] at digits
      obtain ⟨digit, value⟩ := Option.isSome_iff_exists.mp digits.1
      rw [List.cons_append, readDigits, value, ih digits.2, List.filterMap_cons, value]

theorem readNumber_toDigits (known : IsRadix radix) {number maxDigits bound : Nat}
    (allowZeroPrefix : Bool) {rest : List Char}
    (short : (Nat.toDigits radix number).length ≤ maxDigits) (small : number < bound)
    (stops : Stops radix rest) :
    readNumber radix maxDigits bound allowZeroPrefix (Nat.toDigits radix number ++ rest) =
      some (number, rest) := by
  have digits : readDigits radix (Nat.toDigits radix number ++ rest) =
      (digitValues radix number, rest) :=
    readDigits_append (fun char member => isSome_toDigit known member) stops
  have length := length_digitValues known number
  have some_ : digitValues radix number ≠ [] := by
    rw [← List.length_pos_iff, length]
    exact Nat.length_toDigits_pos
  have notPadded : ¬ (allowZeroPrefix = false ∧ (digitValues radix number).head? = some 0 ∧
      1 < (digitValues radix number).length) := by
    rintro ⟨_, leading, several⟩
    rw [eq_zero_of_head_digitValues known leading] at several
    rw [digitValues_of_lt known (Nat.lt_trans Nat.zero_lt_one known.one_lt)] at several
    exact absurd several (by decide)
  simp only [readNumber, digits]
  rw [if_neg (by rw [not_or]; exact ⟨some_, by omega⟩), if_neg notPadded,
    foldl_digitValues known, if_pos small]

end Numbers

/-! IPv4. -/

@[simp] theorem readSeparator_zero {α : Type} (separator : Char)
    (inner : List Char → Option (α × List Char)) (input : List Char) :
    readSeparator separator 0 inner input = inner input := rfl

@[simp] theorem readSeparator_succ {α : Type} (separator : Char) (index : Nat)
    (inner : List Char → Option (α × List Char)) (input : List Char) :
    readSeparator separator (index + 1) inner (separator :: input) = inner input := by
  simp [readSeparator]

private theorem stops_dot (rest : List Char) : Stops 10 ('.' :: rest) := by
  intro char head
  cases head
  decide

theorem readNumber_octet (octet : UInt8) {rest : List Char} (stops : Stops 10 rest) :
    readNumber 10 3 256 false (Nat.toDigits 10 octet.toNat ++ rest) =
      some (octet.toNat, rest) := by
  have bound := octet.toNat_lt
  have short : (Nat.toDigits 10 octet.toNat).length ≤ 3 :=
    (Nat.length_toDigits_le_iff (by decide) (by decide)).mpr (by omega)
  exact readNumber_toDigits (.inl rfl) false short bound stops

theorem readIpv4Addr_chars (addr : Ipv4Addr) {rest : List Char} (stops : Stops 10 rest) :
    readIpv4Addr (addr.chars ++ rest) = some (addr, rest) := by
  have split : addr.chars ++ rest = Nat.toDigits 10 addr.a.toNat ++
      '.' :: (Nat.toDigits 10 addr.b.toNat ++ '.' :: (Nat.toDigits 10 addr.c.toNat ++
        '.' :: (Nat.toDigits 10 addr.d.toNat ++ rest))) := by
    simp [Ipv4Addr.chars]
  have a := readNumber_octet addr.a (stops_dot (Nat.toDigits 10 addr.b.toNat ++
    '.' :: (Nat.toDigits 10 addr.c.toNat ++ '.' :: (Nat.toDigits 10 addr.d.toNat ++ rest))))
  have b := readNumber_octet addr.b (stops_dot (Nat.toDigits 10 addr.c.toNat ++
    '.' :: (Nat.toDigits 10 addr.d.toNat ++ rest)))
  have c := readNumber_octet addr.c (stops_dot (Nat.toDigits 10 addr.d.toNat ++ rest))
  have d := readNumber_octet addr.d stops
  simp [split, readIpv4Addr, readOctet, a, b, c, d]

/-- A text without a point behind its first digits is no IPv4 address. -/
theorem readIpv4Addr_eq_none {input : List Char}
    (noPoint : (readDigits 10 input).2.head? ≠ some '.') : readIpv4Addr input = none := by
  unfold readIpv4Addr
  cases first : readOctet 0 input with
  | none => rfl
  | some octet =>
      obtain ⟨number, rest⟩ := octet
      have behind : rest = (readDigits 10 input).2 := by
        simp only [readOctet, readSeparator_zero, readNumber] at first
        split at first
        · cases first
        split at first
        · cases first
        split at first
        · cases first
          rfl
        · cases first
      have second : readOctet 1 rest = none := by
        rw [← behind] at noPoint
        cases rest with
        | nil => rfl
        | cons char rest =>
            have other : char ≠ '.' := fun same => noPoint (by rw [same]; rfl)
            simp [readOctet, readSeparator, other]
      simp only [second]

/-! IPv6. -/

/-- The end of the text, or a colon. -/
def AtColon (rest : List Char) : Prop := ∀ char, rest.head? = some char → char = ':'

theorem AtColon.stops {rest : List Char} (colon : AtColon rest) (radix : Nat)
    (known : IsRadix radix) : Stops radix rest := by
  intro char head
  rw [colon char head]
  rcases known with rfl | rfl <;> decide

private theorem head_readDigits {front rest : List Char} (inside : '.' ∉ front)
    (colon : AtColon rest) : (readDigits 10 (front ++ rest)).2.head? ≠ some '.' := by
  induction front with
  | nil =>
      rw [readDigits_append (by simp) (colon.stops 10 (.inl rfl))]
      intro point
      exact absurd (colon '.' point) (by decide)
  | cons char front ih =>
      rw [List.mem_cons, not_or] at inside
      rw [List.cons_append, readDigits]
      split
      · exact fun same => inside.1 (Option.some.inj same).symm
      · exact ih inside.2

theorem dot_not_mem_toDigits (number : Nat) : '.' ∉ Nat.toDigits 16 number := by
  intro member
  exact absurd (isSome_toDigit (.inr rfl) member) (by decide)

/-- A group in front of a colon or the end is not taken for an IPv4 address. -/
theorem readIpv4Addr_group (group : Nat) {rest : List Char} (colon : AtColon rest) :
    readIpv4Addr (Nat.toDigits 16 group ++ rest) = none :=
  readIpv4Addr_eq_none (head_readDigits (dot_not_mem_toDigits group) colon)

theorem readIpv4Addr_colon {rest : List Char} (colon : AtColon rest) :
    readIpv4Addr rest = none :=
  readIpv4Addr_eq_none (head_readDigits (List.not_mem_nil) colon)

theorem readNumber_colon {rest : List Char} (colon : AtColon rest) (maxDigits bound : Nat)
    (allowZeroPrefix : Bool) : readNumber 16 maxDigits bound allowZeroPrefix rest = none := by
  have digits : readDigits 16 ([] ++ rest) = ([].filterMap (toDigit 16), rest) :=
    readDigits_append (by simp) (colon.stops 16 (.inr rfl))
  rw [List.nil_append] at digits
  simp [readNumber, digits]

theorem readNumber_group {group : Nat} (small : group < 65536) {rest : List Char}
    (colon : AtColon rest) :
    readNumber 16 4 65536 true (Nat.toDigits 16 group ++ rest) = some (group, rest) := by
  have short : (Nat.toDigits 16 group).length ≤ 4 :=
    (Nat.length_toDigits_le_iff (by decide) (by decide)).mpr (by omega)
  exact readNumber_toDigits (.inr rfl) true short small (colon.stops 16 (.inr rfl))

/-- What separates the group at an index from those before it. -/
def separator (index : Nat) : List Char := if 0 < index then [':'] else []

private theorem readSeparator_separator {α : Type} (index : Nat)
    (inner : List Char → Option (α × List Char)) (input : List Char) :
    readSeparator ':' index inner (separator index ++ input) = inner input := by
  cases index with
  | zero => rfl
  | succ index => simp [separator]

theorem readGroups_group {group : Nat} (small : group < 65536) (left index : Nat)
    {rest : List Char} (colon : AtColon rest) :
    readGroups (left + 1) index (separator index ++ (Nat.toDigits 16 group ++ rest)) =
      (group :: (readGroups left (index + 1) rest).1, (readGroups left (index + 1) rest).2) := by
  rw [readGroups, readSeparator_separator, readSeparator_separator,
    readIpv4Addr_group group colon, readNumber_group small colon]
  simp

/-- The groups end with the text, or with two colons. -/
def GroupsEnd (rest : List Char) : Prop := rest = [] ∨ ∃ more, rest = ':' :: ':' :: more

theorem GroupsEnd.atColon {rest : List Char} (ends : GroupsEnd rest) : AtColon rest := by
  rcases ends with rfl | ⟨more, rfl⟩
  · intro char head
    cases head
  · intro char head
    exact (Option.some.inj head).symm

private theorem atColon_cons (rest : List Char) : AtColon (':' :: rest) := by
  intro char head
  exact (Option.some.inj head).symm

theorem readGroups_end {rest : List Char} (ends : GroupsEnd rest) (left index : Nat) :
    readGroups left index rest = ([], false, rest) := by
  cases left with
  | zero => rfl
  | succ left =>
      have ipv4 : readSeparator ':' index readIpv4Addr rest = none := by
        cases index with
        | zero => exact readIpv4Addr_colon ends.atColon
        | succ index =>
            rcases ends with rfl | ⟨more, rfl⟩
            · rfl
            · rw [readSeparator_succ]
              exact readIpv4Addr_colon (atColon_cons more)
      have number : readSeparator ':' index (readNumber 16 4 65536 true) rest = none := by
        cases index with
        | zero => exact readNumber_colon ends.atColon _ _ _
        | succ index =>
            rcases ends with rfl | ⟨more, rfl⟩
            · rfl
            · rw [readSeparator_succ]
              exact readNumber_colon (atColon_cons more) _ _ _
      simp [readGroups, ipv4, number]

private theorem readGroups_tail {groups : List Nat} (small : ∀ group ∈ groups, group < 65536)
    {left index : Nat} (later : 0 < index) (fit : groups.length ≤ left) {rest : List Char}
    (ends : GroupsEnd rest) :
    readGroups left index
        ((groups.flatMap fun group => ':' :: Nat.toDigits 16 group) ++ rest) =
      (groups, false, rest) := by
  induction groups generalizing left index with
  | nil => exact readGroups_end ends left index
  | cons group groups ih =>
      obtain ⟨left, rfl⟩ : ∃ fewer, left = fewer + 1 :=
        ⟨left - 1, by rw [List.length_cons] at fit; omega⟩
      rw [List.length_cons] at fit
      rw [List.forall_mem_cons] at small
      have colon : AtColon ((groups.flatMap fun group => ':' :: Nat.toDigits 16 group) ++
          rest) := by
        cases groups with
        | nil => exact ends.atColon
        | cons next groups => exact atColon_cons _
      have split : ((group :: groups).flatMap fun group => ':' :: Nat.toDigits 16 group) ++
          rest = separator index ++ (Nat.toDigits 16 group ++
            ((groups.flatMap fun group => ':' :: Nat.toDigits 16 group) ++ rest)) := by
        simp [separator, later]
      rw [split, readGroups_group small.1 left index colon,
        ih small.2 (Nat.succ_pos index) (by omega)]

theorem readGroups_fmtSubslice {groups : List Nat}
    (small : ∀ group ∈ groups, group < 65536) {left : Nat} (fit : groups.length ≤ left)
    {rest : List Char} (ends : GroupsEnd rest) :
    readGroups left 0 (fmtSubslice groups ++ rest) = (groups, false, rest) := by
  cases groups with
  | nil => exact readGroups_end ends left 0
  | cons group groups =>
      obtain ⟨left, rfl⟩ : ∃ fewer, left = fewer + 1 :=
        ⟨left - 1, by rw [List.length_cons] at fit; omega⟩
      rw [List.length_cons] at fit
      rw [List.forall_mem_cons] at small
      have colon : AtColon ((groups.flatMap fun group => ':' :: Nat.toDigits 16 group) ++
          rest) := by
        cases groups with
        | nil => exact ends.atColon
        | cons next groups => exact atColon_cons _
      have first := readGroups_group small.1 left 0 colon
      rw [readGroups_tail small.2 Nat.zero_lt_one (by omega) ends] at first
      rw [fmtSubslice, List.append_assoc]
      exact first

/-! The longest run of zeroes. -/

/-- The span is a run of zeroes in the segments. -/
def Span.Within (segments : List Nat) (span : Span) : Prop :=
  span.len = 0 ∨ ∃ front back,
    segments = front ++ (List.replicate span.len 0 ++ back) ∧ front.length = span.start

/-- The span is a run of zeroes at the end of the segments. -/
def Span.Ending (segments : List Nat) (span : Span) : Prop :=
  span.len = 0 ∨ ∃ front,
    segments = front ++ List.replicate span.len 0 ∧ front.length = span.start

theorem Span.Within.append {segments : List Nat} {span : Span} (within : span.Within segments)
    (more : List Nat) : span.Within (segments ++ more) := by
  rcases within with empty | ⟨front, back, split, start⟩
  · exact .inl empty
  · refine .inr ⟨front, back ++ more, ?_, start⟩
    rw [split]
    simp

theorem Span.Ending.within {segments : List Nat} {span : Span} (ending : span.Ending segments) :
    span.Within segments := by
  rcases ending with empty | ⟨front, split, start⟩
  · exact .inl empty
  · exact .inr ⟨front, [], by rw [split, List.append_nil], start⟩

theorem Span.Ending.extend {segments : List Nat} {span : Span} (ending : span.Ending segments) :
    Span.Ending (segments ++ [0])
      { start := if span.len = 0 then segments.length else span.start
        len := span.len + 1 } := by
  right
  rcases ending with empty | ⟨front, split, start⟩
  · exact ⟨segments, by simp [empty], by simp [empty]⟩
  · by_cases empty : span.len = 0
    · exact ⟨segments, by simp [empty], by simp [empty]⟩
    · refine ⟨front, ?_, by simp [empty, start]⟩
      rw [split, List.append_assoc, List.replicate_succ']

theorem longestZeroes_within {done segments : List Nat} {longest current : Span}
    (within : longest.Within done) (ending : current.Ending done) :
    (longestZeroes segments done.length longest current).Within (done ++ segments) := by
  induction segments generalizing done longest current with
  | nil =>
      rw [List.append_nil]
      exact within
  | cons segment segments ih =>
      have next : done.length + 1 = (done ++ [segment]).length := by simp
      have split : done ++ segment :: segments = done ++ [segment] ++ segments := by simp
      rw [longestZeroes, split, next]
      split
      · rename_i zero
        subst zero
        have extended := ending.extend
        apply ih _ extended
        by_cases longer : longest.len < current.len + 1
        · rw [if_pos longer]
          exact extended.within
        · rw [if_neg longer]
          exact within.append [0]
      · exact ih (within.append [segment]) (.inl rfl)

theorem longestZeroes_split (segments : List Nat) :
    let zeroes := longestZeroes segments 0 {} {}
    1 < zeroes.len →
      segments = segments.take zeroes.start ++ (List.replicate zeroes.len 0 ++
        segments.drop (zeroes.start + zeroes.len)) := by
  intro zeroes several
  have within : zeroes.Within ([] ++ segments) :=
    longestZeroes_within (.inl rfl) (.inl rfl)
  rcases within with empty | ⟨front, back, split, start⟩
  · omega
  · rw [List.nil_append] at split
    rw [split, ← start, List.take_left, ← List.drop_drop, List.drop_left,
      List.drop_left' List.length_replicate]

/-! Whole addresses. -/

theorem Ipv6Addr.length_groups (addr : Ipv6Addr) : addr.groups.length = 8 := by
  simp [groups]

theorem Ipv6Addr.groups_lt (addr : Ipv6Addr) : ∀ group ∈ addr.groups, group < 65536 := by
  intro group member
  obtain ⟨segment, _, rfl⟩ := List.mem_map.mp member
  exact segment.toNat_lt

theorem Ipv6Addr.ofGroups_groups (addr : Ipv6Addr) : ofGroups addr.groups = addr := by
  obtain ⟨segments⟩ := addr
  simp only [ofGroups, mk.injEq]
  apply Vector.ext
  intro index bound
  simp [groups]

theorem embeddedIpv4_groups {high low : Nat} (highBound : high < 65536)
    (lowBound : low < 65536) :
    (embeddedIpv4 high low).a.toNat * 256 + (embeddedIpv4 high low).b.toNat = high ∧
      (embeddedIpv4 high low).c.toNat * 256 + (embeddedIpv4 high low).d.toNat = low := by
  simp only [embeddedIpv4, UInt8.toNat_ofNat']
  omega

theorem Ipv6Addr.toIpv4Mapped_eq_some {addr : Ipv6Addr} {ipv4 : Ipv4Addr}
    (mapped : addr.toIpv4Mapped = some ipv4) :
    ∃ high low, addr.groups = [0, 0, 0, 0, 0, 0xffff, high, low] ∧
      ipv4 = embeddedIpv4 high low := by
  unfold toIpv4Mapped at mapped
  split at mapped
  · rename_i high low same
    cases mapped
    exact ⟨high, low, same, rfl⟩
  · cases mapped

/-- The IPv4 address at the end of an address in the mapped range. -/
theorem readGroups_mapped (ipv4 : Ipv4Addr) :
    readGroups 7 0 ("ffff:".toList ++ ipv4.chars) =
      ([0xffff, ipv4.a.toNat * 256 + ipv4.b.toNat, ipv4.c.toNat * 256 + ipv4.d.toNat],
        true, []) := by
  have text : "ffff:".toList ++ ipv4.chars =
      separator 0 ++ (Nat.toDigits 16 0xffff ++ (':' :: ipv4.chars)) := by
    have front : "ffff:".toList = Nat.toDigits 16 0xffff ++ [':'] := by decide
    rw [front, List.append_assoc]
    rfl
  have stops : Stops 10 [] := by
    intro char head
    cases head
  have last := readIpv4Addr_chars ipv4 stops
  rw [List.append_nil] at last
  rw [text, readGroups_group (by decide) 6 0 (atColon_cons _), readGroups,
    if_pos (by decide), readSeparator_succ, last]

/-- Two colons stand for the groups that are missing. -/
theorem readIpv6Addr_compressed {input rest : List Char} {head tail : List Nat} {ipv4 : Bool}
    (short : head.length < 8) (front : readGroups 8 0 input = (head, false, ':' :: ':' :: rest))
    (back : readGroups (8 - (head.length + 1)) 0 rest = (tail, ipv4, [])) :
    readIpv6Addr input =
      some (.ofGroups (head ++ List.replicate (8 - head.length - tail.length) 0 ++ tail),
        []) := by
  simp only [readIpv6Addr, front, back]
  rw [if_neg (Nat.ne_of_lt short)]
  rfl

theorem readIpv6Addr_mapped (ipv4 : Ipv4Addr) :
    readIpv6Addr ("::ffff:".toList ++ ipv4.chars) =
      some (.ofGroups [0, 0, 0, 0, 0, 0xffff, ipv4.a.toNat * 256 + ipv4.b.toNat,
        ipv4.c.toNat * 256 + ipv4.d.toNat], []) := by
  have text : "::ffff:".toList ++ ipv4.chars =
      ':' :: ':' :: ("ffff:".toList ++ ipv4.chars) := rfl
  have back := readGroups_mapped ipv4
  rw [text]
  generalize "ffff:".toList ++ ipv4.chars = rest at back
  have front : readGroups 8 0 (':' :: ':' :: rest) = ([], false, ':' :: ':' :: rest) :=
    readGroups_end (.inr ⟨rest, rfl⟩) 8 0
  simp only [readIpv6Addr, front, List.length_nil, Nat.zero_add, Nat.reduceSub, back]
  rfl

theorem Ipv6Addr.readIpv6Addr_chars (addr : Ipv6Addr) :
    readIpv6Addr addr.chars = some (addr, []) := by
  unfold chars
  have small := addr.groups_lt
  have whole := addr.ofGroups_groups
  cases mapped : addr.toIpv4Mapped with
  | some ipv4 =>
      obtain ⟨high, low, groups, rfl⟩ := toIpv4Mapped_eq_some mapped
      rw [groups] at small whole
      obtain ⟨first, second⟩ := embeddedIpv4_groups (small high (by simp)) (small low (by simp))
      rw [readIpv6Addr_mapped, first, second, whole]
  | none =>
      simp only
      split
      · rename_i several
        have split := longestZeroes_split addr.groups several
        generalize longestZeroes addr.groups 0 {} {} = zeroes at several split ⊢
        generalize addr.groups.take zeroes.start = front at split ⊢
        generalize addr.groups.drop (zeroes.start + zeroes.len) = back at split ⊢
        have length := congrArg List.length split
        rw [addr.length_groups, List.length_append, List.length_append,
          List.length_replicate] at length
        rw [split, List.forall_mem_append, List.forall_mem_append] at small
        have head : readGroups 8 0 (fmtSubslice front ++ ':' :: ':' :: fmtSubslice back) =
            (front, false, ':' :: ':' :: fmtSubslice back) :=
          readGroups_fmtSubslice small.1 (by omega) (.inr ⟨_, rfl⟩)
        have tail : readGroups (8 - (front.length + 1)) 0 (fmtSubslice back ++ []) =
            (back, false, []) :=
          readGroups_fmtSubslice small.2.2 (by omega) (.inl rfl)
        rw [List.append_nil] at tail
        have missing : 8 - front.length - back.length = zeroes.len := by omega
        have text : fmtSubslice front ++ "::".toList ++ fmtSubslice back =
            fmtSubslice front ++ ':' :: ':' :: fmtSubslice back := by simp
        rw [text, readIpv6Addr_compressed (by omega) head tail, missing, List.append_assoc,
          ← split, whole]
      · have text := readGroups_fmtSubslice small (Nat.le_of_eq addr.length_groups) (.inl rfl)
        rw [List.append_nil] at text
        simp [readIpv6Addr, text, addr.length_groups, whole]

/-- No IPv6 address is displayed as what begins like an IPv4 address. -/
theorem Ipv6Addr.readIpv4Addr_chars (addr : Ipv6Addr) : readIpv4Addr addr.chars = none := by
  have subslice : ∀ (groups : List Nat) (rest : List Char), AtColon rest →
      readIpv4Addr (fmtSubslice groups ++ rest) = none := by
    intro groups rest colon
    cases groups with
    | nil => exact readIpv4Addr_colon colon
    | cons group groups =>
        rw [fmtSubslice, List.append_assoc]
        apply readIpv4Addr_group
        cases groups with
        | nil => exact colon
        | cons next groups => exact atColon_cons _
  unfold chars
  split
  · exact readIpv4Addr_colon (atColon_cons _)
  · simp only
    split
    · rw [List.append_assoc]
      exact subslice _ _ (atColon_cons _)
    · have text := subslice addr.groups [] (fun char head => by cases head)
      rwa [List.append_nil] at text

/-- Every address is parsed back from its own text. -/
theorem IpAddr.fromStr_display (addr : IpAddr) : fromStr addr.display = some addr := by
  unfold fromStr display
  rw [String.toList_ofList]
  cases addr with
  | v4 addr =>
      have stops : Stops 10 [] := by
        intro char head
        cases head
      have read := Net.readIpv4Addr_chars addr stops
      rw [List.append_nil] at read
      simp [chars, read]
  | v6 addr => simp [chars, addr.readIpv4Addr_chars, addr.readIpv6Addr_chars]

example : IpAddr.fromStr "0:0::0:1" = IpAddr.fromStr "::1" := by decide +kernel

example : IpAddr.fromStr "127.0.0.01" = none := by decide +kernel

end PortRedirect.Net
