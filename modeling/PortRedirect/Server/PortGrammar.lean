import PortRedirect.Server.Ports

namespace PortRedirect.Server

open PortRedirect.Text

/-! The language of port specifications and what each of them denotes. -/

/-- An optional plus sign and decimal digits, of a value that fits 16 bits. -/
def IsNumber (text : String) (value : Nat) : Prop :=
  ∃ digits : List Char, (text.toList = digits ∨ text.toList = '+' :: digits) ∧
    digits ≠ [] ∧ (∀ char ∈ digits, char.isDigit = true) ∧
    Nat.ofDigitChars 10 digits 0 = value ∧ value ≤ 65535

/-- The closed interval that a specification denotes. -/
inductive Denotes (text : String) : Nat → Nat → Prop where
  | single {value : Nat} (number : IsNumber (trim text) value) : Denotes text value value
  | range {first last : String} {low high : Nat}
      (split : trim text = first ++ "-" ++ last) (leftmost : '-' ∉ first.toList)
      (start : IsNumber (trim first) low) (stop : IsNumber (trim last) high)
      (ordered : low ≤ high) : Denotes text low high

def DenotesPort (text : String) (port : UInt16) : Prop :=
  ∃ low high, Denotes text low high ∧ low ≤ port.toNat ∧ port.toNat ≤ high

private theorem le_ofDigitChars (digits : List Char) (init : Nat) :
    init ≤ Nat.ofDigitChars 10 digits init := by
  induction digits generalizing init with
  | nil => rw [Nat.ofDigitChars_nil]
  | cons char digits ih =>
      rw [Nat.ofDigitChars_cons]
      have grows := ih (10 * init + (char.toNat - '0'.toNat))
      omega

/-- The digits are read exactly, and overflow is caught at the digit that causes it. -/
theorem parseDigits_eq_ok_iff {number result : UInt16} {digits : List Char} :
    parseDigits number digits = .ok result ↔
      (∀ char ∈ digits, char.isDigit = true) ∧
        Nat.ofDigitChars 10 digits number.toNat = result.toNat := by
  induction digits generalizing number with
  | nil =>
      rw [parseDigits, Nat.ofDigitChars_nil]
      simp [UInt16.toNat_inj]
  | cons char digits ih =>
      rw [parseDigits, Nat.ofDigitChars_cons, List.forall_mem_cons]
      by_cases digit : char.isDigit = true
      · rw [if_pos digit]
        by_cases fits : 10 * number.toNat + (char.toNat - '0'.toNat) < 2 ^ 16
        · rw [if_pos fits, ih, UInt16.toNat_ofNat', Nat.mod_eq_of_lt fits]
          simp [digit]
        · rw [if_neg fits]
          have grows := le_ofDigitChars digits (10 * number.toNat + (char.toNat - '0'.toNat))
          have bound := result.toNat_lt
          constructor
          · intro failed
            cases failed
          · rintro ⟨_, same⟩
            omega
      · rw [if_neg digit]
        constructor
        · intro failed
          cases failed
        · exact fun parsed => absurd parsed.1.1 digit

private theorem isNumber_of_digits {text : String} {digits : List Char} {port : UInt16}
    (signed : text.toList = digits ∨ text.toList = '+' :: digits) (nonempty : digits ≠ [])
    (parsed : parseDigits 0 digits = .ok port) : IsNumber text port.toNat := by
  obtain ⟨every, value⟩ := parseDigits_eq_ok_iff.mp parsed
  exact ⟨digits, signed, nonempty, every, value, Nat.le_of_lt_succ port.toNat_lt⟩

theorem parseU16_eq_ok_iff {text : String} {port : UInt16} :
    parseU16 text = .ok port ↔ IsNumber text port.toNat := by
  unfold parseU16
  constructor
  · intro parsed
    split at parsed
    · cases parsed
    · cases parsed
    · cases parsed
    · rename_i digits alone spelled
      refine isNumber_of_digits (.inr spelled) ?_ parsed
      rintro rfl
      exact alone rfl
    · rename_i nonempty _ _ _
      exact isNumber_of_digits (.inl rfl) nonempty parsed
  · rintro ⟨digits, signed, nonempty, every, value, _⟩
    have parsed : parseDigits 0 digits = .ok port := parseDigits_eq_ok_iff.mpr ⟨every, value⟩
    obtain ⟨char, chars, rfl⟩ := List.exists_cons_of_ne_nil nonempty
    have digit := every char (List.mem_cons_self ..)
    rcases signed with spelled | spelled
    · rw [spelled]
      split
      · rename_i empty
        cases empty
      · rename_i plus
        cases plus
        cases digit
      · rename_i minus
        cases minus
        cases digit
      · rename_i plus
        cases plus
        cases digit
      · exact parsed
    · rw [spelled]
      exact parsed

private theorem dropWhile_separator {chars : List Char} {separator char : Char}
    {back : List Char} (dropped : chars.dropWhile (· != separator) = char :: back) :
    char = separator := by
  have nonempty : chars.dropWhile (· != separator) ≠ [] := by
    rw [dropped]
    exact List.cons_ne_nil _ _
  have stops := List.head_dropWhile_not (· != separator) nonempty
  simpa [dropped] using stops

/-- The text splits at its first separator. -/
theorem splitOnce_eq_some_iff {text first last : String} {separator : Char} :
    splitOnce text separator = some (first, last) ↔
      text.toList = first.toList ++ separator :: last.toList ∧
        separator ∉ first.toList := by
  unfold splitOnce
  constructor
  · intro split
    cases dropped : text.toList.dropWhile (· != separator) with
    | nil => simp [dropped] at split
    | cons char back =>
        have same := dropWhile_separator dropped
        simp only [dropped, Option.some.injEq, Prod.mk.injEq] at split
        obtain ⟨rfl, rfl⟩ := split
        subst same
        constructor
        · rw [String.toList_ofList, String.toList_ofList, ← dropped,
            List.takeWhile_append_dropWhile]
        · rw [String.toList_ofList]
          intro member
          simpa using List.mem_takeWhile_imp member
  · rintro ⟨spelled, leftmost⟩
    have before : ∀ char ∈ first.toList, (char != separator) = true := by
      intro char member
      rw [bne_iff_ne]
      rintro rfl
      exact leftmost member
    rw [spelled, List.takeWhile_append_of_pos before, List.dropWhile_append_of_pos before]
    simp

theorem splitOnce_eq_none_iff {text : String} {separator : Char} :
    splitOnce text separator = none ↔ separator ∉ text.toList := by
  unfold splitOnce
  constructor
  · intro unsplit
    cases dropped : text.toList.dropWhile (· != separator) with
    | nil =>
        intro member
        simpa using List.dropWhile_eq_nil_iff.mp dropped separator member
    | cons char back => simp [dropped] at unsplit
  · intro absent
    have every : text.toList.dropWhile (· != separator) = [] := by
      rw [List.dropWhile_eq_nil_iff]
      intro char member
      rw [bne_iff_ne]
      rintro rfl
      exact absent member
    simp [every]

theorem IsNumber.not_mem_dash {text : String} {value : Nat} (number : IsNumber text value) :
    '-' ∉ text.toList := by
  obtain ⟨digits, signed, _, every, _⟩ := number
  intro member
  have inside : '-' ∈ digits := by
    rcases signed with spelled | spelled
    · rwa [spelled] at member
    · rw [spelled, List.mem_cons] at member
      exact member.resolve_left (by decide)
  exact absurd (every '-' inside) (by decide)

theorem toList_dash (first last : String) :
    (first ++ "-" ++ last).toList = first.toList ++ '-' :: last.toList := by
  rw [String.toList_append, String.toList_append, List.append_assoc]
  rfl

/-- What a parsed specification allows, as an interval. -/
def PortSpec.bounds : PortSpec → Nat × Nat
  | .single port => (port.toNat, port.toNat)
  | .range first last => (first.toNat, last.toNat)

theorem PortSpec.allows_iff (spec : PortSpec) (port : UInt16) :
    spec.allows port = true ↔
      spec.bounds.1 ≤ port.toNat ∧ port.toNat ≤ spec.bounds.2 := by
  cases spec with
  | single allowed =>
      simp only [allows, bounds, beq_iff_eq]
      rw [← UInt16.toNat_inj]
      omega
  | range first last =>
      simp [allows, bounds, UInt16.le_iff_toNat_le]

theorem exists_port {text : String} {value : Nat} (number : IsNumber text value) :
    ∃ port : UInt16, value = port.toNat ∧ parseU16 text = .ok port := by
  have bound : value < 2 ^ 16 := by
    obtain ⟨_, _, _, _, _, bound⟩ := number
    exact Nat.lt_succ_of_le bound
  have value_eq : (UInt16.ofNat value).toNat = value := by
    rw [UInt16.toNat_ofNat', Nat.mod_eq_of_lt bound]
  refine ⟨UInt16.ofNat value, value_eq.symm, ?_⟩
  rw [parseU16_eq_ok_iff, value_eq]
  exact number

theorem denotes_of_fromStr {text : String} {spec : PortSpec}
    (parsed : PortSpec.fromStr text = .ok spec) :
    Denotes text spec.bounds.1 spec.bounds.2 := by
  unfold PortSpec.fromStr at parsed
  simp only at parsed
  cases dashed : splitOnce (trim text) '-' with
  | none =>
      simp only [dashed] at parsed
      cases number : parseU16 (trim text) with
      | error error => simp [number] at parsed
      | ok port =>
          simp only [number] at parsed
          cases parsed
          exact .single (parseU16_eq_ok_iff.mp number)
  | some parts =>
      obtain ⟨first, last⟩ := parts
      obtain ⟨spelled, leftmost⟩ := splitOnce_eq_some_iff.mp dashed
      simp only [dashed] at parsed
      cases start : parseU16 (trim first) with
      | error error => simp [start] at parsed
      | ok low =>
          cases stop : parseU16 (trim last) with
          | error error => simp [start, stop] at parsed
          | ok high =>
              simp only [start, stop] at parsed
              split at parsed
              · cases parsed
              · rename_i ordered
                cases parsed
                refine .range ?_ leftmost (parseU16_eq_ok_iff.mp start)
                  (parseU16_eq_ok_iff.mp stop) ?_
                · rw [← String.toList_inj, toList_dash]
                  exact spelled
                · exact UInt16.le_iff_toNat_le.mp (UInt16.not_lt.mp ordered)

theorem fromStr_of_denotes {text : String} {low high : Nat} (denotes : Denotes text low high) :
    ∃ spec, PortSpec.fromStr text = .ok spec ∧ spec.bounds = (low, high) := by
  cases denotes with
  | single number =>
      obtain ⟨port, rfl, parsed⟩ := exists_port number
      have undashed := splitOnce_eq_none_iff.mpr number.not_mem_dash
      refine ⟨.single port, ?_, rfl⟩
      simp [PortSpec.fromStr, undashed, parsed]
  | @range first last _ _ split leftmost start stop ordered =>
      obtain ⟨low, rfl, first_eq⟩ := exists_port start
      obtain ⟨high, rfl, last_eq⟩ := exists_port stop
      have dashed : splitOnce (trim text) '-' = some (first, last) := by
        rw [splitOnce_eq_some_iff, split, toList_dash]
        exact ⟨rfl, leftmost⟩
      have unreversed : ¬ high < low := UInt16.not_lt.mpr (UInt16.le_iff_toNat_le.mpr ordered)
      refine ⟨.range low high, ?_, rfl⟩
      simp [PortSpec.fromStr, dashed, first_eq, last_eq, unreversed]

private theorem denotesPort_iff {text : String} {spec : PortSpec}
    (parsed : PortSpec.fromStr text = .ok spec) (port : UInt16) :
    DenotesPort text port ↔ spec.allows port = true := by
  rw [PortSpec.allows_iff]
  constructor
  · rintro ⟨low, high, denotes, inside⟩
    obtain ⟨other, reparsed, bounds⟩ := fromStr_of_denotes denotes
    obtain rfl := Except.ok.inj (parsed.symm.trans reparsed)
    rw [bounds]
    exact inside
  · intro inside
    exact ⟨_, _, denotes_of_fromStr parsed, inside⟩

private theorem forall₂_of_mapM {texts : List String} {specs : List PortSpec}
    (parsed : texts.mapM PortSpec.fromStr = .ok specs) :
    List.Forall₂ (fun text spec => PortSpec.fromStr text = .ok spec) texts specs := by
  induction texts generalizing specs with
  | nil =>
      rw [List.mapM_nil] at parsed
      cases parsed
      exact .nil
  | cons text texts ih =>
      rw [List.mapM_cons] at parsed
      cases first : PortSpec.fromStr text with
      | error error => simp [first, bind, Except.bind] at parsed
      | ok spec =>
          cases rest : texts.mapM PortSpec.fromStr with
          | error error => simp [first, rest, bind, Except.bind] at parsed
          | ok more =>
              simp only [first, rest, bind, Except.bind, pure, Except.pure] at parsed
              cases parsed
              exact .cons first (ih rest)

private theorem allows_iff_of_forall₂ {texts : List String} {specs : List PortSpec}
    (parsed : List.Forall₂ (fun text spec => PortSpec.fromStr text = .ok spec) texts specs)
    (port : UInt16) :
    allows specs port = true ↔ ∃ text ∈ texts, DenotesPort text port := by
  induction parsed with
  | nil => simp [allows]
  | cons first _ ih =>
      rw [allows] at ih
      rw [allows, List.any_cons, Bool.or_eq_true, ih, ← denotesPort_iff first]
      simp

/-- What the list allows is what its texts denote. -/
theorem allows_parsed_iff {texts : Option (List String)} {specs : Option (List PortSpec)}
    (parsed : parseAllowedClientPorts texts = .ok specs) (port : UInt16) :
    allows (specs.getD []) port = true ↔ ∃ text ∈ texts.getD [], DenotesPort text port := by
  unfold parseAllowedClientPorts at parsed
  cases texts with
  | none =>
      cases parsed
      simp [allows]
  | some texts =>
      cases each : texts.mapM PortSpec.fromStr with
      | error error => simp [each, Except.map] at parsed
      | ok list =>
          simp only [each, Except.map] at parsed
          cases parsed
          exact allows_iff_of_forall₂ (forall₂_of_mapM each) port

private theorem parsed_eq_nil_iff {texts : Option (List String)}
    {specs : Option (List PortSpec)}
    (parsed : parseAllowedClientPorts texts = .ok specs) :
    specs.getD [] = [] ↔ texts.getD [] = [] := by
  unfold parseAllowedClientPorts at parsed
  cases texts with
  | none =>
      cases parsed
      simp
  | some texts =>
      cases each : texts.mapM PortSpec.fromStr with
      | error error => simp [each, Except.map] at parsed
      | ok list =>
          simp only [each, Except.map] at parsed
          cases parsed
          have sizes := (forall₂_of_mapM each).length_eq
          rw [Option.getD_some, Option.getD_some, ← List.length_eq_zero_iff,
            ← List.length_eq_zero_iff, sizes]

theorem allows_append (first second : List PortSpec) (port : UInt16) :
    allows (first ++ second) port = true ↔
      allows first port = true ∨ allows second port = true := by
  rw [allows, List.any_append, Bool.or_eq_true]
  rfl

/-- Which texts are port specifications, and which ports the assembled list allows: the
local port and those that one of the texts denotes.  `main` gives up when there is
neither. -/
theorem port_specifications :
    (∀ text, (∃ spec, PortSpec.fromStr text = .ok spec) ↔
      ∃ low high, Denotes text low high) ∧
    ∀ texts specs localPort, parseAllowedClientPorts texts = .ok specs →
      match allowedClientPorts specs localPort with
      | .ok allowed => ∀ port, allows allowed port = true ↔
          localPort = some port ∨ ∃ text ∈ texts.getD [], DenotesPort text port
      | .error _ => texts.getD [] = [] ∧ localPort = none := by
  constructor
  · intro text
    constructor
    · rintro ⟨spec, parsed⟩
      exact ⟨_, _, denotes_of_fromStr parsed⟩
    · rintro ⟨low, high, denotes⟩
      obtain ⟨spec, parsed, _⟩ := fromStr_of_denotes denotes
      exact ⟨spec, parsed⟩
  · intro texts specs localPort parsed
    unfold allowedClientPorts
    cases localPort with
    | none =>
        simp only
        split
        · rename_i allowed assembled
          split at assembled
          · cases assembled
          · cases assembled
            intro port
            simpa using allows_parsed_iff parsed port
        · rename_i error assembled
          split at assembled
          · rename_i empty
            exact ⟨(parsed_eq_nil_iff parsed).mp empty, trivial⟩
          · cases assembled
    | some localPort =>
        simp only [List.append_eq_nil_iff, List.cons_ne_nil, and_false, if_false]
        intro port
        have local_iff : allows [.single localPort] port = true ↔ localPort = port := by
          rw [@eq_comm _ localPort port]
          simp [allows, PortSpec.allows]
        rw [allows_append, allows_parsed_iff parsed, or_comm, Option.some.injEq, local_iff]

theorem port_specifications_mixed :
    parseAllowedClientPorts (some ["+080", " 1000 - 2000"]) =
        .ok (some [.single 80, .range 1000 2000]) ∧
      (allows [.single 80, .range 1000 2000, .single 22] 1500 = true ↔
        some (22 : UInt16) = some 1500 ∨
          ∃ text ∈ ["+080", " 1000 - 2000"], DenotesPort text 1500) := by
  have parsed : parseAllowedClientPorts (some ["+080", " 1000 - 2000"]) =
      .ok (some [.single 80, .range 1000 2000]) := by
    rfl
  exact ⟨parsed, port_specifications.2 _ _ (some 22) parsed 1500⟩

end PortRedirect.Server
