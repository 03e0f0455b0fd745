import Mathlib.Data.List.DropRight
import Mathlib.Data.UInt
import PortRedirect.Text.Digits
import PortRedirect.Transition.Run
import PortRedirect.Transition.Snapshot

namespace PortRedirect.Server

open PortRedirect.Text
open PortRedirect.Transition

/-! `print_metrics_loop`, beside the tasks that raise the counters while it reads them. -/

/-- The counters of `metrics_counters.rs`. -/
inductive Counter where
  | tcpConnectionsAccepted
  | tcpConnectionsFailedAccepting
  | quicDataStreamOpeningErrors
  | bytesTransmittedA
  | bytesTransmittedB
  | tcpQuicConnectionsClosedError
  | tcpQuicConnectionsClosedGraceful
  | keepaliveErrors
  | serverConnectionsOpenedTotal
  | serverConnectionsGracefullyClosedTotal
deriving DecidableEq, Repr

structure MetricsPrinter where
  counters : Counter → UInt64 := fun _ => 0
  /-- What the tick in progress has read. -/
  reading : Option (List UInt64) := none
  previousMetrics : String := ""
  printed : List String := []

namespace MetricsPrinter

/-- The text before each value, and the counter that it is read from. -/
def fields : List (String × Counter) :=
  [("accepted: ", .tcpConnectionsAccepted),
    (" | failed_accept: ", .tcpConnectionsFailedAccepting),
    (" | quic_err: ", .quicDataStreamOpeningErrors),
    (" | bytes_a: ", .bytesTransmittedA),
    (" | bytes_b: ", .bytesTransmittedB),
    (" | tcp_quic_closed_err: ", .tcpQuicConnectionsClosedError),
    (" | tcp_quic_closed_graceful: ", .tcpQuicConnectionsClosedGraceful),
    (" | keepalive_err: ", .keepaliveErrors),
    (" | server_opened: ", .serverConnectionsOpenedTotal),
    (" | server_closed: ", .serverConnectionsGracefullyClosedTotal)]

def order : List Counter := fields.map Prod.snd

theorem mem_order (counter : Counter) : counter ∈ order := by
  cases counter <;> decide

instance : Fintype Counter := Fintype.ofList order mem_order

def shown (fields : List (String × Counter)) (values : List Nat) : List Char :=
  (List.zipWith (fun field value => field.1.toList ++ (decimal value).toList) fields
    values).flatten

def currentMetrics (values : List Nat) : String := String.ofList (shown fields values)

def line (timestamp : String) (metrics : String) : String := timestamp ++ " | " ++ metrics

inductive Event where
  /-- Another task raises a counter. -/
  | incBy (counter : Counter) (amount : UInt64)
  | tick
  /-- The next value of the line is read. -/
  | get
  | compare (timestamp : String)
deriving DecidableEq, Repr

def step (printer : MetricsPrinter) : Event → Option MetricsPrinter
  | .incBy counter amount =>
      some { printer with
        counters := Function.update printer.counters counter
          (printer.counters counter + amount) }
  | .tick =>
      match printer.reading with
      | none => some { printer with reading := some [] }
      | some _ => none
  | .get => do
      let values ← printer.reading
      let counter ← order[values.length]?
      return { printer with reading := some (values ++ [printer.counters counter]) }
  | .compare timestamp => do
      let values ← printer.reading
      if values.length = order.length then
        let current := currentMetrics (values.map UInt64.toNat)
        if current ≠ printer.previousMetrics then
          some { printer with
            reading := none
            previousMetrics := current
            printed := printer.printed ++ [line timestamp current] }
        else some { printer with reading := none }
      else none

def Event.raises : Event → Counter → Nat
  | .incBy raised amount, counter => if raised = counter then amount.toNat else 0
  | _, _ => 0

/-- What a counter has been raised by. -/
def total (events : List Event) (counter : Counter) : Nat :=
  (events.map fun event => event.raises counter).sum

def upToTick (events : List Event) : List Event := events.rdropWhile (· != .tick)

/-- What a counter had been raised by at the last tick. -/
def totalAtTick (events : List Event) : Counter → Nat := total (upToTick events)

/-- At some moment since the last tick the counter had this value. -/
def Held (events : List Event) (counter : Counter) (value : Nat) : Prop :=
  ∃ moment, upToTick events <+: moment ∧ moment <+: events ∧ total moment counter = value

/-- A printed line: what had happened before it, its time and its values. -/
structure Snapshot where
  before : List Event
  timestamp : String
  values : Counter → Nat

def Snapshot.line (snapshot : Snapshot) : String :=
  MetricsPrinter.line snapshot.timestamp (currentMetrics (order.map snapshot.values))

/-- What the lines say about the counters. -/
structure Faithful (events : List Event) (snapshots : List Snapshot) : Prop where
  /-- Each value is one that the counter had between the tick and the line. -/
  within : ∀ snapshot ∈ snapshots,
    snapshot.before ++ [.compare snapshot.timestamp] <+: events ∧
      ∀ counter, Held snapshot.before counter (snapshot.values counter)
  ordered : snapshots.Pairwise fun earlier later => earlier.before.length < later.before.length
  increasing : snapshots.Pairwise fun earlier later => earlier.values < later.values
  /-- After every tick the last line is up to date, printed now or before. -/
  fresh : ∀ before timestamp, events = before ++ [Event.compare timestamp] →
    ∃ snapshot ∈ snapshots.getLast?, ∀ counter, Held before counter (snapshot.values counter)

/-! The counters over a history. -/

theorem total_append (events later : List Event) (counter : Counter) :
    total (events ++ later) counter = total events counter + total later counter := by
  rw [total, List.map_append, List.sum_append]
  rfl

theorem total_singleton (event : Event) (counter : Counter) :
    total [event] counter = event.raises counter := List.sum_singleton

theorem total_mono (events later : List Event) : total events ≤ total (events ++ later) := by
  intro counter
  rw [total_append]
  exact Nat.le_add_right _ _

theorem total_quiet {event : Event} (quiet : ∀ counter, event.raises counter = 0)
    (events : List Event) : total (events ++ [event]) = total events := by
  funext counter
  rw [total_append, total_singleton, quiet, Nat.add_zero]

theorem total_mono_prefix {earlier later : List Event} (grown : earlier <+: later) :
    total earlier ≤ total later := by
  obtain ⟨rest, rfl⟩ := grown
  exact total_mono earlier rest

theorem upToTick_prefix (events : List Event) : upToTick events <+: events :=
  List.rdropWhile_prefix _ _

theorem upToTick_tick (events : List Event) : upToTick (events ++ [.tick]) = events ++ [.tick] :=
  List.rdropWhile_concat_neg _ _ _ (by decide)

theorem upToTick_other {event : Event} (other : event ≠ .tick) (events : List Event) :
    upToTick (events ++ [event]) = upToTick events :=
  List.rdropWhile_concat_pos (· != Event.tick) events event (bne_iff_ne.mpr other)

theorem totalAtTick_tick (events : List Event) :
    totalAtTick (events ++ [.tick]) = total events := by
  rw [totalAtTick, upToTick_tick, total_quiet fun _ => rfl]

theorem totalAtTick_other {event : Event} (other : event ≠ .tick) (events : List Event) :
    totalAtTick (events ++ [event]) = totalAtTick events :=
  congrArg total (upToTick_other other events)

theorem held_now (events : List Event) (counter : Counter) :
    Held events counter (total events counter) :=
  ⟨events, upToTick_prefix events, List.prefix_rfl, rfl⟩

theorem Held.other {events : List Event} {event : Event} (other : event ≠ .tick)
    {counter : Counter} {value : Nat} (held : Held events counter value) :
    Held (events ++ [event]) counter value := by
  obtain ⟨moment, since, passed, had⟩ := held
  refine ⟨moment, ?_, passed.trans (List.prefix_append _ _), had⟩
  rwa [upToTick_other other]

theorem Held.low {events : List Event} {counter : Counter} {value : Nat}
    (held : Held events counter value) : totalAtTick events counter ≤ value := by
  obtain ⟨moment, since, passed, rfl⟩ := held
  exact total_mono_prefix since counter

theorem Held.high {events : List Event} {counter : Counter} {value : Nat}
    (held : Held events counter value) : value ≤ total events counter := by
  obtain ⟨moment, since, passed, rfl⟩ := held
  exact total_mono_prefix passed counter

/-! Two lines are equal only if their values are. -/

theorem shown_cons (field : String × Counter) (fields : List (String × Counter)) (value : Nat)
    (values : List Nat) : shown (field :: fields) (value :: values) =
      field.1.toList ++ ((decimal value).toList ++ shown fields values) := by
  rw [shown, List.zipWith_cons_cons, List.flatten_cons, List.append_assoc]
  rfl

/-- A label begins with a character that no numeral holds. -/
def Labelled (field : String × Counter) : Prop :=
  ∃ first rest, field.1.toList = first :: rest ∧ first.isDigit = false

theorem shown_injective {fields : List (String × Counter)}
    (labelled : ∀ field ∈ fields, Labelled field) {left right : List Nat}
    (size : left.length = fields.length) (size' : right.length = fields.length)
    (same : shown fields left = shown fields right) : left = right := by
  induction fields generalizing left right with
  | nil => rw [List.eq_nil_of_length_eq_zero size, List.eq_nil_of_length_eq_zero size']
  | cons field fields ih =>
      cases left with
      | nil => cases size
      | cons value left =>
      cases right with
      | nil => cases size'
      | cons value' right =>
      rw [List.forall_mem_cons] at labelled
      rw [List.length_cons, List.length_cons, Nat.add_right_cancel_iff] at size size'
      rw [shown_cons, shown_cons, List.append_cancel_left_eq] at same
      cases fields with
      | nil =>
          rw [List.eq_nil_of_length_eq_zero size, List.eq_nil_of_length_eq_zero size'] at same ⊢
          rw [List.append_cancel_right_eq] at same
          rw [decimal_injective (String.toList_inj.mp same)]
      | cons next fields =>
          obtain ⟨first, rest, label, nondigit⟩ := labelled.2 next (List.mem_cons_self ..)
          have begins (values : List Nat) (size : values.length = (next :: fields).length) :
              ∃ others, shown (next :: fields) values = first :: others := by
            cases values with
            | nil => cases size
            | cons value values => exact ⟨_, by rw [shown_cons, label, List.cons_append]⟩
          obtain ⟨others, shows⟩ := begins left size
          obtain ⟨others', shows'⟩ := begins right size'
          rw [shows, shows'] at same
          obtain ⟨rfl, rfl⟩ := decimal_append_injective nondigit same
          rw [ih labelled.2 size size' (shows.trans shows'.symm)]

theorem labelled_fields : ∀ field ∈ fields, Labelled field := by
  have each {label : String} {counter : Counter} (first : Char) (rest : List Char)
      (splits : label.toList = first :: rest) (nondigit : first.isDigit = false) :
      Labelled (label, counter) := ⟨first, rest, splits, nondigit⟩
  simp only [fields, List.forall_mem_cons]
  refine ⟨each 'a' _ rfl rfl, each ' ' _ rfl rfl, each ' ' _ rfl rfl, each ' ' _ rfl rfl,
    each ' ' _ rfl rfl, each ' ' _ rfl rfl, each ' ' _ rfl rfl, each ' ' _ rfl rfl,
    each ' ' _ rfl rfl, each ' ' _ rfl rfl, nofun⟩

theorem currentMetrics_injective {left right : List Nat} (size : left.length = order.length)
    (size' : right.length = order.length)
    (same : currentMetrics left = currentMetrics right) : left = right :=
  shown_injective labelled_fields size size' (String.ofList_injective same)

theorem currentMetrics_ne_empty {values : List Nat} (size : values.length = order.length) :
    currentMetrics values ≠ "" := by
  intro empty
  cases values with
  | nil => cases size
  | cons value values =>
      have chars := congrArg String.toList empty
      rw [currentMetrics, String.toList_ofList, fields, shown_cons] at chars
      exact absurd chars (List.cons_ne_nil _ _)

/-! Every run. -/

theorem step_cases {printer next : MetricsPrinter} {event : Event}
    (taken : printer.step event = some next) :
    (∃ counter amount, event = .incBy counter amount ∧
      next = { printer with
        counters := Function.update printer.counters counter
          (printer.counters counter + amount) }) ∨
    (event = .tick ∧ printer.reading = none ∧ next = { printer with reading := some [] }) ∨
    (∃ values counter, event = .get ∧ printer.reading = some values ∧
      order[values.length]? = some counter ∧
      next = { printer with reading := some (values ++ [printer.counters counter]) }) ∨
    (∃ timestamp values, event = .compare timestamp ∧ printer.reading = some values ∧
      values.length = order.length ∧
      currentMetrics (values.map UInt64.toNat) ≠ printer.previousMetrics ∧
      next = { printer with
        reading := none
        previousMetrics := currentMetrics (values.map UInt64.toNat)
        printed := printer.printed ++
          [line timestamp (currentMetrics (values.map UInt64.toNat))] }) ∨
    (∃ timestamp values, event = .compare timestamp ∧ printer.reading = some values ∧
      values.length = order.length ∧
      currentMetrics (values.map UInt64.toNat) = printer.previousMetrics ∧
      next = { printer with reading := none }) := by
  cases event with
  | incBy counter amount =>
      cases taken
      exact .inl ⟨counter, amount, rfl, rfl⟩
  | tick =>
      right; left
      cases waits : printer.reading with
      | none =>
          rw [step, waits] at taken
          cases taken
          exact ⟨rfl, rfl, rfl⟩
      | some values =>
          rw [step, waits] at taken
          cases taken
  | get =>
      right; right; left
      obtain ⟨values, reads, taken⟩ := Option.bind_eq_some_iff.mp taken
      obtain ⟨counter, next', taken⟩ := Option.bind_eq_some_iff.mp taken
      cases taken
      exact ⟨values, counter, rfl, reads, next', rfl⟩
  | compare timestamp =>
      right; right; right
      obtain ⟨values, reads, taken⟩ := Option.bind_eq_some_iff.mp taken
      obtain ⟨whole, taken⟩ := Option.ite_none_right_eq_some.mp taken
      by_cases changed : currentMetrics (values.map UInt64.toNat) ≠ printer.previousMetrics
      · rw [if_pos changed] at taken
        cases taken
        exact .inl ⟨timestamp, values, rfl, reads, whole, changed, rfl⟩
      · rw [if_neg changed] at taken
        cases taken
        exact .inr ⟨timestamp, values, rfl, reads, whole, not_not.mp changed, rfl⟩

/-- The values that the last line shows, if there is one. -/
def lastMetrics (snapshots : List Snapshot) : String :=
  match snapshots.getLast? with
  | none => ""
  | some snapshot => currentMetrics (order.map snapshot.values)

structure Printed (history : List Event) (printer : MetricsPrinter)
    (snapshots : List Snapshot) : Prop where
  counters : ∀ counter, (printer.counters counter).toNat = total history counter
  collected : ∀ values, printer.reading = some values →
    Collected (Held history) order (values.map UInt64.toNat)
  printed : printer.printed = snapshots.map Snapshot.line
  previous : printer.previousMetrics = lastMetrics snapshots
  behind : ∀ snapshot ∈ snapshots, snapshot.values ≤
    if printer.reading = none then total history else totalAtTick history
  faithful : Faithful history snapshots

theorem lastMetrics_concat (init : List Snapshot) (last : Snapshot) :
    lastMetrics (init ++ [last]) = currentMetrics (order.map last.values) := by
  rw [lastMetrics, List.getLast?_concat]

theorem Faithful.within_append {history : List Event} {snapshots : List Snapshot}
    (faithful : Faithful history snapshots) (event : Event) :
    ∀ snapshot ∈ snapshots,
      snapshot.before ++ [.compare snapshot.timestamp] <+: history ++ [event] ∧
        ∀ counter, Held snapshot.before counter (snapshot.values counter) := by
  intro snapshot member
  obtain ⟨earlier, held⟩ := faithful.within snapshot member
  exact ⟨earlier.trans (List.prefix_append _ _), held⟩

theorem Faithful.quiet {history : List Event} {snapshots : List Snapshot} {event : Event}
    (faithful : Faithful history snapshots) (other : ∀ timestamp, event ≠ .compare timestamp) :
    Faithful (history ++ [event]) snapshots where
  within := faithful.within_append event
  ordered := faithful.ordered
  increasing := faithful.increasing
  fresh := by
    intro before timestamp same
    exact absurd (List.append_inj_right' same rfl)
      fun single => other timestamp (List.singleton_inj.mp single)

section Step

variable {history : List Event} {printer : MetricsPrinter} {snapshots : List Snapshot}

theorem Printed.incBy (holds : Printed history printer snapshots) (counter : Counter)
    (amount : UInt64)
    (small : total (history ++ [.incBy counter amount]) counter < 2 ^ 64) :
    Printed (history ++ [.incBy counter amount])
      { printer with
        counters := Function.update printer.counters counter
          (printer.counters counter + amount) } snapshots where
  counters := by
    intro other
    rw [total_append, total_singleton, Event.raises]
    by_cases same : other = counter
    · subst same
      rw [total_append, total_singleton, Event.raises, if_pos rfl] at small
      simp only [Function.update_self, if_true]
      rw [UInt64.toNat_add, holds.counters, Nat.mod_eq_of_lt small]
    · simp only [Function.update_of_ne same, if_neg (Ne.symm same)]
      rw [holds.counters, Nat.add_zero]
  collected := by
    intro values reads
    have other : Event.incBy counter amount ≠ .tick := nofun
    exact (holds.collected values reads).mono fun _ _ held => held.other other
  printed := holds.printed
  previous := holds.previous
  behind := by
    intro snapshot member
    have bound := holds.behind snapshot member
    rw [totalAtTick_other (nofun : Event.incBy counter amount ≠ .tick)]
    split at bound
    · rename_i waits
      rw [if_pos waits]
      exact bound.trans (total_mono _ _)
    · rename_i reads
      rwa [if_neg reads]
  faithful := holds.faithful.quiet nofun

theorem Printed.tick (holds : Printed history printer snapshots)
    (waits : printer.reading = none) :
    Printed (history ++ [.tick]) { printer with reading := some [] } snapshots where
  counters := by
    intro counter
    rw [total_quiet fun _ => rfl]
    exact holds.counters counter
  collected := by
    rintro values ⟨⟩
    exact Collected.nil _ _
  printed := holds.printed
  previous := holds.previous
  behind := by
    intro snapshot member
    have bound := holds.behind snapshot member
    rw [if_pos waits] at bound
    rwa [if_neg (Option.some_ne_none _), totalAtTick_tick]
  faithful := holds.faithful.quiet nofun

theorem Printed.get (holds : Printed history printer snapshots) {values : List UInt64}
    {counter : Counter} (reads : printer.reading = some values)
    (next : order[values.length]? = some counter) :
    Printed (history ++ [.get])
      { printer with reading := some (values ++ [printer.counters counter]) } snapshots where
  counters := by
    intro counter
    rw [total_quiet fun _ => rfl]
    exact holds.counters counter
  collected := by
    rintro values ⟨⟩
    rw [List.map_append, List.map_singleton, holds.counters]
    have other : Event.get ≠ .tick := nofun
    refine ((holds.collected _ reads).read ?_ (held_now history counter)).mono
      fun _ _ held => held.other other
    rwa [List.length_map]
  printed := holds.printed
  previous := holds.previous
  behind := by
    intro snapshot member
    have bound := holds.behind snapshot member
    rw [reads, if_neg (Option.some_ne_none _)] at bound
    rwa [if_neg (Option.some_ne_none _), totalAtTick_other (nofun : Event.get ≠ .tick)]
  faithful := holds.faithful.quiet nofun

/-- A full reading is a snapshot. -/
theorem Printed.exists_snapshot (holds : Printed history printer snapshots)
    {values : List UInt64} (reads : printer.reading = some values)
    (whole : values.length = order.length) :
    ∃ snapshot : Counter → Nat, order.map snapshot = values.map UInt64.toNat ∧
      ∀ counter, Held history counter (snapshot counter) := by
  refine (holds.collected values reads).exists_snapshot ?_ (by decide) mem_order
  rwa [List.length_map]

theorem snapshot_eq_of_currentMetrics {left right : Counter → Nat}
    (same : currentMetrics (order.map left) = currentMetrics (order.map right)) :
    left = right := by
  have values := currentMetrics_injective (List.length_map ..) (List.length_map ..) same
  funext counter
  exact List.map_inj_left.mp values counter (mem_order counter)

/-- The last snapshot is the greatest. -/
theorem le_last {init : List Snapshot} {last snapshot : Snapshot}
    (increasing : (init ++ [last]).Pairwise fun earlier later => earlier.values < later.values)
    (member : snapshot ∈ init ++ [last]) : snapshot.values ≤ last.values := by
  rcases List.mem_append.mp member with earlier | same
  · exact ((List.pairwise_append.mp increasing).2.2 snapshot earlier last
      (List.mem_singleton_self last)).le
  · rw [List.mem_singleton.mp same]

theorem Printed.compare_changed (holds : Printed history printer snapshots)
    {values : List UInt64} (timestamp : String) (reads : printer.reading = some values)
    (whole : values.length = order.length)
    (changed : currentMetrics (values.map UInt64.toNat) ≠ printer.previousMetrics) :
    ∃ snapshot, Printed (history ++ [.compare timestamp])
      { printer with
        reading := none
        previousMetrics := currentMetrics (values.map UInt64.toNat)
        printed := printer.printed ++
          [line timestamp (currentMetrics (values.map UInt64.toNat))] }
      (snapshots ++ [⟨history, timestamp, snapshot⟩]) := by
  obtain ⟨snapshot, shows, held⟩ := holds.exists_snapshot reads whole
  have below : ∀ earlier ∈ snapshots, earlier.values ≤ snapshot := by
    intro earlier member
    have bound := holds.behind earlier member
    rw [reads, if_neg (Option.some_ne_none _)] at bound
    exact bound.trans fun counter => (held counter).low
  have above : ∀ earlier ∈ snapshots, earlier.values < snapshot := by
    intro earlier member
    rcases List.eq_nil_or_concat' snapshots with rfl | ⟨init, last, rfl⟩
    · exact absurd member List.not_mem_nil
    · have next : last.values ≠ snapshot := by
        intro same
        rw [holds.previous, lastMetrics_concat, same, shows] at changed
        exact changed rfl
      exact (le_last holds.faithful.increasing member).trans_lt
        ((below last (List.mem_append_right _ (List.mem_singleton_self last))).lt_of_ne next)
  have shorter : ∀ earlier ∈ snapshots, earlier.before.length < history.length := by
    intro earlier member
    have size := (holds.faithful.within earlier member).1.length_le
    rwa [List.length_append, List.length_singleton] at size
  refine ⟨snapshot, ⟨?_, nofun, ?_, ?_, ?_, ?_, ?_, ?_, ?_⟩⟩
  · intro counter
    rw [total_quiet fun _ => rfl]
    exact holds.counters counter
  · rw [List.map_append, ← holds.printed, List.map_singleton, Snapshot.line, shows]
  · rw [lastMetrics_concat, shows]
  · rw [if_pos rfl, total_quiet fun _ => rfl, List.forall_mem_append, List.forall_mem_singleton]
    have high : snapshot ≤ total history := fun counter => (held counter).high
    exact ⟨fun earlier member => (below earlier member).trans high, high⟩
  · rw [List.forall_mem_append, List.forall_mem_singleton]
    exact ⟨holds.faithful.within_append _, List.prefix_rfl, held⟩
  · exact pairwise_concat holds.faithful.ordered shorter
  · exact pairwise_concat holds.faithful.increasing above
  · intro before timestamp' same
    rw [(List.append_inj' same rfl).1] at held
    exact ⟨_, List.getLast?_concat, held⟩

theorem Printed.compare_same (holds : Printed history printer snapshots)
    {values : List UInt64} (timestamp : String) (reads : printer.reading = some values)
    (whole : values.length = order.length)
    (same : currentMetrics (values.map UInt64.toNat) = printer.previousMetrics) :
    Printed (history ++ [.compare timestamp]) { printer with reading := none } snapshots := by
  obtain ⟨snapshot, shows, held⟩ := holds.exists_snapshot reads whole
  have last : ∃ last ∈ snapshots.getLast?, last.values = snapshot := by
    rw [holds.previous] at same
    rcases List.eq_nil_or_concat' snapshots with rfl | ⟨init, last, rfl⟩
    · refine absurd same (currentMetrics_ne_empty ?_)
      rwa [List.length_map]
    · rw [lastMetrics_concat, ← shows] at same
      exact ⟨last, List.getLast?_concat, (snapshot_eq_of_currentMetrics same).symm⟩
  obtain ⟨last, isLast, rfl⟩ := last
  refine ⟨?_, nofun, holds.printed, holds.previous, ?_, ?_, holds.faithful.ordered,
    holds.faithful.increasing, ?_⟩
  · intro counter
    rw [total_quiet fun _ => rfl]
    exact holds.counters counter
  · intro earlier member
    have bound := holds.behind earlier member
    rw [reads, if_neg (Option.some_ne_none _)] at bound
    rw [if_pos rfl, total_quiet fun _ => rfl]
    exact bound.trans fun counter => (held counter).low.trans (held counter).high
  · exact holds.faithful.within_append _
  · intro before timestamp' same
    rw [(List.append_inj' same rfl).1] at held
    exact ⟨last, isLast, held⟩

theorem Printed.step {next : MetricsPrinter} {event : Event}
    (holds : Printed history printer snapshots) (taken : printer.step event = some next)
    (small : ∀ counter, total (history ++ [event]) counter < 2 ^ 64) :
    ∃ snapshots, Printed (history ++ [event]) next snapshots := by
  rcases step_cases taken with ⟨counter, amount, rfl, rfl⟩ | ⟨rfl, waits, rfl⟩ |
    ⟨values, counter, rfl, reads, next, rfl⟩ |
    ⟨timestamp, values, rfl, reads, whole, changed, rfl⟩ |
    ⟨timestamp, values, rfl, reads, whole, same, rfl⟩
  · exact ⟨_, holds.incBy counter amount (small counter)⟩
  · exact ⟨_, holds.tick waits⟩
  · exact ⟨_, holds.get reads next⟩
  · obtain ⟨snapshot, holds⟩ := holds.compare_changed timestamp reads whole changed
    exact ⟨_, holds⟩
  · exact ⟨_, holds.compare_same timestamp reads whole same⟩

end Step

theorem Printed.start : Printed [] {} [] where
  counters := fun _ => rfl
  collected := nofun
  printed := rfl
  previous := rfl
  behind := List.forall_mem_nil _
  faithful :=
    { within := List.forall_mem_nil _
      ordered := List.Pairwise.nil
      increasing := List.Pairwise.nil
      fresh := fun _ _ same =>
        absurd same.symm (List.append_ne_nil_of_right_ne_nil _ (List.cons_ne_nil _ _)) }

/-- While no counter overflows, the lines are snapshots of the counters, each value one that
its counter had since the tick, each line above the one before, and no more lines than the
counters can tell apart. -/
theorem lines_faithful {events : List Event} {final : MetricsPrinter}
    (small : ∀ counter, total events counter < 2 ^ 64)
    (ran : run step {} events = some final) :
    (∀ counter, (final.counters counter).toNat = total events counter) ∧
    ∃ snapshots, final.printed = snapshots.map Snapshot.line ∧ Faithful events snapshots ∧
      snapshots.length ≤ (∑ counter, total events counter) + 1 := by
  have holds : (∀ counter, total events counter < 2 ^ 64) →
      ∃ snapshots, Printed events final snapshots := by
    refine run_history_invariant (fun history printer =>
      (∀ counter, total history counter < 2 ^ 64) →
        ∃ snapshots, Printed history printer snapshots)
      ?_ (fun _ => ⟨[], Printed.start⟩) ran
    intro history printer event next ih taken small
    obtain ⟨snapshots, holds⟩ :=
      ih fun counter => (total_mono history [event] counter).trans_lt (small counter)
    exact holds.step taken small
  obtain ⟨snapshots, holds⟩ := holds small
  refine ⟨holds.counters, snapshots, holds.printed, holds.faithful, ?_⟩
  have bounded : ∀ values ∈ snapshots.map Snapshot.values, values ≤ total events := by
    rw [List.forall_mem_map]
    intro snapshot member
    obtain ⟨earlier, held⟩ := holds.faithful.within snapshot member
    have grown := total_mono_prefix ((List.prefix_append _ _).trans earlier)
    exact fun counter => (held counter).high.trans (grown counter)
  have increasing : (snapshots.map Snapshot.values).Pairwise (· < ·) :=
    List.pairwise_map.mpr holds.faithful.increasing
  simpa using length_le_of_increasing increasing bounded

/-- A counter is raised while the first line is read, and none after it. -/
def twoSeconds : List Event :=
  List.flatten
    [[.incBy .tcpConnectionsAccepted 1, .tick, .get, .get, .get, .get,
      .incBy .bytesTransmittedB 7, .get, .get, .get, .get, .get, .get,
      .compare "2025-02-14 07:17:58", .tick],
    List.replicate 10 .get, [.compare "2025-02-14 07:17:59"]]

def oneLine : List String :=
  ["2025-02-14 07:17:58 | accepted: 1 | failed_accept: 0 | quic_err: 0 | bytes_a: 0" ++
    " | bytes_b: 7 | tcp_quic_closed_err: 0 | tcp_quic_closed_graceful: 0" ++
    " | keepalive_err: 0 | server_opened: 0 | server_closed: 0"]

theorem lines_faithful_twoSeconds :
    ∃ final, run step {} twoSeconds = some final ∧ final.printed = oneLine ∧
      (∀ counter, (final.counters counter).toNat = total twoSeconds counter) ∧
      ∃ snapshots, final.printed = snapshots.map Snapshot.line ∧
        Faithful twoSeconds snapshots ∧
        snapshots.length ≤ (∑ counter, total twoSeconds counter) + 1 := by
  have lines : (run step {} twoSeconds).map MetricsPrinter.printed = some oneLine := by
    decide +kernel
  obtain ⟨final, ran, printed⟩ := Option.map_eq_some_iff.mp lines
  refine ⟨final, ran, printed, lines_faithful ?_ ran⟩
  intro counter
  cases counter <;> decide

end MetricsPrinter

end PortRedirect.Server
