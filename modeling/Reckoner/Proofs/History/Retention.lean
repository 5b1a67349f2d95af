import Mathlib.Data.List.Nodup
import Reckoner.Proofs.Calendar.Stamp
import Reckoner.Proofs.Service.Local

/-!
# The last days

A log keeps the stamps of its rows and forgets their moments, so a request for the last days
compares stamps. Here the moments are kept beside the rows: what is listed is to be the rows whose
moments are not before the beginning of those days, in seconds. It is, as long as the year in which
the days begin and the years of the rows compare as their numerals do, and in no other case. Years
of four digits always do.
-/

namespace Reckoner

open Calendar (Moment microsPerDay)
open Calendar.Moment (YearsInOrder)

/-- A row together with the moment that it was stamped at. -/
structure Entry where
  row : Row
  moment : Moment
  stamped : row.stamp = moment.stamp

/-- What can happen to the rows of a log. -/
inductive Change where
  | add (expression result : Json) (moment : Moment)
  | clear

/-- The entries of a log with the newest one in front, and how many there ever were. -/
structure Entries where
  kept : List Entry
  given : Nat
  few : kept.length ≤ Log.defaultCapacity.toNat

namespace Entries

/-- There are no entries at first. -/
def new : Entries := ⟨[], 0, Nat.zero_le _⟩

/-- The entries after a change: what can be stored comes to the front, and the oldest entry goes
if there are too many. -/
def after (entries : Entries) : Change → Entries
  | .add expression result moment =>
    match Archive.texts expression result with
    | .error _ => entries
    | .ok (expression, result) =>
      let entry : Entry := ⟨⟨entries.given + 1, expression, result, moment.stamp⟩, moment, rfl⟩
      ⟨limited Log.defaultCapacity (entry :: entries.kept), entries.given + 1,
        length_limited_le (by decide) _⟩
  | .clear => ⟨[], entries.given, Nat.zero_le _⟩

/-- The entries after changes to a new log. -/
def ofChanges (changes : List Change) : Entries := changes.foldl after new

/-- The entries as a ledger, which has no moments. -/
def ledger (entries : Entries) : Ledger :=
  ⟨entries.kept.map (·.row), entries.given, .ok Log.defaultCapacity⟩

/-- The rows of the entries whose moments are in the same second as another or later. -/
def notBefore (entries : Entries) (bound : Moment) : List Row :=
  (entries.kept.filter fun entry => decide (bound.seconds ≤ entry.moment.seconds)).map (·.row)

/-- Whether a moment's year compares with the year of each entry as their numerals do. -/
def YearsInOrder (entries : Entries) (bound : Moment) : Prop :=
  ∀ entry ∈ entries.kept, Moment.YearsInOrder bound.date.year entry.moment.date.year

end Entries

namespace Change

/-- The command that makes a change. -/
def command : Change → Command
  | .add expression result moment => .add expression result moment
  | .clear => .clear

/-- A new log after changes. -/
def log (changes : List Change) : Archive :=
  (Command.run Archive.answer .new (changes.map command)).2

/-! ## The log holds the entries -/

/-- A limit leaves the same items whether they are mapped before or after. -/
theorem limited_map {α β : Type} (f : α → β) (limit : Int) (items : List α) :
    limited limit (items.map f) = (limited limit items).map f := by
  unfold limited
  split
  · rfl
  · exact List.map_take.symm

/-- A change to the entries is a change to their ledger. -/
theorem ledger_after (entries : Entries) (change : Change) :
    (entries.ledger.answer change.command).2 = (entries.after change).ledger := by
  cases change with
  | clear => rfl
  | add expression result moment =>
    simp only [command, Ledger.answer, Entries.after, Entries.ledger]
    cases Archive.texts expression result with
    | error e => rfl
    | ok texts => simp only [← limited_map, List.map_cons]

/-- Changes to a log are changes to the entries that it stores. -/
theorem stores_run (changes : List Change) {archive : Archive} {entries : Entries}
    (stores : archive.Stores entries.ledger) :
    (Command.run Archive.answer archive (changes.map command)).2.Stores
      (changes.foldl Entries.after entries).ledger := by
  induction changes generalizing archive entries with
  | nil => exact stores
  | cons change changes ih =>
    have next := (stores.answer change.command).2
    rw [ledger_after] at next
    exact ih next

/-- A new log stores the entries of the changes made to it. -/
theorem stores_log (changes : List Change) :
    (log changes).Stores (Entries.ofChanges changes).ledger :=
  stores_run changes Archive.Stores.new

/-! ## Asking for the last days -/

/-- The moment some days ago is found if there is one. -/
theorem daysBefore_eq {now bound : Moment} {days : Int}
    (past : (bound.micros : Int) = now.micros - days * microsPerDay) :
    Calendar.daysBefore (.int days) now = .ok bound := by
  have first := now.lt_limit
  have second := bound.lt_limit
  have whole : Int.fdiv (days * microsPerDay) microsPerDay = days :=
    Int.mul_fdiv_cancel _ (by decide)
  have within : -3652059 < days ∧ days < 3652059 := by
    simp only [Calendar.dayLimit, microsPerDay, Calendar.microsPerSecond] at past first second
    omega
  have span : Calendar.checkSpan (days * microsPerDay) = .ok (days * microsPerDay) := by
    rw [Calendar.checkSpan, whole, if_neg (by omega), if_neg (by omega)]
  have found : Moment.ofMicros? (now.micros - days * microsPerDay) = some bound := by
    rw [← past]
    exact dif_pos second
  simp only [Calendar.daysBefore, Calendar.microsOfDays, bind, Except.bind, span, found]

/-- A log lists the entries whose stamps are not before that of the moment some days ago. -/
theorem rows_eq {archive : Archive} {entries : Entries} (stores : archive.Stores entries.ledger)
    {now bound : Moment} {days : Int}
    (past : (bound.micros : Int) = now.micros - days * microsPerDay) :
    LocalService.rows now (.int days) archive =
      .ok ((entries.kept.filter fun entry => decide (bound.stamp ≤ entry.moment.stamp)).map
        (·.row)) := by
  have unlocked : ¬archive.locked = true := by simp [stores.usable]
  have stamps : (fun row : Row => decide (bound.stamp ≤ row.stamp)) ∘ (·.row) =
      fun entry : Entry => decide (bound.stamp ≤ entry.moment.stamp) := by
    funext entry
    simp only [Function.comp_apply, entry.stamped]
  have short : ((entries.kept.map (·.row)).filter
      fun row => decide (bound.stamp ≤ row.stamp)).length ≤ Log.defaultCapacity.toNat := by
    refine Nat.le_trans (List.length_filter_le _ _) ?_
    rw [List.length_map]
    exact entries.few
  have listed : archive.log.recent Log.defaultCapacity (some bound.stamp) =
      (entries.kept.filter fun entry => decide (bound.stamp ≤ entry.moment.stamp)).map (·.row) := by
    rw [Log.recent, stores.rows]
    exact (limited_eq_self short).trans (by rw [List.filter_map, stamps])
  simp only [LocalService.rows, if_neg unlocked, Archive.recent, daysBefore_eq past, bind,
    Except.bind, Except.mapError, Functor.map, Except.map, Option.map_some, listed]

/-- Two conditions that leave the same of items with different images are the same for each of
the items. -/
theorem map_filter_eq_iff {α β : Type} {f : α → β} {items : List α}
    (different : (items.map f).Nodup) {p q : α → Bool} :
    (items.filter p).map f = (items.filter q).map f ↔ ∀ item ∈ items, p item = q item := by
  have left {item : α} (member : item ∈ items) (r : α → Bool) :
      f item ∈ (items.filter r).map f ↔ r item = true := by
    constructor
    · intro image
      obtain ⟨other, kept, same⟩ := List.mem_map.1 image
      obtain ⟨among, holds⟩ := List.mem_filter.1 kept
      rwa [List.inj_on_of_nodup_map different member among same.symm]
    · intro holds
      exact List.mem_map_of_mem (List.mem_filter.2 ⟨member, holds⟩)
  constructor
  · intro same item member
    rw [Bool.eq_iff_iff, ← left member p, ← left member q, same]
  · intro agree
    rw [List.filter_congr agree]

/-- The rows that are listed are those of the entries from the moment on exactly if the years
compare as their numerals do. -/
theorem listed_iff {archive : Archive} {entries : Entries} (stores : archive.Stores entries.ledger)
    (bound : Moment) :
    (entries.kept.filter fun entry => decide (bound.stamp ≤ entry.moment.stamp)).map (·.row) =
        entries.notBefore bound ↔ entries.YearsInOrder bound := by
  have different : (entries.kept.map (·.row)).Nodup := by
    have descending := stores.ordered.descending
    rw [stores.rows] at descending
    refine descending.imp fun {newer older} lower same => ?_
    rw [same] at lower
    exact Nat.lt_irrefl _ lower
  refine (map_filter_eq_iff different).trans (forall₂_congr fun entry _ => ?_)
  rw [decide_eq_decide]
  exact Moment.stamp_le_iff_seconds

/-- Rows from an earlier moment on are more rows. -/
theorem notBefore_sublist (entries : Entries) {earlier bound : Moment}
    (le : earlier.micros ≤ bound.micros) :
    (entries.notBefore bound).Sublist (entries.notBefore earlier) := by
  have seconds : earlier.seconds ≤ bound.seconds := Nat.div_le_div_right le
  refine (List.monotone_filter_right _ fun entry => ?_).map _
  simp only [decide_eq_true_eq]
  exact Nat.le_trans seconds

/-- Which rows of the last days are listed. After any changes to a new log, and for any number of
days, even a negative one, that leads to a moment: the rows of the last days can be listed. They are
the rows whose moments are not before that one, newest first, exactly if the year of that moment
and the years of the rows compare as their numerals do. This they do where all the years have four
digits. Where they do, more days list more rows. -/
theorem lists_last_days_iff (changes : List Change) (now bound : Moment) (days : Int)
    (past : (bound.micros : Int) = now.micros - days * microsPerDay) :
    let entries := Entries.ofChanges changes
    ∃ rows, LocalService.rows now (.int days) (log changes) = .ok rows ∧
      (rows = entries.notBefore bound ↔ entries.YearsInOrder bound) ∧
      (1000 ≤ bound.date.year → (∀ entry ∈ entries.kept, 1000 ≤ entry.moment.date.year) →
        rows = entries.notBefore bound) ∧
      ∀ (more : Int) (earlier : Moment),
        (earlier.micros : Int) = now.micros - more * microsPerDay → days ≤ more →
        entries.YearsInOrder bound → entries.YearsInOrder earlier →
        ∃ others, LocalService.rows now (.int more) (log changes) = .ok others ∧
          rows.Sublist others := by
  intro entries
  have stores := stores_log changes
  have exact := listed_iff stores bound
  refine ⟨_, rows_eq stores past, exact, fun long all => ?_, ?_⟩
  · exact exact.2 fun entry member => Moment.yearsInOrder_of_four_digits long (all entry member)
  · intro more earlier further le inOrder alsoInOrder
    refine ⟨_, rows_eq stores further, ?_⟩
    rw [exact.2 inOrder, (listed_iff stores earlier).2 alsoInOrder]
    refine notBefore_sublist _ ?_
    have longer : days * microsPerDay ≤ more * microsPerDay :=
      Int.mul_le_mul_of_nonneg_right le (Int.natCast_nonneg _)
    omega

/-! ## A row of the year 2024 -/

/-- The first moment of the year 2024. -/
def newYear : Moment := ⟨Calendar.daysBeforeYear 2024 * microsPerDay, by decide⟩

/-- Four minutes and five seconds past three on the next day. -/
def nextMorning : Moment :=
  ⟨(Calendar.daysBeforeYear 2024 + 1) * microsPerDay + 11045 * Calendar.microsPerSecond, by decide⟩

/-- A sum that is logged. -/
def onePlusOne : Change := .add (.string "1 + 1") (.string ['2']) newYear

/-- A sum that was logged a year before. -/
def twoPlusTwo : Change :=
  .add (.string "2 + 2") (.string ['4']) ⟨Calendar.daysBeforeYear 2023 * microsPerDay, by decide⟩

/-- Of the two sums only the later one is listed among the last seven days, which begin in the year
2023 like the earlier one. Among the last four hundred days both are. -/
theorem lists_last_days_onePlusOne :
    let bound (days : Nat) : Moment :=
      ⟨nextMorning.micros - days * microsPerDay, (Nat.sub_le _ _).trans_lt nextMorning.lt_limit⟩
    1000 ≤ (bound 400).date.year ∧ 1000 ≤ (bound 7).date.year ∧
      LocalService.rows nextMorning (.int 7) (log [twoPlusTwo, onePlusOne]) =
        .ok [⟨2, "1 + 1", ['2'], "2024-01-01 00:00:00"⟩] ∧
      LocalService.rows nextMorning (.int 400) (log [twoPlusTwo, onePlusOne]) =
        .ok [⟨2, "1 + 1", ['2'], "2024-01-01 00:00:00"⟩,
          ⟨1, "2 + 2", ['4'], "2023-01-01 00:00:00"⟩] := by
  intro bound
  have all : ∀ entry ∈ (Entries.ofChanges [twoPlusTwo, onePlusOne]).kept,
      1000 ≤ entry.moment.date.year := by decide +kernel
  obtain ⟨rows, listed, -, exact, -⟩ := lists_last_days_iff [twoPlusTwo, onePlusOne] nextMorning
    (bound 7) 7 (by decide +kernel)
  obtain ⟨others, listed', -, exact', -⟩ := lists_last_days_iff [twoPlusTwo, onePlusOne] nextMorning
    (bound 400) 400 (by decide +kernel)
  have long : 1000 ≤ (bound 7).date.year := by decide +kernel
  have long' : 1000 ≤ (bound 400).date.year := by decide +kernel
  refine ⟨long', long, ?_, ?_⟩
  · rw [listed, exact long all]
    exact congrArg Except.ok (by decide +kernel)
  · rw [listed', exact' long' all]
    exact congrArg Except.ok (by decide +kernel)

/-- The sum is not listed among the last 374400 days, which begin in the year 998: as a numeral, the
year 2024 comes before it. -/
theorem longSpan_drops_onePlusOne :
    let bound : Moment := ⟨nextMorning.micros - 374400 * microsPerDay, by decide⟩
    bound.seconds ≤ newYear.seconds ∧ bound.date.year = 998 ∧
      (Entries.ofChanges [onePlusOne]).notBefore bound =
          [⟨1, "1 + 1", ['2'], "2024-01-01 00:00:00"⟩] ∧
        LocalService.rows nextMorning (.int 374400) (log [onePlusOne]) = .ok [] := by
  refine ⟨by decide +kernel, by decide +kernel, by decide +kernel, ?_⟩
  rfl

end Change

end Reckoner
