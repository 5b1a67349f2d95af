import Mathlib.Data.List.Forall2
import Reckoner.Panel.Basic
import Reckoner.Proofs.Stamps.Keeping
import Reckoner.Proofs.Stamps.Window

/-!
# The rows of the listed log

Listing entries records them as seen and draws a row for each: the time of its reading, what was
calculated, and the result. After recording, every entry has a reading of the last seven days, so
there is a row for each entry as long as the clock of that moment is read back as a moment. The one
exception is a file of first sightings that is nested too deep: it breaks the drawing off when the
old rows are gone already.
-/

namespace Reckoner

open Calendar (Moment microsPerDay)

namespace Stamps

variable {held readings : Fields} {entries : List (Text × Text)} {oldest now : Number} {name : Text}

/-- A recorded entry has a reading from the oldest one that is kept to now. -/
theorem Remembered.exists_stamp (remembered : Remembered held entries oldest now readings)
    (current : now.isAtLeast oldest = true) (member : name ∈ keys entries) :
    ∃ stamp, (readings.get? name).bind Number.ofJson? = some stamp ∧
      stamp.isAtLeast oldest = true ∧ now.isAtLeast stamp = true := by
  by_cases known : ∃ reading, held.get? name = some reading ∧ IsWithin oldest now reading
  · obtain ⟨reading, held_name, within⟩ := known
    obtain ⟨stamp, same, least, most⟩ := id within
    refine ⟨stamp, ?_, least, most⟩
    rw [remembered.kept name member reading held_name within, Option.bind_some, same]
  · have seen := remembered.seen name member fun reading held_name within =>
      known ⟨reading, held_name, within⟩
    refine ⟨now, ?_, current, Number.isAtLeast_self current⟩
    rw [seen, Option.bind_some, ofJson?_toJson]

/-- The readings after entries have been recorded by the clock in a file that is not nested too
deep. -/
def readingsAfter (now : Moment) (entries : List (Text × Text)) (content : Option (List UInt8)) :
    Fields :=
  entries.foldl (remember (.double now.clock))
    (prune (.double (now.clock - .ofInt 604800)) (found content))

/-- A store that keeps readings for seven days, in a file that is not nested too deep. -/
structure Store.IsFlat (store : Store) : Prop where
  retention : store.retention = defaultRetention
  flat : ¬IsDeep store.content

variable {store : Store}

/-- A file that is not nested too deep is not so after every reading has been forgotten. -/
theorem not_isDeep_clear (flat : ¬IsDeep store.content) : ¬IsDeep store.clear.content := by
  have none : Lasting [] := ⟨List.nodup_nil, nofun, nofun⟩
  rw [Store.clear, Store.save_lasting none]
  split
  · exact (holds_saved none).not_isDeep
  · exact flat

/-- Every entry that is recorded has a reading of the last seven days. -/
theorem exists_stamp_readingsAfter (now : Moment) (content : Option (List UInt8))
    {entry : Text × Text} (member : entry ∈ entries) :
    ∃ stamp, ((readingsAfter now entries content).get? (entryKey entry.1 entry.2)).bind
      Number.ofJson? = some stamp ∧ IsOfLastWeek now stamp := by
  obtain ⟨distinct, -⟩ := found_isField content
  have current := isAtLeast_week now
  obtain ⟨stamp, reading, least, most⟩ :=
    (remembered_foldl distinct (Number.isAtLeast_self current) entries).exists_stamp current
      (List.mem_map_of_mem (f := fun entry => entryKey entry.1 entry.2) member)
  exact ⟨stamp, reading, least, most⟩

/-- The readings after recording are read back from the file that is written, if no recorded name is
split. -/
theorem lasting_readingsAfter (now : Moment) (content : Option (List UInt8))
    (unsplit : ∀ name ∈ keys entries, name.Unsplit) :
    Lasting (readingsAfter now entries content) := by
  obtain ⟨distinct, -⟩ := found_isField content
  have placed := Number.isAtLeast_self (isAtLeast_week now)
  exact (remembered_foldl distinct placed entries).lasting unsplit fun _ _ _ =>
    isReading_toJson now.clock_isFinite rfl

/-- In such a store every entry is recorded, if no recorded name is split. -/
theorem Store.IsFlat.record (flat : store.IsFlat) (now : Moment)
    (unsplit : ∀ name ∈ keys entries, name.Unsplit) :
    store.record entries (.double now.clock) =
      (.ok (readingsAfter now entries store.content),
        (store.save (readingsAfter now entries store.content)).2) := by
  have computed := cutoff_clock now
  rw [← flat.retention] at computed
  have done : recorded store.content store.retention (.double now.clock) entries =
      .ok (readingsAfter now entries store.content) := recorded_eq flat.flat computed entries
  have written : (store.save (readingsAfter now entries store.content)).1 = .ok () := by
    rw [Store.save_lasting (lasting_readingsAfter now store.content unsplit)]
  rw [record_of_recorded done, written]
  rfl

/-- A store goes on keeping readings in a file that is not nested too deep after recording. -/
theorem Store.IsFlat.saved (flat : store.IsFlat) (now : Moment)
    (unsplit : ∀ name ∈ keys entries, name.Unsplit) :
    (store.save (readingsAfter now entries store.content)).2.IsFlat ∧
      (store.writable = true →
        Holds (store.save (readingsAfter now entries store.content)).2.content
          (readingsAfter now entries store.content)) := by
  have lasting := lasting_readingsAfter now store.content unsplit
  have holds := holds_saved lasting
  rw [Store.save_lasting lasting]
  by_cases writable : store.writable = true
  · simp only [if_pos writable]
    exact ⟨⟨flat.retention, holds.not_isDeep⟩, fun _ => holds⟩
  · simp only [if_neg writable]
    exact ⟨flat, fun other => absurd other writable⟩

end Stamps

namespace Panel

/-! ## Rows that show entries -/

/-- A row shows an entry at a place, with the time of a reading of the last seven days; only a
reading of zero shows no time. -/
structure HistoryRow.Shows (now : Moment) (readings : Fields) (entry : Text × Text) (place : ℕ)
    (row : HistoryRow) : Prop where
  expression : row.expression = entry.1
  result : row.result = "= " ++ entry.2
  isEven : row.isEven = decide (place % 2 = 0)
  time : ∃ stamp, (readings.get? (Stamps.entryKey entry.1 entry.2)).bind Number.ofJson? =
    some stamp ∧ Stamps.IsOfLastWeek now stamp ∧
      ((stamp.isZero = true ∧ row.time = []) ∨
        stamp.isZero = false ∧ ∃ moment, stamp.moment = .ok moment ∧ row.time = moment.short)

/-- Rows show entries in order, one row for each, counted from a place on. -/
def ShowsFrom (now : Moment) (readings : Fields) (place : ℕ) (entries : List (Text × Text))
    (rows : List HistoryRow) : Prop :=
  List.Forall₂ (fun numbered row => row.Shows now readings numbered.1 numbered.2)
    (entries.zipIdx place) rows

variable {now : Moment} {readings : Fields} {entries : List (Text × Text)}

/-- The time of a reading that stands for a moment can be told. -/
theorem exists_firstSeen {entry : Text × Text} {stamp : Number} {moment : Moment}
    (reading : (readings.get? (Stamps.entryKey entry.1 entry.2)).bind Number.ofJson? = some stamp)
    (stands : stamp.moment = .ok moment) :
    ∃ time, firstSeen readings entry = .ok time ∧
      ((stamp.isZero = true ∧ time = []) ∨
        stamp.isZero = false ∧ ∃ moment, stamp.moment = .ok moment ∧ time = moment.short) := by
  unfold firstSeen
  rw [reading]
  cases zero : stamp.isZero with
  | true => exact ⟨[], by simp [zero], .inl ⟨rfl, rfl⟩⟩
  | false =>
    refine ⟨moment.short, ?_, .inr ⟨rfl, moment, stands, rfl⟩⟩
    simp only [zero, stands, Functor.map, Except.map, Bool.false_eq_true, ↓reduceIte]

/-- If every entry has a reading of the last seven days that stands for a moment, there is a row for
each. -/
theorem historyRows_shows (dated : ∀ entry ∈ entries, ∃ stamp,
      (readings.get? (Stamps.entryKey entry.1 entry.2)).bind Number.ofJson? = some stamp ∧
        Stamps.IsOfLastWeek now stamp ∧ ∃ moment, stamp.moment = .ok moment) (place : ℕ) :
    ∃ rows, historyRows readings (decide (place % 2 = 0)) entries = (rows, none) ∧
      ShowsFrom now readings place entries rows := by
  induction entries generalizing place with
  | nil => exact ⟨[], rfl, .nil⟩
  | cons entry entries ih =>
    obtain ⟨stamp, reading, recent, moment, stands⟩ := dated entry List.mem_cons_self
    obtain ⟨time, seen, shown⟩ := exists_firstSeen reading stands
    obtain ⟨rows, others, show_others⟩ :=
      ih (fun entry member => dated entry (List.mem_cons_of_mem _ member)) (place + 1)
    have next : decide ((place + 1) % 2 = 0) = !decide (place % 2 = 0) := by
      rw [← decide_not, decide_eq_decide]
      omega
    rw [next] at others
    refine ⟨⟨time, entry.1, "= " ++ entry.2, decide (place % 2 = 0)⟩ :: rows, ?_, ?_⟩
    · simp only [historyRows, seen, others]
    · exact .cons ⟨rfl, rfl, rfl, stamp, reading, recent, shown⟩ show_others

/-! ## Drawing -/

variable {σ : Type} {panel : Panel σ}

/-- A file that is nested too deep breaks drawing off, without a row. -/
theorem drawEntries_of_isDeep (deep : Stamps.IsDeep panel.stamps.content)
    (now : Moment) (entries : List (Text × Text)) :
    (drawEntries now entries panel).1 =
      { panel with view := { panel.view with history := [] } } := by
  obtain ⟨container, broken⟩ := Stamps.record_of_isDeep deep entries (.double now.clock)
  simp only [drawEntries, broken]

/-- With any other file the readings are those after recording, and they are written if they can
be. -/
theorem drawEntries_of_isFlat (flat : panel.stamps.IsFlat) (now : Moment)
    (unsplit : ∀ name ∈ Stamps.keys entries, name.Unsplit) :
    (drawEntries now entries panel).1 = { panel with
      stamps := (panel.stamps.save
        (Stamps.readingsAfter now entries panel.stamps.content)).2
      view := { panel.view with
        history := (historyRows (Stamps.readingsAfter now entries panel.stamps.content) true
          entries).1
        status := if entries.isEmpty then "No calculations yet" else [] } } := by
  simp only [drawEntries, flat.record now unsplit]

/-- After recording there is a row for each entry, if the clock is read back as a moment and the
seven days before begin in the calendar. -/
theorem historyRows_readingsAfter (past : 7 * microsPerDay ≤ now.micros)
    (read : ∃ moment, Moment.ofClock now.clock = .ok moment) (content : Option (List UInt8)) :
    ShowsFrom now (Stamps.readingsAfter now entries content) 0 entries
      (historyRows (Stamps.readingsAfter now entries content) true entries).1 := by
  have dated : ∀ entry ∈ entries, ∃ stamp,
      ((Stamps.readingsAfter now entries content).get? (Stamps.entryKey entry.1 entry.2)).bind
        Number.ofJson? = some stamp ∧
        Stamps.IsOfLastWeek now stamp ∧ ∃ moment, stamp.moment = .ok moment := by
    intro entry member
    obtain ⟨stamp, reading, recent⟩ := Stamps.exists_stamp_readingsAfter now content member
    exact ⟨stamp, reading, recent, recent.exists_moment past read⟩
  obtain ⟨rows, drawn, shows_all⟩ := historyRows_shows dated 0
  rw [Nat.zero_mod, decide_eq_true rfl] at drawn
  rw [drawn]
  exact shows_all

end Panel

end Reckoner
