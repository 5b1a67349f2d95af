import Reckoner.Proofs.History.Retention

/-!
# Capacity and listing

A log can be given a capacity of its own, and after every addition it is cut to that. Listing it has
a limit as well, which is the usual capacity whatever the log's own one is. A log keeps the newest
of the entries that it accepted, as many as its capacity; so a listing shows all that is kept for
the capacities from zero to the usual one, and for another capacity as long as no more entries than
that have been accepted.
-/

namespace Reckoner

open Calendar (Moment)

/-- What is listed of a row. -/
def Row.entry (row : Row) : Text × Text := (row.expression, row.result)

namespace Change

/-- The entries that a log has accepted since it was emptied last, with the newest one in front,
after another change. -/
def accept (entries : List (Text × Text)) : Change → List (Text × Text)
  | .add expression result _ =>
    match Archive.texts expression result with
    | .error _ => entries
    | .ok texts => texts :: entries
  | .clear => []

/-- The entries that changes to a new log offer it and that can be stored, since it was emptied
last, with the newest one in front. -/
def accepted (changes : List Change) : List (Text × Text) := changes.foldl accept []

/-- What is kept of entries: as many as the capacity, or none if no number of them can be kept. -/
def kept (capacity : Except LogError Int) (entries : List (Text × Text)) : List (Text × Text) :=
  match capacity with
  | .error _ => []
  | .ok capacity => limited capacity entries

/-- A new log with the capacity that a value sets, after changes. -/
def logWithin (capacity : Json) (changes : List Change) : Archive :=
  (Command.run Archive.answer (Archive.new.withCapacity capacity) (changes.map command)).2

/-- A listing without a number of days shows everything that a log keeps. -/
def ListsAll (now : Moment) (archive : Archive) : Prop :=
  LocalService.history now .null archive = .ok (archive.log.newestFirst.map Row.entry)

/-! ## What is kept -/

/-- Of no entries none are kept. -/
theorem kept_nil (capacity : Except LogError Int) : kept capacity [] = [] := by
  cases capacity with
  | error e => rfl
  | ok capacity => exact limited_eq_self (Nat.zero_le _)

/-- A ledger that keeps what its capacity allows of some entries does so after a change. -/
theorem keeps_answer {ledger : Ledger} {entries : List (Text × Text)}
    (keeps : ledger.rows.map Row.entry = kept ledger.capacity entries) (change : Change) :
    (ledger.answer change.command).2.capacity = ledger.capacity ∧
      (ledger.answer change.command).2.rows.map Row.entry =
        kept ledger.capacity (accept entries change) := by
  obtain ⟨rows, given, capacity⟩ := ledger
  cases change with
  | clear => exact ⟨rfl, (kept_nil capacity).symm⟩
  | add expression result moment =>
    simp only [command, Ledger.answer, accept]
    cases Archive.texts expression result with
    | error e => exact ⟨rfl, keeps⟩
    | ok texts =>
      cases capacity with
      | error e => exact ⟨rfl, keeps⟩
      | ok capacity =>
        refine ⟨rfl, ?_⟩
        have before : rows.map Row.entry = limited capacity entries := keeps
        simp only [kept, ← limited_map, List.map_cons, before]
        exact limited_cons_limited capacity texts entries

/-- So does it after any changes. -/
theorem keeps_run {ledger : Ledger} {entries : List (Text × Text)}
    (keeps : ledger.rows.map Row.entry = kept ledger.capacity entries) (changes : List Change) :
    (Command.run Ledger.answer ledger (changes.map command)).2.rows.map Row.entry =
      kept ledger.capacity (changes.foldl accept entries) := by
  induction changes generalizing ledger entries with
  | nil => exact keeps
  | cons change changes ih =>
    obtain ⟨capacity, next⟩ := keeps_answer keeps change
    rw [← capacity] at next ⊢
    exact ih next

/-- A log keeps the newest of the entries that it accepted, as many as its capacity, and can be
used. -/
theorem logWithin_keeps (capacity : Json) (changes : List Change) :
    (logWithin capacity changes).locked = false ∧
      (logWithin capacity changes).log.newestFirst.map Row.entry =
        kept (Column.limit 1 capacity) (accepted changes) := by
  let ledger : Ledger := ⟨[], 0, Column.limit 1 capacity⟩
  have start : (Archive.new.withCapacity capacity).Stores ledger :=
    ⟨Log.ordered_empty, rfl, rfl, rfl, rfl⟩
  have stores := (Command.run_related Archive.Stores
    (fun _ _ command stores => stores.answer command) (changes.map command) start).2
  have nothing : ledger.rows.map Row.entry = kept ledger.capacity [] := (kept_nil _).symm
  refine ⟨stores.usable, ?_⟩
  rw [logWithin, stores.rows]
  exact keeps_run nothing changes

/-- As many entries as one likes can be accepted. -/
theorem accepted_replicate (count : Nat) :
    (accepted (List.replicate count onePlusOne)).length = count := by
  have step (entries : List (Text × Text)) :
      ((List.replicate count onePlusOne).foldl accept entries).length = entries.length + count := by
    induction count generalizing entries with
    | zero => rfl
    | succ count ih =>
      rw [List.replicate_succ, List.foldl_cons, ih]
      exact Nat.succ_add_eq_add_succ _ _
  exact (step []).trans (Nat.zero_add count)

/-! ## What is listed -/

/-- As many entries are listed as is usual. -/
theorem history_kept {archive : Archive} (usable : archive.locked = false) (now : Moment) :
    LocalService.history now .null archive =
      .ok (limited Log.defaultCapacity (archive.log.newestFirst.map Row.entry)) := by
  rw [limited_map]
  exact Archive.history_newest usable now

/-- Everything that is kept of entries is listed exactly if the capacity is between zero and the
usual one, or no more entries than that have been accepted, or none can be kept. -/
theorem kept_few_iff (capacity : Except LogError Int) (entries : List (Text × Text)) :
    (kept capacity entries).length ≤ Log.defaultCapacity.toNat ↔
      ∀ room, capacity = .ok room →
        (0 ≤ room ∧ room ≤ Log.defaultCapacity) ∨
          entries.length ≤ Log.defaultCapacity.toNat := by
  cases capacity with
  | error e => exact ⟨nofun, fun _ => Nat.zero_le _⟩
  | ok room =>
    have few : (kept (.ok room) entries).length ≤ Log.defaultCapacity.toNat ↔
        (0 ≤ room ∧ room ≤ Log.defaultCapacity) ∨
          entries.length ≤ Log.defaultCapacity.toNat := by
      rw [kept, length_limited, Log.defaultCapacity]
      split
      · omega
      · omega
    rw [few]
    exact ⟨fun fits _ same => Except.ok.inj same ▸ fits, fun fits => fits room rfl⟩

/-- When a log lists everything that it keeps. After any additions and emptyings a log with any
capacity keeps the newest of the entries that it accepted since it was emptied last, as many as the
capacity, and a listing without a number of days shows the first ten of them. That is everything
exactly if the capacity is from zero to ten, or no more than ten entries have been accepted; where
no number of entries can be kept, nothing is kept and nothing listed. So it is exactly for the
capacities from zero to ten that a listing always shows what the log keeps. -/
theorem lists_all_iff (capacity : Json) (now : Moment) :
    (∀ changes,
      let archive := logWithin capacity changes
      let stored := archive.log.newestFirst.map Row.entry
      stored = kept (Column.limit 1 capacity) (accepted changes) ∧
      LocalService.history now .null archive = .ok (stored.take 10) ∧
      (ListsAll now archive ↔ ∀ room, Column.limit 1 capacity = .ok room →
        (0 ≤ room ∧ room ≤ 10) ∨ (accepted changes).length ≤ 10)) ∧
    ((∀ changes, ListsAll now (logWithin capacity changes)) ↔
      ∀ room, Column.limit 1 capacity = .ok room → 0 ≤ room ∧ room ≤ 10) := by
  have each (changes : List Change) : ListsAll now (logWithin capacity changes) ↔
      ∀ room, Column.limit 1 capacity = .ok room →
        (0 ≤ room ∧ room ≤ 10) ∨ (accepted changes).length ≤ 10 := by
    obtain ⟨usable, stored⟩ := logWithin_keeps capacity changes
    rw [ListsAll, history_kept usable now, Except.ok.injEq, limited_eq_self_iff, stored,
      or_iff_right (by decide)]
    exact kept_few_iff _ _
  refine ⟨fun changes => ?_, ?_⟩
  · obtain ⟨usable, stored⟩ := logWithin_keeps capacity changes
    exact ⟨stored, history_kept usable now, each changes⟩
  · constructor
    · intro all room same
      -- Eleven entries are more than a listing shows.
      have eleven := (each _).1 (all (List.replicate 11 onePlusOne)) room same
      rw [accepted_replicate] at eleven
      exact eleven.resolve_right (by decide)
    · exact fun fits changes => (each changes).2 fun room same => .inl (fits room same)

/-- A log for eleven entries keeps eleven sums and lists ten of them. -/
theorem elevenSums_cut :
    let archive := logWithin (.int 11) (List.replicate 11 onePlusOne)
    let sum : Text × Text := ("1 + 1", ['2'])
    archive.log.newestFirst.map Row.entry = List.replicate 11 sum ∧
      LocalService.history newYear .null archive = .ok (List.replicate 10 sum) ∧
        ¬ListsAll newYear archive := by
  intro archive sum
  have stored : archive.log.newestFirst.map Row.entry = List.replicate 11 sum := by
    decide +kernel
  have listed : LocalService.history newYear .null archive = .ok (List.replicate 10 sum) := by
    rw [history_kept (logWithin_keeps _ _).1, stored]
    rfl
  refine ⟨stored, listed, fun all => ?_⟩
  rw [ListsAll, listed, stored] at all
  exact absurd (congrArg List.length (Except.ok.inj all)) (by decide)

end Change

end Reckoner
