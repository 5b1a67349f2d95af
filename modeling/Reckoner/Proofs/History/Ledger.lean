import Reckoner.Proofs.History.Table

/-!
# The log as a list

A log is used by adding to it, emptying it, asking for rows and opening it again with another
capacity. A ledger says what each of these is to do, on a list with the newest row in front: an
addition puts a row there and cuts the list to the capacity, and whatever is refused changes
nothing. The log, which keeps its rows by number, answers every sequence of commands as the ledger
does, and holds the same rows afterwards. The numbers that it gives are one, two, three and so on,
whatever was trimmed, emptied or refused in between.
-/

namespace Reckoner

/-- What can be asked of a log. -/
inductive Command where
  | add (expression result : Json) (moment : Calendar.Moment)
  | clear
  | query (limit : Json) (since : Option Calendar.Moment)
  /-- Opens the log again, with the capacity that a value sets. -/
  | reopen (capacity : Json)

/-- What a command is answered with. -/
inductive Reply where
  | added (id : Nat)
  | listed (rows : List Row)
  | done
  | refused (error : LogError)
  deriving DecidableEq, Repr

namespace Reply

/-- The number of the row that was added. -/
def id? : Reply → Option Nat
  | added id => some id
  | _ => none

/-- The numbers of the rows that were added, in the order of the additions. -/
def ids (replies : List Reply) : List Nat := replies.filterMap id?

end Reply

namespace Command

/-- The replies to commands, one after another, and the state after the last one. -/
def run {σ : Type} (answer : σ → Command → Reply × σ) (start : σ) :
    List Command → List Reply × σ
  | [] => ([], start)
  | command :: commands =>
    let (reply, next) := answer start command
    let (replies, last) := run answer next commands
    (reply :: replies, last)

/-- Two ways of answering that keep a relation between their states and reply alike to each
command, reply alike to all commands. -/
theorem run_related {σ τ : Type} (related : σ → τ → Prop) {left : σ → Command → Reply × σ}
    {right : τ → Command → Reply × τ}
    (step : ∀ s t command, related s t →
      (left s command).1 = (right t command).1 ∧ related (left s command).2 (right t command).2)
    (commands : List Command) {s : σ} {t : τ} (start : related s t) :
    (run left s commands).1 = (run right t commands).1 ∧
      related (run left s commands).2 (run right t commands).2 := by
  induction commands generalizing s t with
  | nil => exact ⟨rfl, start⟩
  | cons command commands ih =>
    obtain ⟨reply, next⟩ := step s t command start
    obtain ⟨replies, last⟩ := ih next
    refine ⟨?_, last⟩
    simp only [run, reply, replies]

end Command

/-! ## The two ways of answering -/

namespace Archive

/-- A log's answer to a command, and the log after it. -/
def answer (archive : Archive) : Command → Reply × Archive
  | .add expression result moment =>
    match archive.add expression result moment with
    | (.ok id, archive) => (.added id, archive)
    | (.error e, archive) => (.refused e, archive)
  | .clear =>
    match archive.clear with
    | (.ok (), archive) => (.done, archive)
    | (.error e, archive) => (.refused e, archive)
  | .query limit since =>
    match archive.query limit since with
    | .ok rows => (.listed rows, archive)
    | .error e => (.refused e, archive)
  | .reopen capacity => (.done, archive.withCapacity capacity)

end Archive

/-- What a log is to be: its rows with the newest one in front, how many rows were ever added, and
how many are kept, or why no number of rows can be kept. -/
structure Ledger where
  rows : List Row
  given : Nat
  capacity : Except LogError Int

namespace Ledger

/-- A ledger without rows, with the default capacity. -/
def new : Ledger := ⟨[], 0, .ok Log.defaultCapacity⟩

/-- The rows stamped at a moment or later, by the text of their stamps; all rows without a
moment. -/
def since (moment : Option Calendar.Moment) (rows : List Row) : List Row :=
  rows.filter fun row => moment.all fun bound => decide (bound.stamp ≤ row.stamp)

/-- A ledger's answer to a command, and the ledger after it. -/
def answer (ledger : Ledger) : Command → Reply × Ledger
  | .add expression result moment =>
    match Archive.texts expression result, ledger.capacity with
    | .error e, _ => (.refused e, ledger)
    | .ok _, .error e => (.refused e, ledger)
    | .ok (expression, result), .ok capacity =>
      let row : Row := ⟨ledger.given + 1, expression, result, moment.stamp⟩
      (.added row.id, ⟨limited capacity (row :: ledger.rows), row.id, ledger.capacity⟩)
  | .clear => (.done, { ledger with rows := [] })
  | .query limit moment =>
    match Column.limit (if moment.isSome then 2 else 1) limit with
    | .error e => (.refused e, ledger)
    | .ok limit => (.listed (limited limit (since moment ledger.rows)), ledger)
  | .reopen capacity => (.done, { ledger with capacity := Column.limit 1 capacity })

/-- The numbers given in a run follow the last one that was given before it, without a gap. -/
theorem ids_run (ledger : Ledger) (commands : List Command) :
    ∃ count, (Command.run answer ledger commands).2.given = ledger.given + count ∧
      Reply.ids (Command.run answer ledger commands).1 = List.range' (ledger.given + 1) count := by
  induction commands generalizing ledger with
  | nil => exact ⟨0, rfl, rfl⟩
  | cons command commands ih =>
    obtain ⟨count, given, ids⟩ := ih (ledger.answer command).2
    -- A command either gives the next number or none at all.
    have step : (ledger.answer command).1.id? = none ∧
        (ledger.answer command).2.given = ledger.given ∨
      (ledger.answer command).1.id? = some (ledger.given + 1) ∧
        (ledger.answer command).2.given = ledger.given + 1 := by
      cases command with
      | add expression result moment =>
        unfold answer
        simp only
        split
        · exact .inl ⟨rfl, rfl⟩
        · exact .inl ⟨rfl, rfl⟩
        · exact .inr ⟨rfl, rfl⟩
      | query limit moment =>
        unfold answer
        simp only
        split
        · exact .inl ⟨rfl, rfl⟩
        · exact .inl ⟨rfl, rfl⟩
      | clear | reopen capacity => exact .inl ⟨rfl, rfl⟩
    rcases step with ⟨none, same⟩ | ⟨next, grown⟩
    · rw [same] at given ids
      refine ⟨count, given, ?_⟩
      rw [← ids]
      exact List.filterMap_cons_none none
    · rw [grown] at given ids
      refine ⟨count + 1, ?_, ?_⟩
      · rw [show ledger.given + (count + 1) = ledger.given + 1 + count by omega]
        exact given
      · rw [List.range'_succ, ← ids]
        exact List.filterMap_cons_some next

end Ledger

/-! ## Both answer alike -/

/-- A log that can be used and stores the rows of a ledger in order. -/
structure Archive.Stores (archive : Archive) (ledger : Ledger) : Prop where
  ordered : archive.log.Ordered
  usable : archive.locked = false
  capacity : archive.capacity = ledger.capacity
  rows : archive.log.newestFirst = ledger.rows
  given : archive.log.lastId = ledger.given

namespace Archive.Stores

variable {archive : Archive} {ledger : Ledger}

/-- A new log stores a new ledger. -/
theorem new : Archive.new.Stores Ledger.new := ⟨Log.ordered_empty, rfl, rfl, rfl, rfl⟩

/-- Adding to a log is adding to its ledger. -/
theorem add (stores : archive.Stores ledger) (expression result : Json)
    (moment : Calendar.Moment) :
    (archive.answer (.add expression result moment)).1 =
        (ledger.answer (.add expression result moment)).1 ∧
      (archive.answer (.add expression result moment)).2.Stores
        (ledger.answer (.add expression result moment)).2 := by
  obtain ⟨ordered, usable, capacity, rows, given⟩ := stores
  have unlocked : ¬archive.locked = true := by simp [usable]
  simp only [Archive.answer, Ledger.answer, Archive.add, if_neg unlocked, capacity]
  cases Archive.texts expression result with
  | error e => exact ⟨rfl, ordered, usable, capacity, rows, given⟩
  | ok texts =>
    cases kept : ledger.capacity with
    | error e => exact ⟨rfl, ordered, usable, capacity, rows, given⟩
    | ok limit =>
      have first := ordered.newestFirst_append limit texts.1 texts.2 moment.stamp
      rw [given, rows] at first
      refine ⟨?_, ordered.append limit _ _ _, usable, rfl, first, ?_⟩
      · simp only [given]
      · show archive.log.lastId + 1 = ledger.given + 1
        rw [given]

/-- Asking a log is asking its ledger. -/
theorem query (stores : archive.Stores ledger) (limit : Json)
    (moment : Option Calendar.Moment) :
    (archive.answer (.query limit moment)).1 = (ledger.answer (.query limit moment)).1 ∧
      (archive.answer (.query limit moment)).2.Stores
        (ledger.answer (.query limit moment)).2 := by
  have unlocked : ¬archive.locked = true := by simp [stores.usable]
  have listed (count : Int) : archive.log.recent count (moment.map (·.stamp)) =
      limited count (Ledger.since moment ledger.rows) := by
    rw [Log.recent, Ledger.since, stores.rows]
    cases moment with
    | none => rfl
    | some bound => rfl
  simp only [Archive.answer, Ledger.answer, Archive.query, Archive.recent, if_neg unlocked]
  cases Column.limit (if moment.isSome then 2 else 1) limit with
  | error e => exact ⟨rfl, stores⟩
  | ok count => exact ⟨congrArg Reply.listed (listed count), stores⟩

/-- A log answers every command as its ledger does. -/
theorem answer (stores : archive.Stores ledger) (command : Command) :
    (archive.answer command).1 = (ledger.answer command).1 ∧
      (archive.answer command).2.Stores (ledger.answer command).2 := by
  cases command with
  | add expression result moment => exact stores.add expression result moment
  | query limit moment => exact stores.query limit moment
  | clear =>
    have unlocked : ¬archive.locked = true := by simp [stores.usable]
    simp only [Archive.answer, Ledger.answer, Archive.clear, if_neg unlocked]
    exact ⟨trivial, Log.ordered_clear _, stores.usable, stores.capacity, rfl, stores.given⟩
  | reopen capacity =>
    exact ⟨rfl, stores.ordered, stores.usable, rfl, stores.rows, stores.given⟩

end Archive.Stores

/-! ## What is refused -/

/-- Texts that have bytes are stored as they are. -/
theorem Archive.texts_string {expression result : Text} (first : Utf8.check expression = .ok ())
    (second : Utf8.check result = .ok ()) :
    Archive.texts (.string expression) (.string result) = .ok (expression, result) := by
  simp only [Archive.texts, Column.text, Column.encodable, first, second]
  rfl

/-- A missing expression is refused. -/
theorem Archive.texts_no_expression (result : Json) :
    ∃ e, Archive.texts .null result = .error e := by
  unfold Archive.texts
  cases Column.text 2 result with
  | error e => exact ⟨e, rfl⟩
  | ok text => exact ⟨.missing "expression", rfl⟩

/-- A missing result is refused. -/
theorem Archive.texts_no_result (expression : Json) :
    ∃ e, Archive.texts expression .null = .error e := by
  unfold Archive.texts
  cases Column.text 1 expression with
  | error e => exact ⟨e, rfl⟩
  | ok text =>
    cases text with
    | none => exact ⟨.missing "expression", rfl⟩
    | some text => exact ⟨.missing "result", rfl⟩

/-- The log is a list. Whatever is added, refused, emptied, asked for and opened again with
whatever capacity, a new log answers as a ledger does and then lists the rows of the ledger. The
numbers of the rows added are one, two, three and so on without a gap, so that none is given twice;
what is listed newest first has descending numbers among these. After any of it, nulls are refused
without a trace, and texts that have bytes are added under the next number as long as a number of
rows can be kept. -/
theorem Archive.runs_as_ledger (commands : List Command) :
    let file := Command.run Archive.answer .new commands
    let ledger := Command.run Ledger.answer .new commands
    let count := (Reply.ids file.1).length
    (file.1 = ledger.1 ∧ file.2.log.newestFirst = ledger.2.rows) ∧
    Reply.ids file.1 = List.range' 1 count ∧
    (file.2.log.newestFirst.Pairwise fun newer older => older.id < newer.id) ∧
    (∀ row ∈ file.2.log.newestFirst, row.id ≤ count) ∧
    (∀ value moment,
      (∃ e, file.2.answer (.add .null value moment) = (.refused e, file.2)) ∧
      ∃ e, file.2.answer (.add value .null moment) = (.refused e, file.2)) ∧
    ∀ (expression result : Text) (moment : Calendar.Moment) (capacity : Int),
      Utf8.check expression = .ok () → Utf8.check result = .ok () →
      file.2.capacity = .ok capacity →
      (file.2.answer (.add (.string expression) (.string result) moment)).1 =
        .added (count + 1) := by
  intro file ledger count
  obtain ⟨replies, stores⟩ :=
    Command.run_related Archive.Stores (fun _ _ command stores => stores.answer command) commands
      Archive.Stores.new
  obtain ⟨given, last, ids⟩ := Ledger.ids_run .new commands
  have numbers : Reply.ids file.1 = List.range' 1 given := by
    rw [show file.1 = ledger.1 from replies, ids]
    rfl
  have counted : count = given := by
    show (Reply.ids file.1).length = given
    rw [numbers, List.length_range']
  have lastId : file.2.log.lastId = count := by
    rw [stores.given, last, counted]
    exact Nat.zero_add given
  have unlocked : ¬file.2.locked = true := by simp [file, stores.usable]
  have refused {expression result : Json} {e : LogError} (moment : Calendar.Moment)
      (unstorable : Archive.texts expression result = .error e) :
      file.2.answer (.add expression result moment) = (.refused e, file.2) := by
    simp only [Archive.answer, Archive.add, if_neg unlocked, unstorable]
  refine ⟨⟨replies, stores.rows⟩, counted ▸ numbers, stores.ordered.descending, ?_, ?_, ?_⟩
  · intro row member
    rw [stores.ordered.newestFirst] at member
    have bounded := stores.ordered.given row (List.mem_reverse.1 member)
    rwa [show (Command.run Archive.answer .new commands).2.log.lastId = count from lastId]
      at bounded
  · intro value moment
    obtain ⟨first, noExpression⟩ := Archive.texts_no_expression value
    obtain ⟨second, noResult⟩ := Archive.texts_no_result value
    exact ⟨⟨first, refused moment noExpression⟩, ⟨second, refused moment noResult⟩⟩
  · intro expression result moment capacity first second kept
    simp only [Archive.answer, Archive.add, if_neg unlocked, Archive.texts_string first second,
      kept, lastId]

/-- The numbers go on after the log is emptied. -/
example : Reply.ids (Command.run Archive.answer .new [
    .add (.string "1 + 1") (.string ['2']) ⟨0, by decide⟩, .clear,
    .add (.string "2 + 1") (.string ['3']) ⟨0, by decide⟩]).1 = [1, 2] := by
  decide +kernel

end Reckoner
