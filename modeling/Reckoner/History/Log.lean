import Reckoner.History.Column

/-!
# The log of calculations

A table of calculations with ascending row numbers. Rows are stored in no particular order and are
listed by descending number, so the newest comes first whatever moment it bears. After each
addition only the rows with the greatest numbers stay, as many as the capacity. A number is never
given twice, since the table remembers the last one it gave.
-/

namespace Reckoner

/-- A logged calculation. -/
structure Row where
  id : Nat
  expression : Text
  result : Text
  stamp : Text
  deriving DecidableEq, Repr

/-- The rows that are stored, and the last row number that was given. -/
structure Log where
  rows : List Row
  lastId : Nat
  deriving DecidableEq, Repr

/-- The first items of a list; a negative limit means all of them. -/
def limited {α : Type} (limit : Int) (items : List α) : List α :=
  if limit < 0 then items else items.take limit.toNat

namespace Log

/-- A log without rows that has given no number. -/
def empty : Log := ⟨[], 0⟩

/-- How many rows are kept and listed unless something else is asked for. -/
def defaultCapacity : Int := 10

/-- Puts a row before the first one with a smaller number. -/
def insertRow (row : Row) : List Row → List Row
  | [] => [row]
  | next :: rows => if next.id ≤ row.id then row :: next :: rows else next :: insertRow row rows

/-- The rows by descending number. -/
def newestFirst (log : Log) : List Row := log.rows.foldl (fun rows row => insertRow row rows) []

/-- Removes the rows that are not among the newest. -/
def trim (capacity : Int) (log : Log) : Log :=
  let kept := (limited capacity log.newestFirst).map (·.id)
  { log with rows := log.rows.filter fun row => kept.contains row.id }

/-- Adds a row under the next number and trims. -/
def append (capacity : Int) (expression result stamp : Text) (log : Log) : Log :=
  trim capacity ⟨log.rows ++ [⟨log.lastId + 1, expression, result, stamp⟩], log.lastId + 1⟩

/-- The newest rows, optionally only those whose stamp is not below another as text. -/
def recent (limit : Int) (since : Option Text) (log : Log) : List Row :=
  limited limit (log.newestFirst.filter fun row =>
    match since with
    | some bound => decide (bound ≤ row.stamp)
    | none => true)

/-- Removes every row. -/
def clear (log : Log) : Log := { log with rows := [] }

end Log

/-- A log in use: how many rows it keeps or why no number of rows can be kept, and whether it
refuses to be used. -/
structure Archive where
  log : Log
  capacity : Except LogError Int
  locked : Bool

namespace Archive

/-- A new log with the default capacity. -/
def new : Archive := ⟨.empty, .ok Log.defaultCapacity, false⟩

/-- The log with the capacity that a value sets. -/
def withCapacity (value : Json) (archive : Archive) : Archive :=
  { archive with capacity := Column.limit 1 value }

/-- The texts that are stored for an expression and a result. Values that cannot be stored are
refused before missing ones. -/
def texts (expression result : Json) : Except LogError (Text × Text) := do
  match ← Column.text 1 expression, ← Column.text 2 result with
  | none, _ => throw (.missing "expression")
  | some _, none => throw (.missing "result")
  | some expression, some result => return (expression, result)

/-- Adds a calculation at a moment and gives its row number. A refused one takes no number. -/
def add (expression result : Json) (moment : Calendar.Moment) (archive : Archive) :
    Except LogError Nat × Archive :=
  if archive.locked then (.error .locked, archive)
  else
    match texts expression result, archive.capacity with
    | .error e, _ => (.error e, archive)
    | .ok _, .error e => (.error e, archive)
    | .ok (expression, result), .ok capacity =>
      (.ok (archive.log.lastId + 1),
        { archive with log := archive.log.append capacity expression result moment.stamp })

/-- The newest rows, optionally only those stamped at a moment or later. -/
def recent (limit : Int) (since : Option Calendar.Moment) (archive : Archive) :
    Except LogError (List Row) :=
  if archive.locked then .error .locked
  else .ok (archive.log.recent limit (since.map (·.stamp)))

/-- The newest rows under the limit that a value sets. A moment stands before the limit in the
request. -/
def query (limit : Json) (since : Option Calendar.Moment) (archive : Archive) :
    Except LogError (List Row) :=
  if archive.locked then .error .locked
  else do archive.recent (← Column.limit (if since.isSome then 2 else 1) limit) since

/-- Removes every row. -/
def clear (archive : Archive) : Except LogError Unit × Archive :=
  if archive.locked then (.error .locked, archive)
  else (.ok (), { archive with log := archive.log.clear })

end Archive

end Reckoner
