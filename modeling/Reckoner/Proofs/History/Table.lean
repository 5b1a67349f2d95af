import Reckoner.History.Log

/-!
# The order of the table

The table keeps its rows in no particular order and finds the newest ones by their numbers. But
every new row has a greater number than all before it, and trimming only takes rows away. So the
rows always stand in the order in which they came: listing them newest first is reading them
backwards, and trimming cuts off the front. What an addition, a trim and a query do is said here in
terms of that list.
-/

namespace Reckoner

/-! ## The first items of a list -/

/-- The items under a limit are a beginning of the list. -/
theorem limited_prefix {α : Type} (limit : Int) (items : List α) :
    limited limit items <+: items := by
  unfold limited
  split
  · exact List.prefix_refl _
  · exact List.take_prefix _ _

/-- How many items a limit leaves. -/
theorem length_limited {α : Type} (limit : Int) (items : List α) :
    (limited limit items).length =
      if limit < 0 then items.length else min limit.toNat items.length := by
  unfold limited
  split
  · rfl
  · exact List.length_take

/-- A limit that is not negative leaves so many items at most. -/
theorem length_limited_le {α : Type} {limit : Int} (bounded : 0 ≤ limit) (items : List α) :
    (limited limit items).length ≤ limit.toNat := by
  rw [length_limited, if_neg (by omega)]
  exact Nat.min_le_left _ _

/-- A limit leaves out nothing exactly if it is negative or the list is short enough. -/
theorem limited_eq_self_iff {α : Type} {limit : Int} {items : List α} :
    limited limit items = items ↔ limit < 0 ∨ items.length ≤ limit.toNat := by
  constructor
  · intro same
    have length := length_limited limit items
    rw [same] at length
    split at length
    · exact .inl ‹_›
    · exact .inr (by omega)
  · rintro (negative | short)
    · exact if_pos negative
    · unfold limited
      split
      · rfl
      · exact List.take_of_length_le short

/-- Nothing is left out of a list that is short enough. -/
theorem limited_eq_self {α : Type} {limit : Int} {items : List α}
    (short : items.length ≤ limit.toNat) : limited limit items = items :=
  limited_eq_self_iff.2 (.inr short)

/-- Cutting a list before an item is put in front, and cutting it again afterwards, is cutting it
once. -/
theorem limited_cons_limited {α : Type} (limit : Int) (item : α) (items : List α) :
    limited limit (item :: limited limit items) = limited limit (item :: items) := by
  unfold limited
  split
  · rfl
  · cases limit.toNat with
    | zero => rfl
    | succ count =>
      rw [List.take_succ_cons, List.take_succ_cons, List.take_take, Nat.min_eq_left (Nat.le_succ _)]

namespace Log

/-- The rows of the table stand in the order of their numbers, all of which have been given. -/
structure Ordered (log : Log) : Prop where
  ascending : log.rows.Pairwise fun older newer => older.id < newer.id
  given : ∀ row ∈ log.rows, row.id ≤ log.lastId

variable {log : Log}

/-! ## Listing -/

/-- A row that is not older than any of the listed ones is listed first. -/
theorem insertRow_newest {row : Row} {listed : List Row}
    (newest : ∀ other ∈ listed, other.id ≤ row.id) : insertRow row listed = row :: listed := by
  cases listed with
  | nil => rfl
  | cons next listed =>
    have older : next.id ≤ row.id := newest next (List.mem_cons_self ..)
    rw [insertRow, if_pos older]

/-- Rows in ascending order are listed backwards, before those that are listed already. -/
theorem foldl_insertRow {rows listed : List Row}
    (ascending : rows.Pairwise fun older newer => older.id < newer.id)
    (older : ∀ row ∈ rows, ∀ other ∈ listed, other.id ≤ row.id) :
    rows.foldl (fun listed row => insertRow row listed) listed = rows.reverse ++ listed := by
  induction rows generalizing listed with
  | nil => rfl
  | cons row rows ih =>
    obtain ⟨first, others⟩ := List.pairwise_cons.1 ascending
    have newest := insertRow_newest (older row (List.mem_cons_self ..))
    have rest : ∀ later ∈ rows, ∀ other ∈ row :: listed, other.id ≤ later.id := by
      intro later member other before
      rcases List.mem_cons.1 before with rfl | before
      · exact Nat.le_of_lt (first later member)
      · exact older later (List.mem_cons_of_mem _ member) other before
    rw [List.foldl_cons, newest, ih others rest, List.reverse_cons, List.append_assoc]
    rfl

/-- An ordered table is listed backwards. -/
theorem Ordered.newestFirst (ordered : log.Ordered) : log.newestFirst = log.rows.reverse := by
  have nothing : ∀ row ∈ log.rows, ∀ other ∈ ([] : List Row), other.id ≤ row.id :=
    fun _ _ other none => absurd none List.not_mem_nil
  have listed := foldl_insertRow ordered.ascending nothing
  rwa [List.append_nil] at listed

/-- Listed newest first, the numbers descend. -/
theorem Ordered.descending (ordered : log.Ordered) :
    log.newestFirst.Pairwise fun newer older => older.id < newer.id := by
  rw [ordered.newestFirst, List.pairwise_reverse]
  exact ordered.ascending

/-! ## Trimming -/

/-- Rows are missing from the newest ones exactly if they stand before them. -/
theorem filter_kept {dropped kept : List Row}
    (ascending : (dropped ++ kept).Pairwise fun older newer => older.id < newer.id) :
    ((dropped ++ kept).filter fun row => (kept.reverse.map (·.id)).contains row.id) = kept := by
  obtain ⟨-, -, apart⟩ := List.pairwise_append.1 ascending
  have gone : (dropped.filter fun row => (kept.reverse.map (·.id)).contains row.id) = [] := by
    rw [List.filter_eq_nil_iff]
    intro row member found
    obtain ⟨other, among, same⟩ := List.mem_map.1 (List.contains_iff_mem.1 found)
    have smaller := apart row member other (List.mem_reverse.1 among)
    omega
  have stays : (kept.filter fun row => (kept.reverse.map (·.id)).contains row.id) = kept := by
    rw [List.filter_eq_self]
    intro row member
    exact List.contains_iff_mem.2 (List.mem_map_of_mem (List.mem_reverse.2 member))
  rw [List.filter_append, gone, stays, List.nil_append]

/-- Trimming an ordered table leaves its last rows. -/
theorem Ordered.trim_rows (ordered : log.Ordered) (capacity : Int) :
    (log.trim capacity).rows = (limited capacity log.newestFirst).reverse := by
  obtain ⟨dropped, split⟩ := limited_prefix capacity log.newestFirst
  have rows : log.rows = dropped.reverse ++ (limited capacity log.newestFirst).reverse := by
    rw [← List.reverse_append, split, ordered.newestFirst, List.reverse_reverse]
  have ascending := ordered.ascending
  rw [rows] at ascending
  have kept := filter_kept ascending
  rw [List.reverse_reverse, ← rows] at kept
  exact kept

/-- Trimming keeps the order. -/
theorem Ordered.trim (ordered : log.Ordered) (capacity : Int) : (log.trim capacity).Ordered := by
  have fewer : (log.trim capacity).rows.Sublist log.rows := List.filter_sublist
  exact ⟨ordered.ascending.sublist fewer, fun row member =>
    ordered.given row (fewer.subset member)⟩

/-- After trimming only the newest rows are listed. -/
theorem Ordered.newestFirst_trim (ordered : log.Ordered) (capacity : Int) :
    (log.trim capacity).newestFirst = limited capacity log.newestFirst := by
  rw [(ordered.trim capacity).newestFirst, ordered.trim_rows, List.reverse_reverse]

/-! ## Adding -/

/-- The table with a row under the next number, before it is trimmed. -/
def grown (expression result stamp : Text) (log : Log) : Log :=
  ⟨log.rows ++ [⟨log.lastId + 1, expression, result, stamp⟩], log.lastId + 1⟩

/-- A new row has a greater number than all others. -/
theorem Ordered.grown (ordered : log.Ordered) (expression result stamp : Text) :
    (log.grown expression result stamp).Ordered := by
  constructor
  · refine List.pairwise_append.2 ⟨ordered.ascending, List.pairwise_singleton _ _, ?_⟩
    intro row member last same
    obtain rfl := List.mem_singleton.1 same
    have given := ordered.given row member
    show row.id < log.lastId + 1
    omega
  · intro row member
    rcases List.mem_append.1 member with before | last
    · have given := ordered.given row before
      show row.id ≤ log.lastId + 1
      omega
    · obtain rfl := List.mem_singleton.1 last
      exact Nat.le_refl _

/-- Adding keeps the order. -/
theorem Ordered.append (ordered : log.Ordered) (capacity : Int) (expression result stamp : Text) :
    (log.append capacity expression result stamp).Ordered :=
  (ordered.grown expression result stamp).trim capacity

/-- A new row is listed first, and as many rows are listed as are kept. -/
theorem Ordered.newestFirst_append (ordered : log.Ordered) (capacity : Int)
    (expression result stamp : Text) :
    (log.append capacity expression result stamp).newestFirst =
      limited capacity (⟨log.lastId + 1, expression, result, stamp⟩ :: log.newestFirst) := by
  have larger := ordered.grown expression result stamp
  have listed := larger.newestFirst_trim capacity
  have first : (log.grown expression result stamp).newestFirst =
      ⟨log.lastId + 1, expression, result, stamp⟩ :: log.newestFirst := by
    rw [larger.newestFirst, ordered.newestFirst, Log.grown, List.reverse_append]
    rfl
  rw [first] at listed
  exact listed

/-! ## Emptying -/

/-- An emptied table is ordered. -/
theorem ordered_clear (log : Log) : log.clear.Ordered :=
  ⟨List.Pairwise.nil, fun _ member => absurd member List.not_mem_nil⟩

/-- A new table is ordered. -/
theorem ordered_empty : empty.Ordered := ordered_clear empty

end Log

end Reckoner
