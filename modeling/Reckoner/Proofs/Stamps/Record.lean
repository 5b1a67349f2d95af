import Reckoner.Proofs.Stamps.Cutoff
import Reckoner.Proofs.Stamps.File

/-!
# Recording entries

Recording an entry once more changes nothing, so every recorded entry has the reading that it has
after it was recorded first: its own if that is not later than now, and now otherwise. All readings
that are left are recent, which is why recording the same entries again finds nothing to forget.

That is so unless now is itself older than the oldest reading that is kept. Then what was recorded
is forgotten and recorded anew, and only its place among the names can change.
-/

namespace Reckoner

namespace Stamps

/-- The names under which entries are remembered. -/
def keys (entries : List (Text × Text)) : List Text :=
  entries.map fun entry => entryKey entry.1 entry.2

variable {now oldest : Number} {readings held : Fields} {reading : Json}

/-! ## Single readings -/

/-- The reading of a clock is the number that it shows. -/
theorem ofJson?_toJson (number : Number) : Number.ofJson? number.toJson = some number := by
  cases number
  · rfl
  · rfl

/-- Now is not earlier than now. -/
theorem earlier_toJson (now : Number) : earlier now.toJson now = now.toJson := by
  rw [earlier, ofJson?_toJson]
  simp only [Number.isLess_self, Bool.false_eq_true, ↓reduceIte]

/-- The earlier of a reading and now is now or the reading itself. -/
theorem earlier_cases (reading : Json) (now : Number) :
    earlier reading now = now.toJson ∧
        (∃ number, Number.ofJson? reading = some number ∧ now.isLess number = true) ∨
      earlier reading now = reading ∧
        ∀ number, Number.ofJson? reading = some number → now.isLess number = false := by
  unfold earlier
  split
  · rename_i number same
    split
    · rename_i later
      exact .inl ⟨rfl, number, same, later⟩
    · rename_i not_later
      refine .inr ⟨rfl, fun other same' => ?_⟩
      rw [← Option.some.inj (same.symm.trans same')]
      exact Bool.eq_false_iff.2 not_later
  · rename_i none
    exact .inr ⟨rfl, fun number same => by rw [none] at same; cases same⟩

/-- Taking the earlier one again changes nothing. -/
theorem earlier_earlier (reading : Json) (now : Number) :
    earlier (earlier reading now) now = earlier reading now := by
  rcases earlier_cases reading now with ⟨same, -⟩ | ⟨same, -⟩
  · rw [same, earlier_toJson]
  · rw [same, same]

/-! ## Recording one entry after another -/

/-- Recorded entries have the earlier one of their reading and now; all other readings stay. -/
theorem get?_foldl_remember (entries : List (Text × Text)) (readings : Fields) (name : Text) :
    Fields.get? (entries.foldl (remember now) readings) name =
      if name ∈ keys entries then
        some (earlier ((Fields.get? readings name).getD now.toJson) now)
      else Fields.get? readings name := by
  induction entries generalizing readings with
  | nil => rfl
  | cons entry entries ih =>
    rw [List.foldl_cons, ih, remember, Fields.get?_put]
    have split : name ∈ keys (entry :: entries) ↔
        name = entryKey entry.1 entry.2 ∨ name ∈ keys entries := List.mem_cons
    by_cases first : name = entryKey entry.1 entry.2
    · rw [if_pos first, if_pos (split.2 (.inl first)), Option.getD_some, first, earlier_earlier,
        ite_self]
    · rw [if_neg first]
      by_cases later : name ∈ keys entries
      · rw [if_pos later, if_pos (split.2 (.inr later))]
      · rw [if_neg later, if_neg fun member => (split.1 member).elim first later]

/-- Recording keeps every name standing once. -/
theorem distinct_foldl_remember (entries : List (Text × Text)) (distinct : readings.Distinct) :
    (entries.foldl (remember now) readings).Distinct := by
  induction entries generalizing readings with
  | nil => exact distinct
  | cons entry entries ih => exact ih (distinct.put _ _)

/-- After recording, a field is one that was there or an entry with the reading of now. -/
theorem mem_foldl_remember {entries : List (Text × Text)} (distinct : readings.Distinct)
    {field : Text × Json} (member : field ∈ entries.foldl (remember now) readings) :
    field.1 ∈ keys entries ∧ field.2 = now.toJson ∨ field ∈ readings := by
  have recorded := (distinct_foldl_remember entries distinct).get?_of_mem member
  rw [get?_foldl_remember] at recorded
  split at recorded
  · rename_i key
    cases found : readings.get? field.1 with
    | none =>
      rw [found, Option.getD_none, earlier_toJson] at recorded
      exact .inl ⟨key, (Option.some.inj recorded).symm⟩
    | some reading =>
      rw [found, Option.getD_some] at recorded
      rcases earlier_cases reading now with ⟨same, -⟩ | ⟨same, -⟩
      · rw [same] at recorded
        exact .inl ⟨key, (Option.some.inj recorded).symm⟩
      · rw [same] at recorded
        rw [recorded] at found
        exact .inr (Fields.mem_of_get? found)
  · exact .inr (Fields.mem_of_get? recorded)

/-- Recording entries whose readings are not later than now changes nothing. -/
theorem foldl_remember_eq_self {entries : List (Text × Text)}
    (settled : ∀ name ∈ keys entries, ∃ reading, Fields.get? readings name = some reading ∧
      earlier reading now = reading) : entries.foldl (remember now) readings = readings := by
  induction entries with
  | nil => rfl
  | cons entry entries ih =>
    obtain ⟨reading, found, same⟩ := settled _ List.mem_cons_self
    have unchanged : remember now readings entry = readings := by
      rw [remember, found, Option.getD_some, same]
      exact Fields.put_of_get? found
    rw [List.foldl_cons, unchanged]
    exact ih fun name member => settled name (List.mem_cons_of_mem _ member)

/-! ## Recent readings -/

/-- A recent reading is a number that is not older than the oldest one kept. -/
theorem isRecent_iff : isRecent oldest reading = true ↔
    ∃ number, Number.ofJson? reading = some number ∧ number.isAtLeast oldest = true := by
  unfold isRecent
  cases Number.ofJson? reading with
  | none => simp
  | some number => simp

/-- A recent reading compares as a number, and is read back if it is no integer of many digits. -/
theorem isReading_of_isRecent (recent : isRecent oldest reading = true)
    (few : ∀ n, reading = .int n → Text.exceedsDigitLimit n = false) : reading.IsReading := by
  obtain ⟨number, same, least⟩ := isRecent_iff.1 recent
  cases reading with
  | bool value => trivial
  | int n => exact few n rfl
  | double value =>
    rintro rfl
    obtain rfl := Option.some.inj same
    obtain ⟨p, held, -⟩ := Number.isAtLeast_iff.1 least
    cases held
  | null => cases same
  | string text => cases same
  | array items => cases same
  | object fields => cases same

/-- Forgetting keeps every name standing once. -/
theorem distinct_prune (distinct : held.Distinct) : (prune oldest held).Distinct :=
  distinct.filter _

/-- What is left after forgetting what is not recent. -/
theorem get?_prune (distinct : held.Distinct) (name : Text) :
    Fields.get? (prune oldest held) name = (Fields.get? held name).filter (isRecent oldest) :=
  distinct.get?_filter (isRecent oldest) name

/-- A reading that forgetting leaves is recent. -/
theorem isRecent_of_mem_prune {field : Text × Json} (member : field ∈ prune oldest held) :
    isRecent oldest field.2 = true := (List.mem_filter.1 member).2

/-- If now is not older than the oldest reading that is kept, only recent readings are left after
recording. -/
theorem isRecent_foldl_remember (distinct : held.Distinct) (current : now.isAtLeast oldest = true)
    {entries : List (Text × Text)} {field : Text × Json}
    (member : field ∈ entries.foldl (remember now) (prune oldest held)) :
    isRecent oldest field.2 = true := by
  rcases mem_foldl_remember (distinct_prune distinct) member with ⟨-, same⟩ | before
  · rw [same]
    exact isRecent_iff.2 ⟨now, ofJson?_toJson now, current⟩
  · exact isRecent_of_mem_prune before

/-- Recording what is left again leaves the same. -/
theorem foldl_remember_again (distinct : held.Distinct) (current : now.isAtLeast oldest = true)
    (entries : List (Text × Text)) :
    let readings := entries.foldl (remember now) (prune oldest held)
    entries.foldl (remember now) (prune oldest readings) = readings := by
  intro readings
  have all_recent : prune oldest readings = readings :=
    List.filter_eq_self.2 fun field member => isRecent_foldl_remember distinct current member
  rw [all_recent]
  refine foldl_remember_eq_self fun name member => ?_
  rw [get?_foldl_remember, if_pos member]
  exact ⟨_, rfl, earlier_earlier _ now⟩

/-! ## The order of the names -/

/-- Names in their order after other names have been recorded: the new ones come last. -/
def namesAfter (names recorded : List Text) : List Text :=
  recorded.foldl (fun names name => if names.contains name then names else names.concat name) names

/-- Recording entries records their names. -/
theorem names_foldl_remember (entries : List (Text × Text)) (readings : Fields) :
    (entries.foldl (remember now) readings).map Prod.fst =
      namesAfter (readings.map Prod.fst) (keys entries) := by
  induction entries generalizing readings with
  | nil => rfl
  | cons entry entries ih =>
    have put (name : Text) (names : List Text) :
        (if name ∈ names then names else names.concat name) =
          if names.contains name then names else names.concat name :=
      if_congr List.contains_iff_mem.symm rfl rfl
    rw [List.foldl_cons, ih, remember, Fields.names_put, put]
    rfl

/-- The names that are not recorded stay in their order. -/
theorem filter_namesAfter {recorded all : List Text} (within : recorded ⊆ all) (names : List Text) :
    (namesAfter names recorded).filter (· ∉ all) = names.filter (· ∉ all) := by
  induction recorded generalizing names with
  | nil => rfl
  | cons name recorded ih =>
    obtain ⟨member, within⟩ := List.cons_subset.1 within
    show (namesAfter (if names.contains name then names else names.concat name) recorded).filter _ =
      _
    rw [ih within]
    split
    · rfl
    · rw [List.concat_eq_append, List.filter_append, List.filter_singleton,
        decide_eq_false (not_not.2 member), cond_false, List.append_nil]

/-! ## When now is too old -/

variable {entries : List (Text × Text)}

/-- Now is recent if it is not older than the oldest reading that is kept. -/
theorem isRecent_toJson (oldest now : Number) :
    isRecent oldest now.toJson = now.isAtLeast oldest := by
  rw [isRecent, ofJson?_toJson]

/-- If now is older than the oldest reading that is kept, every recorded entry has its reading. -/
theorem get?_foldl_remember_of_old (placed : now.isAtLeast now = true)
    (old : now.isAtLeast oldest = false) (distinct : held.Distinct) {name : Text}
    (member : name ∈ keys entries) :
    Fields.get? (entries.foldl (remember now) (prune oldest held)) name = some now.toJson := by
  rw [get?_foldl_remember, if_pos member, get?_prune distinct]
  cases left : (held.get? name).filter (isRecent oldest) with
  | none => rw [Option.getD_none, earlier_toJson]
  | some reading =>
    obtain ⟨number, same, least⟩ := isRecent_iff.1 (Option.filter_eq_some_iff.1 left).2
    rcases earlier_cases reading now with ⟨changed, -⟩ | ⟨-, not_later⟩
    · rw [Option.getD_some, changed]
    · have most := Number.isAtLeast_of_not_isLess placed least (not_later number same)
      rw [Number.isAtLeast_trans most least] at old
      cases old

/-- Forgetting then forgets what was recorded. -/
theorem prune_foldl_remember_of_old (placed : now.isAtLeast now = true)
    (old : now.isAtLeast oldest = false) (distinct : held.Distinct) (entries : List (Text × Text)) :
    prune oldest (entries.foldl (remember now) (prune oldest held)) =
      (entries.foldl (remember now) (prune oldest held)).filter (·.1 ∉ keys entries) := by
  have recorded : (entries.foldl (remember now) (prune oldest held)).Distinct :=
    distinct_foldl_remember entries (distinct_prune distinct)
  refine List.filter_congr fun field member => ?_
  by_cases key : field.1 ∈ keys entries
  · have now_there := get?_foldl_remember_of_old placed old distinct key
    rw [recorded.get?_of_mem member] at now_there
    rw [Option.some.inj now_there, isRecent_toJson, old, decide_eq_false (not_not.2 key)]
  · rcases mem_foldl_remember (distinct_prune distinct) member with ⟨again, -⟩ | before
    · exact absurd again key
    · rw [isRecent_of_mem_prune before, decide_eq_true key]

/-- Recording the same again then leaves the same exactly if it leaves the order of the names. -/
theorem foldl_remember_again_iff (placed : now.isAtLeast now = true)
    (old : now.isAtLeast oldest = false) (distinct : held.Distinct) (entries : List (Text × Text)) :
    let readings := entries.foldl (remember now) (prune oldest held)
    let names := (prune oldest held).map Prod.fst
    entries.foldl (remember now) (prune oldest readings) = readings ↔
      namesAfter (names.filter (· ∉ keys entries)) (keys entries) =
        namesAfter names (keys entries) := by
  intro readings names
  have recorded : readings.Distinct := distinct_foldl_remember entries (distinct_prune distinct)
  have pruned : (prune oldest readings).map Prod.fst = names.filter (· ∉ keys entries) := by
    calc (prune oldest readings).map Prod.fst
        = (readings.map Prod.fst).filter (· ∉ keys entries) := by
          rw [prune_foldl_remember_of_old placed old distinct, List.filter_map]
          rfl
      _ = names.filter (· ∉ keys entries) := by
          rw [names_foldl_remember, filter_namesAfter (List.Subset.refl _)]
  have again : (entries.foldl (remember now) (prune oldest readings)).map Prod.fst =
      namesAfter (names.filter (· ∉ keys entries)) (keys entries) := by
    rw [names_foldl_remember, pruned]
  have first : readings.map Prod.fst = namesAfter names (keys entries) :=
    names_foldl_remember entries _
  rw [← again, ← first]
  refine ⟨congrArg (List.map Prod.fst), fun order => ?_⟩
  have lasting : (entries.foldl (remember now) (prune oldest readings)).Distinct :=
    distinct_foldl_remember entries (distinct_prune recorded)
  refine lasting.eq_of_names order fun name => ?_
  rw [get?_foldl_remember, get?_prune recorded]
  split
  · rename_i key
    rw [get?_foldl_remember_of_old placed old distinct key, Option.filter_some, isRecent_toJson,
      old]
    simp only [Bool.false_eq_true, ↓reduceIte, Option.getD_none, earlier_toJson]
  · rename_i other
    rw [get?_foldl_remember, if_neg other, get?_prune distinct, Option.filter_filter]
    simp only [Bool.and_self]

end Stamps

end Reckoner
