import Reckoner.Proofs.Stamps.Record

/-!
# Keeping first sightings

Recording entries is to keep the reading of a recorded entry that was seen before, give the others
the reading of now, forget all other readings that are no numbers or too old, and write what is left
so that it is read back and nothing changes if the same is recorded again. What it takes is stated
exactly: of the file only that it is not nested deeper than is read, since nesting is the one fault
of a file that is not ignored; the rest is about the recorded names and the clock.
-/

namespace Reckoner

namespace Stamps

/-! ## What is promised -/

/-- A reading that is a number from the oldest one that is kept to now. -/
def IsWithin (oldest now : Number) (reading : Json) : Prop :=
  ∃ number, Number.ofJson? reading = some number ∧ number.isAtLeast oldest = true ∧
    now.isAtLeast number = true

/-- A reading that is a number not older than the oldest one that is kept. -/
def IsKept (oldest : Number) (reading : Json) : Prop :=
  ∃ number, Number.ofJson? reading = some number ∧ number.isAtLeast oldest = true

/-- What is to be left of held readings when entries are recorded. -/
structure Remembered (held : Fields) (entries : List (Text × Text)) (oldest now : Number)
    (readings : Fields) : Prop where
  /-- Every name stands once. -/
  distinct : readings.Distinct
  /-- A recorded entry keeps its reading if that is one from the oldest kept one to now. -/
  kept : ∀ name ∈ keys entries, ∀ reading, held.get? name = some reading →
    IsWithin oldest now reading → readings.get? name = some reading
  /-- Any other recorded entry has the reading of now. -/
  seen : ∀ name ∈ keys entries, (∀ reading, held.get? name = some reading →
    ¬IsWithin oldest now reading) → readings.get? name = some now.toJson
  /-- Any other name keeps its reading exactly if that is a number that is not too old. -/
  others : ∀ name ∉ keys entries, ∀ reading, readings.get? name = some reading ↔
    held.get? name = some reading ∧ IsKept oldest reading

/-- Recording entries remembers them, the file that is written holds exactly the readings that are
given, and recording the same again gives the same readings and leaves the file as it is. -/
def Store.Keeps (store : Store) (entries : List (Text × Text)) (now : Number) : Prop :=
  ∃ oldest readings after, cutoff now store.retention = .ok oldest ∧
    store.record entries now = (.ok readings, after) ∧
    Remembered (found store.content) entries oldest now readings ∧
    Holds after.content readings ∧
    after.record entries now = (.ok readings, after)

/-- A file that can be written, a retention that is not negative, and a finite clock. -/
structure Store.IsUsable (store : Store) (now : Number) : Prop where
  writable : store.writable = true
  retention : store.retention.isAtLeast (.int 0) = true
  finite : now.IsFinite

/-- What it takes to keep first sightings, given the oldest reading that is kept. -/
structure Store.Suits (store : Store) (entries : List (Text × Text)) (now oldest : Number) :
    Prop where
  /-- The file is not nested too deep. -/
  flat : ¬IsDeep store.content
  /-- No recorded name is split. -/
  unsplit : ∀ name ∈ keys entries, name.Unsplit
  /-- Now can be written if some recorded entry has no reading from the oldest kept one to now. -/
  numeral : ∀ name ∈ keys entries, (∀ reading, (found store.content).get? name = some reading →
    ¬IsWithin oldest now reading) → now.toJson.exceedsDigitLimit = false
  /-- If now is itself older than the oldest reading that is kept, the names come in the same order
  when the recorded ones among them are forgotten first. -/
  steady : now.isAtLeast oldest = false →
    let names := (prune oldest (found store.content)).map Prod.fst
    namesAfter (names.filter (· ∉ keys entries)) (keys entries) = namesAfter names (keys entries)

/-! ## What recording does -/

variable {store : Store} {now oldest : Number} {held : Fields} {entries : List (Text × Text)}

/-- Recording remembers what is recorded. -/
theorem remembered_foldl (distinct : held.Distinct) (placed : now.isAtLeast now = true)
    (entries : List (Text × Text)) :
    Remembered held entries oldest now (entries.foldl (remember now) (prune oldest held)) where
  distinct := distinct_foldl_remember entries (distinct_prune distinct)
  kept := by
    rintro name member reading held_name ⟨number, same, least, greatest⟩
    have recent : isRecent oldest reading = true := isRecent_iff.2 ⟨number, same, least⟩
    rw [get?_foldl_remember, if_pos member, get?_prune distinct, held_name, Option.filter_some,
      if_pos recent, Option.getD_some]
    rcases earlier_cases reading now with ⟨-, other, same', later⟩ | ⟨unchanged, -⟩
    · rw [← Option.some.inj (same.symm.trans same'),
        Number.not_isLess_of_isAtLeast greatest] at later
      cases later
    · rw [unchanged]
  seen := by
    intro name member outside
    rw [get?_foldl_remember, if_pos member, get?_prune distinct]
    cases left : (held.get? name).filter (isRecent oldest) with
    | none => rw [Option.getD_none, earlier_toJson]
    | some reading =>
      obtain ⟨held_name, recent⟩ := Option.filter_eq_some_iff.1 left
      obtain ⟨number, same, least⟩ := isRecent_iff.1 recent
      rw [Option.getD_some]
      rcases earlier_cases reading now with ⟨changed, -⟩ | ⟨-, not_later⟩
      · rw [changed]
      · have greatest := Number.isAtLeast_of_not_isLess placed least (not_later number same)
        exact absurd ⟨number, same, least, greatest⟩ (outside reading held_name)
  others := by
    intro name other reading
    rw [get?_foldl_remember, if_neg other, get?_prune distinct, Option.filter_eq_some_iff,
      isRecent_iff]
    exact Iff.rfl

/-- A finite reading that can be written is read back. -/
theorem isReading_toJson (finite : now.IsFinite)
    (numeral : now.toJson.exceedsDigitLimit = false) : now.toJson.IsReading := by
  cases now with
  | int n => exact numeral
  | double value =>
    rintro rfl
    cases finite

/-- What is left after recording is read back from the file if no recorded name is split and now is
read back where it is recorded. -/
theorem Remembered.lasting {content : Option (List UInt8)} {readings : Fields}
    (remembered : Remembered (found content) entries oldest now readings)
    (unsplit : ∀ name ∈ keys entries, name.Unsplit)
    (written : ∀ name ∈ keys entries, (∀ reading, (found content).get? name = some reading →
      ¬IsWithin oldest now reading) → now.toJson.IsReading) : Lasting readings := by
  obtain ⟨-, whole, few⟩ := found_isField content
  have kept {name : Text} {reading : Json} (held : (found content).get? name = some reading)
      (recent : IsKept oldest reading) : reading.IsReading :=
    isReading_of_isRecent (isRecent_iff.2 recent) (few _ (Fields.mem_of_get? held))
  refine ⟨remembered.distinct, fun field member => ?_, fun field member => ?_⟩
  all_goals have here := remembered.distinct.get?_of_mem member
  · by_cases key : field.1 ∈ keys entries
    · exact unsplit _ key
    · exact whole _ (Fields.mem_of_get? ((remembered.others _ key _).1 here).1)
  · by_cases key : field.1 ∈ keys entries
    · by_cases known : ∃ reading, (found content).get? field.1 = some reading ∧
          IsWithin oldest now reading
      · obtain ⟨reading, held, within⟩ := known
        obtain ⟨number, same, least, -⟩ := id within
        rw [Option.some.inj (here.symm.trans (remembered.kept _ key _ held within))]
        exact kept held ⟨number, same, least⟩
      · have new : ∀ reading, (found content).get? field.1 = some reading →
            ¬IsWithin oldest now reading := fun reading held within => known ⟨reading, held, within⟩
        rw [Option.some.inj (here.symm.trans (remembered.seen _ key new))]
        exact written _ key new
    · obtain ⟨held, recent⟩ := (remembered.others _ key _).1 here
      exact kept held recent

/-! ## Saving -/

/-- Saving leaves the retention. -/
theorem Store.save_retention (store : Store) (readings : Fields) :
    (store.save readings).2.retention = store.retention := by
  unfold save
  split
  · split
    · rfl
    · rfl
  · rfl

/-- Saving leaves whether the file can be written. -/
theorem Store.save_writable (store : Store) (readings : Fields) :
    (store.save readings).2.writable = store.writable := by
  unfold save
  split
  · split
    · rfl
    · rfl
  · rfl

/-- Readings that are read back are written, if the file can be. -/
theorem Store.save_lasting {readings : Fields} (lasting : Lasting readings) (store : Store) :
    store.save readings = (.ok (), if store.writable then
      { store with content := some (Utf8.bytes (fileText readings)) } else store) := by
  have few : ∀ field ∈ readings, (!field.2.exceedsDigitLimit) = true := by
    intro field member
    rw [Bool.not_eq_true', (lasting.reading field member).not_exceedsDigitLimit]
  unfold save
  split
  · rw [List.span_eq_takeWhile_dropWhile, List.dropWhile_eq_nil_iff.2 few]
  · rfl

/-- What is recorded into a file that is not nested too deep. -/
theorem recorded_eq {content : Option (List UInt8)} {retention : Number} (flat : ¬IsDeep content)
    (computed : cutoff now retention = .ok oldest) (entries : List (Text × Text)) :
    recorded content retention now entries =
      .ok (entries.foldl (remember now) (prune oldest (found content))) := by
  rw [recorded, load_of_not_isDeep flat, computed]
  rfl

/-- What has been recorded is saved. -/
theorem record_of_recorded {readings : Fields}
    (done : recorded store.content store.retention now entries = .ok readings) :
    store.record entries now =
      ((store.save readings).1.map fun _ => readings, (store.save readings).2) := by
  rw [Store.record, done]

/-- A file that is nested too deep breaks recording off and stays as it is. -/
theorem record_of_isDeep (deep : IsDeep store.content) (entries : List (Text × Text))
    (now : Number) :
    ∃ container, store.record entries now = (.error (.tooDeep container), store) := by
  obtain ⟨container, failed⟩ := load_of_isDeep deep
  refine ⟨container, ?_⟩
  rw [Store.record, recorded, failed]
  rfl

/-- First sightings are not kept in a file that is nested too deep. -/
theorem Store.Keeps.not_isDeep (keeps : store.Keeps entries now) : ¬IsDeep store.content := by
  intro deep
  obtain ⟨oldest, readings, after, -, recorded, -⟩ := keeps
  obtain ⟨container, broken⟩ := record_of_isDeep deep entries now
  rw [broken] at recorded
  cases recorded

/-- Every recorded entry has a reading. -/
theorem Remembered.exists_get? {readings : Fields} {name : Text}
    (remembered : Remembered held entries oldest now readings) (member : name ∈ keys entries) :
    ∃ reading, readings.get? name = some reading := by
  by_cases known : ∃ reading, held.get? name = some reading ∧ IsWithin oldest now reading
  · obtain ⟨reading, held_name, within⟩ := known
    exact ⟨reading, remembered.kept name member reading held_name within⟩
  · exact ⟨now.toJson, remembered.seen name member fun reading held_name within =>
      known ⟨reading, held_name, within⟩⟩

/-- First sightings are not kept under split names: the file holds the recorded names, and no name
that is read from a file is split. -/
theorem Store.Keeps.unsplit (keeps : store.Keeps entries now) :
    ∀ name ∈ keys entries, name.Unsplit := by
  obtain ⟨oldest, readings, after, -, -, remembered, holds, -⟩ := keeps
  obtain ⟨-, whole, -⟩ := found_isField after.content
  rw [holds.found_eq] at whole
  intro name member
  obtain ⟨reading, held⟩ := remembered.exists_get? member
  exact whole _ (Fields.mem_of_get? held)

/-- What recording gives if it succeeds, and what is left of the file then. -/
theorem record_eq_ok {readings : Fields} {after : Store} (flat : ¬IsDeep store.content)
    (computed : cutoff now store.retention = .ok oldest)
    (recorded : store.record entries now = (.ok readings, after)) :
    readings = entries.foldl (remember now) (prune oldest (found store.content)) ∧
      after = (store.save readings).2 := by
  rw [record_of_recorded (recorded_eq flat computed entries)] at recorded
  generalize entries.foldl (remember now) (prune oldest (found store.content)) = left at recorded ⊢
  obtain ⟨written, saved⟩ := Prod.mk.inj recorded
  cases done : (store.save left).1 with
  | error error =>
    rw [done] at written
    cases written
  | ok done' =>
    rw [done] at written
    cases written
    exact ⟨rfl, saved.symm⟩

/-- Where first sightings are kept, all it takes for that is given. -/
theorem Store.Keeps.suits (usable : store.IsUsable now) (keeps : store.Keeps entries now) :
    ∃ oldest, cutoff now store.retention = .ok oldest ∧ store.Suits entries now oldest := by
  have flat := keeps.not_isDeep
  have unsplit := keeps.unsplit
  obtain ⟨oldest, readings, after, computed, recorded, remembered, holds, again⟩ := keeps
  refine ⟨oldest, computed, flat, unsplit, fun name member new => ?_, fun old => ?_⟩
  · -- A new entry has the reading of now in the file, and no integer of many digits is read there.
    obtain ⟨-, -, few⟩ := found_isField after.content
    rw [holds.found_eq] at few
    have there := few _ (Fields.mem_of_get? (remembered.seen name member new))
    cases now with
    | int n => exact there n rfl
    | double value => rfl
  · obtain ⟨distinct, -⟩ := found_isField store.content
    obtain ⟨first, saved⟩ := record_eq_ok flat computed recorded
    have retention : after.retention = store.retention := by rw [saved, store.save_retention]
    obtain ⟨second, -⟩ := record_eq_ok holds.not_isDeep (retention ▸ computed) again
    rw [holds.found_eq] at second
    rw [first] at second
    exact (foldl_remember_again_iff usable.finite.isAtLeast_self old distinct entries).1 second.symm

/-- Where all it takes for that is given, first sightings are kept. -/
theorem Store.Suits.keeps (usable : store.IsUsable now)
    (computed : cutoff now store.retention = .ok oldest) (suits : store.Suits entries now oldest) :
    store.Keeps entries now := by
  obtain ⟨distinct, -⟩ := found_isField store.content
  have placed := usable.finite.isAtLeast_self
  have remembered : Remembered (found store.content) entries oldest now
      (entries.foldl (remember now) (prune oldest (found store.content))) :=
    remembered_foldl distinct placed entries
  have lasting := remembered.lasting suits.unsplit fun name member new =>
    isReading_toJson usable.finite (suits.numeral name member new)
  have again : entries.foldl (remember now) (prune oldest (entries.foldl (remember now)
      (prune oldest (found store.content)))) =
        entries.foldl (remember now) (prune oldest (found store.content)) := by
    cases old : now.isAtLeast oldest with
    | true => exact foldl_remember_again distinct old entries
    | false => exact (foldl_remember_again_iff placed old distinct entries).2 (suits.steady old)
  have first := recorded_eq suits.flat computed entries
  generalize entries.foldl (remember now) (prune oldest (found store.content)) = readings
    at lasting remembered again first
  have holds := holds_saved lasting
  have second := recorded_eq holds.not_isDeep computed entries
  rw [holds.found_eq, again] at second
  have saved (content : Option (List UInt8)) : Store.save { store with content } readings =
      (.ok (), { store with content := some (Utf8.bytes (fileText readings)) }) := by
    rw [Store.save_lasting lasting]
    exact congrArg (Prod.mk _) (if_pos usable.writable)
  refine ⟨oldest, readings, { store with content := some (Utf8.bytes (fileText readings)) },
    computed, ?_, remembered, holds, ?_⟩
  · rw [record_of_recorded first, saved store.content]
    rfl
  · -- The second file is the first one, since the readings are the same.
    rw [record_of_recorded second, saved]
    rfl

/-- An integer of seconds is a clock reading that any usual store can subtract from. -/
theorem isUsable_int (content : Option (List UInt8)) (n : ℤ) :
    Store.IsUsable ⟨content, true, defaultRetention⟩ (.int n) where
  writable := rfl
  retention := Number.isAtLeast_int.2 (by decide)
  finite := trivial

/-- An integer of twenty digits has no more digits than the limit. -/
theorem exceedsDigitLimit_of_lt {n : ℤ} (small : n.natAbs < 10 ^ 20) :
    Text.exceedsDigitLimit n = false :=
  Text.exceedsDigitLimit_eq_false.2
    (Nat.lt_of_lt_of_le small (Nat.pow_le_pow_right (by decide) (by decide)))

/-- The readings of a file: one of a few minutes ago, one of years ago, one of the future, and
another one of a few minutes ago, if now is 1700000000. -/
def mixedReadings : Fields :=
  [("1 + 1=2", .int 1699999000), ("2 + 2=4", .int 1600000000), ("3 + 3=6", .int 1800000000),
    ("4 + 4=8", .int 1699998000)]

/-- The file is read back. -/
theorem lasting_mixedReadings : Lasting mixedReadings where
  distinct := by
    unfold Fields.Distinct
    decide
  unsplit := by
    unfold Text.Unsplit mixedReadings
    decide
  reading := by
    simp only [mixedReadings, List.forall_mem_cons]
    exact ⟨exceedsDigitLimit_of_lt (by decide), exceedsDigitLimit_of_lt (by decide),
      exceedsDigitLimit_of_lt (by decide), exceedsDigitLimit_of_lt (by decide), nofun⟩

/-- The store of that file. -/
def mixedStore : Store :=
  { Store.new with content := some (Utf8.bytes (fileText mixedReadings)) }

/-- The bytes of opening brackets. -/
theorem bytes_brackets (count : ℕ) :
    Utf8.bytes (Json.brackets count) = List.replicate count 0x5B := by
  induction count with
  | zero => rfl
  | succ count ih => exact congrArg (List.cons 0x5B) ih

/-- A file of opening brackets beyond the depth is nested too deep. -/
theorem isDeep_brackets {count : ℕ} (deep : Json.depthLimit < count) :
    IsDeep (some (List.replicate count 0x5B)) := by
  have ascii : (Json.brackets count).IsAscii := by
    intro c member
    rw [List.eq_of_mem_replicate member]
    decide
  have read := Utf8.decode?_bytes ascii
  rw [bytes_brackets] at read
  refine ⟨_, .array, read, ?_⟩
  rw [Json.ofText, Json.skipBlanks_brackets, Json.value_brackets deep]

/-- A store with a file of five thousand opening brackets. -/
def bracketStore : Store := { Store.new with content := some (List.replicate 5000 0x5B) }

end Stamps

end Reckoner
