import Mathlib.Data.List.Nodup
import Reckoner.Json.Basic

/-!
# Named values

Named values are a list without order among different names as long as every name stands once, and
setting a value keeps it so. Setting the value that a name has already changes nothing at all, not
even the order.
-/

namespace Reckoner

namespace Fields

/-- Every name stands once. -/
def Distinct (fields : Fields) : Prop := (fields.map Prod.fst).Nodup

variable {fields : Fields} {name other : Text} {value : Json}

/-! ## Looking up -/

/-- The first field is found by its name, any other field behind it. -/
theorem get?_cons (held : Json) (rest : Fields) : get? ((other, held) :: rest) name =
    if name = other then some held else get? rest name := by
  unfold get?
  rw [List.lookup_cons]
  by_cases same : name = other
  · rw [if_pos same, beq_iff_eq.2 same]
  · rw [if_neg same, beq_false_of_ne same]

/-- What is found stands there. -/
theorem mem_of_get? (found : get? fields name = some value) : (name, value) ∈ fields := by
  induction fields with
  | nil => cases found
  | cons field rest ih =>
    rw [get?_cons] at found
    split at found
    · rename_i same
      obtain rfl := Option.some.inj found
      rw [same]
      exact List.mem_cons_self
    · exact List.mem_cons_of_mem _ (ih found)

/-- Where every name stands once, what stands there is found. -/
theorem Distinct.get?_of_mem (distinct : fields.Distinct) (member : (name, value) ∈ fields) :
    get? fields name = some value := by
  induction fields with
  | nil => exact absurd member List.not_mem_nil
  | cons field rest ih =>
    obtain ⟨absent, others⟩ := List.nodup_cons.1 distinct
    rw [get?_cons]
    rcases List.mem_cons.1 member with rfl | later
    · rw [if_pos rfl]
    · have apart : name ≠ field.1 := fun same => absent (same ▸ List.mem_map_of_mem later)
      rw [if_neg apart, ih others later]

/-- Where every name stands once, what is found among some of the fields is what is found among all
of them, if that is one of them. -/
theorem Distinct.get?_filter (distinct : fields.Distinct) (keep : Json → Bool) (name : Text) :
    get? (fields.filter fun field => keep field.2) name = (get? fields name).filter keep := by
  induction fields with
  | nil => rfl
  | cons field rest ih =>
    obtain ⟨absent, others⟩ := List.nodup_cons.1 distinct
    obtain ⟨other, held⟩ := field
    rw [get?_cons, List.filter_cons]
    by_cases same : name = other
    · subst same
      rw [if_pos rfl]
      split
      · rename_i kept
        rw [get?_cons, if_pos rfl, Option.filter_some, if_pos kept]
      · rename_i dropped
        rw [ih others, Option.filter_some, if_neg dropped, Option.filter_eq_none_iff]
        intro value found
        exact absurd (List.mem_map_of_mem (mem_of_get? found)) absent
    · rw [if_neg same]
      split
      · rw [get?_cons, if_neg same, ih others]
      · exact ih others

/-- Some of the fields have every name once if all of them do. -/
theorem Distinct.filter (distinct : fields.Distinct) (keep : Text × Json → Bool) :
    Distinct (fields.filter keep) :=
  distinct.sublist (List.filter_sublist.map _)

/-! ## Setting -/

/-- Setting a value is seen under its name alone. -/
theorem get?_put (name : Text) (value : Json) (fields : Fields) (other : Text) :
    get? (put name value fields) other = if other = name then some value else get? fields other := by
  induction fields with
  | nil => exact get?_cons value []
  | cons field rest ih =>
    obtain ⟨first, held⟩ := field
    unfold put
    split
    · rename_i same
      subst same
      rw [get?_cons, get?_cons]
      split
      · rfl
      · rfl
    · rename_i differs
      rw [get?_cons, get?_cons, ih]
      split
      · rename_i same
        rw [if_neg fun again => differs (same.symm.trans again)]
      · rfl

/-- A field that stands there after setting one is that one or stood there before. -/
theorem mem_put {field : Text × Json} (member : field ∈ put name value fields) :
    field = (name, value) ∨ field ∈ fields := by
  induction fields with
  | nil => exact .inl (List.mem_singleton.1 member)
  | cons first rest ih =>
    unfold put at member
    split at member
    · exact (List.mem_cons.1 member).imp_right (List.mem_cons_of_mem _)
    · rcases List.mem_cons.1 member with rfl | later
      · exact .inr List.mem_cons_self
      · exact (ih later).imp_right (List.mem_cons_of_mem _)

/-- Setting a value keeps every name standing once. -/
theorem Distinct.put (distinct : fields.Distinct) (name : Text) (value : Json) :
    (put name value fields).Distinct := by
  induction fields with
  | nil => exact List.nodup_singleton _
  | cons field rest ih =>
    obtain ⟨absent, others⟩ := List.nodup_cons.1 distinct
    unfold Fields.put
    split
    · rename_i same
      subst same
      exact List.nodup_cons.2 ⟨absent, others⟩
    · rename_i differs
      refine List.nodup_cons.2 ⟨fun again => ?_, ih others⟩
      obtain ⟨found, member, same⟩ := List.mem_map.1 again
      rcases mem_put member with rfl | before
      · exact differs same.symm
      · exact absent (same ▸ List.mem_map_of_mem before)

/-- A new name is added at the end. -/
theorem put_of_absent (absent : name ∉ fields.map Prod.fst) :
    put name value fields = fields ++ [(name, value)] := by
  induction fields with
  | nil => rfl
  | cons field rest ih =>
    rw [List.map_cons, List.mem_cons, not_or] at absent
    rw [put, if_neg (Ne.symm absent.1), ih absent.2, List.cons_append]

/-- Setting the value that a name has changes nothing. -/
theorem put_of_get? (found : get? fields name = some value) : put name value fields = fields := by
  induction fields with
  | nil => cases found
  | cons field rest ih =>
    rw [get?_cons] at found
    unfold put
    split at found
    · rename_i same
      rw [if_pos same.symm, same, ← Option.some.inj found]
    · rename_i differs
      rw [if_neg (Ne.symm differs), ih found]

/-- Setting a value leaves the order of the names that stand there, and a new one comes last. -/
theorem names_put (name : Text) (value : Json) (fields : Fields) :
    (put name value fields).map Prod.fst =
      if name ∈ fields.map Prod.fst then fields.map Prod.fst
      else (fields.map Prod.fst).concat name := by
  induction fields with
  | nil => rfl
  | cons field rest ih =>
    obtain ⟨first, held⟩ := field
    unfold put
    by_cases same : first = name
    · rw [if_pos same, List.map_cons, List.map_cons, if_pos (same ▸ List.mem_cons_self), same]
    · have tail : name ∈ first :: rest.map Prod.fst ↔ name ∈ rest.map Prod.fst := by
        rw [List.mem_cons, or_iff_right (Ne.symm same)]
      rw [if_neg same, List.map_cons, List.map_cons, ih, if_congr tail rfl rfl]
      split
      · rfl
      · rfl

/-! ## Equality -/

/-- Nothing is found under a name that does not stand there. -/
theorem get?_of_absent (absent : name ∉ fields.map Prod.fst) : get? fields name = none :=
  Option.eq_none_iff_forall_ne_some.2 fun _ found =>
    absent (List.mem_map_of_mem (mem_of_get? found))

/-- Where every name stands once, the order of the names and what is found under them is all there
is. -/
theorem Distinct.eq_of_names (distinct : fields.Distinct) {others : Fields}
    (names : fields.map Prod.fst = others.map Prod.fst)
    (same : ∀ name, get? fields name = get? others name) : fields = others := by
  induction fields generalizing others with
  | nil => exact (List.map_eq_nil_iff.1 names.symm).symm
  | cons field rest ih =>
    cases others with
    | nil => cases names
    | cons other more =>
      obtain ⟨absent, later⟩ := List.nodup_cons.1 distinct
      obtain ⟨name, value⟩ := field
      obtain ⟨name', value'⟩ := other
      obtain ⟨rfl, tail⟩ := List.cons.inj names
      have first := same name
      rw [get?_cons, get?_cons, if_pos rfl, if_pos rfl] at first
      have behind (other : Text) : get? rest other = get? more other := by
        by_cases again : other = name
        · rw [again, get?_of_absent absent, get?_of_absent (tail ▸ absent)]
        · have found := same other
          rwa [get?_cons, get?_cons, if_neg again, if_neg again] at found
      rw [Option.some.inj first, ih later tail behind]

/-! ## Naming values one after another -/

/-- Named values in which every name stands once, from any list. -/
theorem distinct_ofList (pairs : Fields) : (ofList pairs).Distinct := by
  have grown (pairs before : Fields) (distinct : before.Distinct) :
      (pairs.foldl (fun fields pair => put pair.1 pair.2 fields) before).Distinct := by
    induction pairs generalizing before with
    | nil => exact distinct
    | cons pair pairs ih => exact ih _ (distinct.put pair.1 pair.2)
  exact grown pairs [] List.nodup_nil

/-- What is named comes from the list. -/
theorem mem_of_mem_ofList {pairs : Fields} {field : Text × Json} (member : field ∈ ofList pairs) :
    field ∈ pairs := by
  have grown (pairs before : Fields)
      (member : field ∈ pairs.foldl (fun fields pair => put pair.1 pair.2 fields) before) :
      field ∈ pairs ∨ field ∈ before := by
    induction pairs generalizing before with
    | nil => exact .inr member
    | cons pair pairs ih =>
      rcases ih _ member with later | before
      · exact .inl (List.mem_cons_of_mem _ later)
      · rcases mem_put before with rfl | before
        · exact .inl List.mem_cons_self
        · exact .inr before
  exact (grown pairs [] member).resolve_right List.not_mem_nil

/-- A list in which every name stands once names what it holds, in its order. -/
theorem Distinct.ofList_eq {pairs : Fields} (distinct : pairs.Distinct) : ofList pairs = pairs := by
  have grown (pairs before : Fields) (distinct : Distinct (before ++ pairs)) :
      pairs.foldl (fun fields pair => Fields.put pair.1 pair.2 fields) before = before ++ pairs := by
    induction pairs generalizing before with
    | nil => exact (List.append_nil before).symm
    | cons pair pairs ih =>
      have absent : pair.1 ∉ before.map Prod.fst := by
        rw [Distinct, List.map_append, List.map_cons] at distinct
        exact fun member => List.disjoint_of_nodup_append distinct member List.mem_cons_self
      have moved : before ++ pair :: pairs = before ++ [pair] ++ pairs := by
        rw [List.append_assoc, List.singleton_append]
      rw [moved] at distinct ⊢
      rw [List.foldl_cons, put_of_absent absent]
      exact ih _ distinct
  exact grown pairs [] distinct

end Fields

end Reckoner
