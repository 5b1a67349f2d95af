import Reckoner.Expression.Token

/-!
# Where tokens end

A number is the longest run of its characters, so every other character separates: what stands
before it and what begins with it are read apart. A run of characters of a number is one token, and
where there is a character of a number there is a number. Conversely every number among the tokens
is a part of the text.
-/

namespace Reckoner

namespace Token

/-! ## Single characters -/

/-- A character of a number joins a number behind it. -/
theorem scan_join {c next : CodePoint} (number : isNumberChar c = true)
    (joined : isNumberChar next = true) (rest : Text) :
    scan (c :: next :: rest) = extendNumber c (scan (next :: rest)) := by
  rw [scan.eq_def]
  simp only [if_pos number, if_pos joined]

/-- A character of a number before a character of none is a number of its own. -/
theorem scan_alone {c next : CodePoint} (number : isNumberChar c = true)
    (apart : isNumberChar next = false) (rest : Text) :
    scan (c :: next :: rest) = .number [c] :: scan (next :: rest) := by
  rw [scan.eq_def]
  simp only [if_pos number, apart, Bool.false_eq_true, ↓reduceIte]

/-- A character of no number makes its own token, if it makes one. -/
theorem scan_other {c : CodePoint} (other : isNumberChar c = false) (rest : Text) :
    scan (c :: rest) = (ofChar? c).toList ++ scan rest := by
  rw [scan.eq_def]
  simp only [other, Bool.false_eq_true, ↓reduceIte]
  cases ofChar? c with
  | none => rfl
  | some token => rfl

/-! ## Runs -/

/-- A text that begins with a character of a number begins with a number. -/
theorem scan_number_head {c : CodePoint} (number : isNumberChar c = true) (rest : Text) :
    ∃ text tokens, scan (c :: rest) = .number (c :: text) :: tokens := by
  cases rest with
  | nil => exact ⟨[], [], by simp [scan, number]⟩
  | cons next rest =>
    cases joined : isNumberChar next with
    | true =>
      rw [scan_join number joined]
      unfold extendNumber
      split
      · exact ⟨_, _, rfl⟩
      · exact ⟨_, _, rfl⟩
    | false => exact ⟨[], _, scan_alone number joined rest⟩

/-- A run of characters of a number is one number. -/
theorem scan_run {run : Text} (nonempty : run ≠ []) (numbers : ∀ c ∈ run, isNumberChar c = true) :
    scan run = [.number run] := by
  induction run with
  | nil => exact absurd rfl nonempty
  | cons c rest ih =>
    have first := numbers c (List.mem_cons_self ..)
    cases rest with
    | nil => simp [scan, first]
    | cons next rest =>
      have second := numbers next (List.mem_cons_of_mem _ (List.mem_cons_self ..))
      have others := ih (by simp) fun d member => numbers d (List.mem_cons_of_mem _ member)
      rw [scan_join first second, others]
      rfl

/-! ## Separators -/

/-- A character of no number separates what stands before it from what begins with it. -/
theorem scan_append {mark : CodePoint} (separates : isNumberChar mark = false)
    (front back : Text) : scan (front ++ mark :: back) = scan front ++ scan (mark :: back) := by
  induction front with
  | nil => rfl
  | cons c rest ih =>
    cases number : isNumberChar c with
    | false =>
      rw [List.cons_append, scan_other number, scan_other number, ih, List.append_assoc]
    | true =>
      cases rest with
      | nil =>
        rw [List.singleton_append, scan_alone number separates]
        simp [scan, number]
      | cons next rest =>
        rw [List.cons_append, List.cons_append]
        cases joined : isNumberChar next with
        | true =>
          obtain ⟨text, tokens, begins⟩ := scan_number_head joined rest
          rw [scan_join number joined, scan_join number joined, ← List.cons_append, ih, begins]
          rfl
        | false =>
          rw [scan_alone number joined, scan_alone number joined, ← List.cons_append, ih]
          rfl

/-- A character of no number makes its own token, if it makes one, between what is read before and
behind it. -/
theorem scan_append_other {mark : CodePoint} (separates : isNumberChar mark = false)
    (front back : Text) :
    scan (front ++ mark :: back) = scan front ++ ((ofChar? mark).toList ++ scan back) := by
  rw [scan_append separates, scan_other separates]

/-- A run of characters of a number before something else is the first token. -/
theorem scan_front {run back : Text} (nonempty : run ≠ [])
    (numbers : ∀ c ∈ run, isNumberChar c = true)
    (stop : ∀ c ∈ back.head?, isNumberChar c = false) :
    scan (run ++ back) = .number run :: scan back := by
  cases back with
  | nil => rw [List.append_nil, scan_run nonempty numbers, scan]
  | cons mark back =>
    rw [scan_append (stop mark rfl), scan_run nonempty numbers]
    rfl

/-- A run of characters of a number behind something else is the last token. -/
theorem scan_behind {front run : Text} (stop : ∀ c ∈ front.getLast?, isNumberChar c = false)
    (nonempty : run ≠ []) (numbers : ∀ c ∈ run, isNumberChar c = true) :
    scan (front ++ run) = scan front ++ [.number run] := by
  rcases List.eq_nil_or_concat front with rfl | ⟨before, mark, rfl⟩
  · rw [List.nil_append, scan_run nonempty numbers, scan, List.nil_append]
  · rw [List.concat_eq_append] at stop ⊢
    have separates : isNumberChar mark = false := stop mark List.getLast?_concat
    rw [List.append_assoc, List.singleton_append, scan_append_other separates,
      scan_append_other separates, scan_run nonempty numbers, scan, List.append_nil,
      List.append_assoc]

/-- A text is read from the front: it is empty, begins with a character of no number, or begins with
a run of characters of a number that ends before something else. -/
@[elab_as_elim]
theorem scan_induction {motive : Text → Prop} (nil : motive [])
    (other : ∀ c rest, isNumberChar c = false → motive rest → motive (c :: rest))
    (run : ∀ run rest, run ≠ [] → (∀ c ∈ run, isNumberChar c = true) →
      (∀ c ∈ rest.head?, isNumberChar c = false) → motive rest → motive (run ++ rest))
    (text : Text) : motive text := by
  induction length : text.length using Nat.strongRecOn generalizing text with
  | ind n ih =>
    subst length
    cases text with
    | nil => exact nil
    | cons c rest =>
      cases first : isNumberChar c with
      | false => exact other c rest first (ih rest.length (Nat.lt_succ_self _) rest rfl)
      | true =>
        -- The longest run at the front ends where a character of no number stands.
        have split : (c :: rest).takeWhile isNumberChar ++ (c :: rest).dropWhile isNumberChar =
          c :: rest := List.takeWhile_append_dropWhile
        have nonempty : (c :: rest).takeWhile isNumberChar ≠ [] := by simp [first]
        have numbers : ∀ d ∈ (c :: rest).takeWhile isNumberChar, isNumberChar d = true :=
          List.all_eq_true.1 List.all_takeWhile
        have stop : ∀ d ∈ ((c :: rest).dropWhile isNumberChar).head?, isNumberChar d = false := by
          intro d head
          have ends := List.head?_dropWhile_not isNumberChar (c :: rest)
          rw [Option.mem_def.1 head] at ends
          exact ends
        have shorter : ((c :: rest).dropWhile isNumberChar).length < (c :: rest).length := by
          rw [List.dropWhile_cons_of_pos first]
          exact Nat.lt_succ_of_le (List.dropWhile_suffix _).length_le
        rw [← split]
        exact run _ _ nonempty numbers stop (ih _ shorter _ rfl)

/-! ## Number tokens -/

/-- The token of a single character is no number. -/
theorem ofChar?_ne_number (c : CodePoint) (text : Text) : ofChar? c ≠ some (.number text) := by
  unfold ofChar?
  split <;> nofun

/-- A number among the tokens is a part of the text, made of characters of a number. -/
theorem infix_of_mem_scan {number text : Text} (member : .number number ∈ scan text) :
    number <:+: text ∧ number ≠ [] ∧ ∀ c ∈ number, isNumberChar c = true := by
  induction text using scan_induction with
  | nil => exact absurd member List.not_mem_nil
  | other c rest first ih =>
    rw [scan_other first] at member
    rcases List.mem_append.1 member with single | behind
    · exact absurd (Option.mem_toList.1 single) (ofChar?_ne_number c number)
    · obtain ⟨part, others⟩ := ih behind
      exact ⟨part.trans (List.suffix_cons c rest).isInfix, others⟩
  | run run rest nonempty numbers stop ih =>
    rw [scan_front nonempty numbers stop] at member
    rcases List.mem_cons.1 member with same | behind
    · obtain rfl := Token.number.inj same
      exact ⟨(List.prefix_append _ _).isInfix, nonempty, numbers⟩
    · obtain ⟨part, others⟩ := ih behind
      exact ⟨part.trans (List.suffix_append _ _).isInfix, others⟩

/-! ## Counting numbers -/

/-- Whether a token is a number. -/
def isNumber : Token → Bool
  | .number _ => true
  | _ => false

/-- How many numbers there are among tokens. -/
def numbers (tokens : List Token) : Nat := tokens.countP isNumber

/-- Numbers are counted on both sides. -/
theorem numbers_append (front back : List Token) :
    numbers (front ++ back) = numbers front + numbers back := List.countP_append

/-- Where there is a character of a number there is a number. -/
theorem numbers_scan_pos {text : Text} {c : CodePoint} (member : c ∈ text)
    (number : isNumberChar c = true) : 0 < numbers (scan text) := by
  have first (text : Text) (tokens : List Token) : 0 < numbers (.number text :: tokens) := by
    simp [numbers, isNumber]
  induction text with
  | nil => exact absurd member List.not_mem_nil
  | cons d rest ih =>
    cases other : isNumberChar d with
    | true =>
      obtain ⟨text, tokens, begins⟩ := scan_number_head other rest
      rw [begins]
      exact first _ _
    | false =>
      rcases List.mem_cons.1 member with rfl | behind
      · rw [number] at other
        cases other
      · rw [scan_other other, numbers_append]
        exact Nat.add_pos_right _ (ih behind)

/-! ## Counting signs -/

/-- A token other than a number is made by the character that it is written with. -/
theorem ofChar?_eq_some_iff {c : CodePoint} {token : Token} (single : token.isNumber = false) :
    ofChar? c = some token ↔ token.text = [c] := by
  constructor
  · intro makes
    unfold ofChar? at makes
    split at makes <;> cases makes <;> rfl
  · intro written
    cases token with
    | number text => cases single
    | _ =>
      obtain rfl := List.head_eq_of_cons_eq written
      rfl

/-- What makes a token of its own separates. -/
theorem separates_of_ofChar? {c : CodePoint} {token : Token} (makes : ofChar? c = some token) :
    isNumberChar c = false := by
  unfold ofChar? at makes
  split at makes
  case h_10 => cases makes
  all_goals decide

/-- A token other than a number is read as often as it is written. -/
theorem count_scan {token : Token} {mark : CodePoint} (single : token.isNumber = false)
    (written : token.text = [mark]) (text : Text) : (scan text).count token = text.count mark := by
  have makes : ofChar? mark = some token := (ofChar?_eq_some_iff single).2 written
  have separates := separates_of_ofChar? makes
  have number_ne (text : Text) : Token.number text ≠ token := by
    rintro rfl
    cases single
  have extended (c : CodePoint) (tokens : List Token) :
      (extendNumber c tokens).count token = tokens.count token := by
    unfold extendNumber
    split
    · rw [List.count_cons_of_ne (number_ne _), List.count_cons_of_ne (number_ne _)]
    · rw [List.count_cons_of_ne (number_ne _)]
  induction text with
  | nil => rfl
  | cons c rest ih =>
    cases number : isNumberChar c with
    | false =>
      have first : (ofChar? c).toList.count token = [c].count mark := by
        by_cases same : c = mark
        · rw [same, makes]
          simp
        · have other : ofChar? c ≠ some token := fun made => by
            have text := (ofChar?_eq_some_iff single).1 made
            exact same (List.head_eq_of_cons_eq (text.symm.trans written))
          rw [List.count_singleton, if_neg (by simpa using same)]
          exact List.count_eq_zero.2 fun member => other (Option.mem_toList.1 member)
      rw [scan_other number, List.count_append, ih, first, ← List.count_append]
      rfl
    | true =>
      have other : c ≠ mark := by
        rintro rfl
        rw [number] at separates
        cases separates
      rw [List.count_cons_of_ne other, ← ih]
      cases rest with
      | nil =>
        rw [scan_run (List.cons_ne_nil _ _) (List.forall_mem_singleton.2 number)]
        exact List.count_cons_of_ne (number_ne _)
      | cons next rest =>
        cases joined : isNumberChar next with
        | true => rw [scan_join number joined, extended]
        | false => rw [scan_alone number joined, List.count_cons_of_ne (number_ne _)]

end Token

end Reckoner
