import Reckoner.Proofs.Calculator.Composing
import Reckoner.Proofs.Expression.Opposite

/-!
# Changing the sign in an expression

The sign of the number at the end is changed in the text, where the characters before the number
tell whether a minus sign belongs to it. What is meant by the text is its derivation. If there is
one, the changed text has one as well, which differs by one minus sign before the last number: a
minus sign is only taken away behind an operation, a parenthesis or another sign, and otherwise one
more is put in. The signs that stand before the number then are few, so nothing is nested too deep
unless hardly any depth is left.
-/

namespace Reckoner

namespace Text

variable {text before : Text}

/-! ## Signs before the end -/

/-- A minus sign is read between what stands before it and behind it. -/
theorem scan_minus (front back : Text) :
    Token.scan (front ++ .char '-' :: back) = Token.scan front ++ .minus :: Token.scan back :=
  Token.scan_append_other (by decide) front back

/-- Without root signs in the text, signs that are read are minus signs that are written. -/
theorem signs_le_count (simple : ∀ c ∈ text, c.IsSimple) {signs : List Sign}
    (ends : signs.map Sign.token <:+ Token.scan text) :
    signs.length ≤ text.count (.char '-') := by
  have no_root : Token.root ∉ Token.scan text := by
    rw [← List.count_eq_zero, Token.count_scan rfl rfl, List.count_eq_zero]
    exact fun member => (simple _ member).root rfl
  have minus : ∀ token ∈ signs.map Sign.token, Token.minus = token := by
    intro token member
    obtain ⟨sign, -, rfl⟩ := List.mem_map.1 member
    cases sign with
    | root => exact absurd (ends.subset member) no_root
    | minus => rfl
  have written : (Token.scan text).count .minus = text.count (.char '-') :=
    Token.count_scan rfl rfl text
  calc signs.length
    _ = (signs.map Sign.token).count .minus := by
      rw [List.count_eq_length.2 minus, List.length_map]
    _ ≤ (Token.scan text).count .minus := ends.sublist.count_le _
    _ = text.count (.char '-') := written

/-- A text whose last character is no minus sign and is not skipped ends in no sign. -/
theorem scan_ends_unsigned {front : Text} {c : CodePoint}
    (simple : ∀ d ∈ front ++ [c], d.IsSimple) (kept : Token.isSkipped c = false) (other : c ≠ '-') :
    ∃ rest last, Token.scan (front ++ [c]) = rest ++ [last] ∧ ∀ sign : Sign, sign.token ≠ last := by
  cases number : Token.isNumberChar c with
  | true =>
    have nonempty : endNumber (front ++ [c]) ≠ [] := by
      intro none
      have whole := before_append_end simple
      rw [none, List.append_nil] at whole
      have stops := before_stops simple c (by rw [whole]; exact List.getLast?_concat)
      rw [number] at stops
      cases stops
    exact ⟨_, _, scan_end simple nonempty, fun sign => by cases sign <;> nofun⟩
  | false =>
    cases made : Token.ofChar? c with
    | none =>
      rw [Token.isSkipped, number, made] at kept
      cases kept
    | some token =>
      refine ⟨Token.scan front, token, ?_, fun sign same => ?_⟩
      · rw [Token.scan_append_other number, made]
        rfl
      · rw [← same] at made
        cases sign with
        | root =>
          have written := (Token.ofChar?_eq_some_iff rfl).1 made
          exact (simple c (by simp)).root (List.head_eq_of_cons_eq written).symm
        | minus =>
          have written := (Token.ofChar?_eq_some_iff rfl).1 made
          exact other (List.head_eq_of_cons_eq written).symm

/-- Signs at the end do not reach beyond a token that is no sign. -/
theorem signs_length_le {signs : List Sign} {front back : List Token} {last : Token}
    (ends : signs.map Sign.token <:+ front ++ last :: back)
    (other : ∀ sign : Sign, sign.token ≠ last) : signs.length ≤ back.length := by
  have absent : last ∉ signs.map Sign.token := by
    intro member
    obtain ⟨sign, -, same⟩ := List.mem_map.1 member
    exact other sign same
  rw [← List.length_map (f := Sign.token)]
  rcases List.suffix_or_suffix_of_suffix ends (List.suffix_append front (last :: back)) with
    inside | beyond
  · rcases List.suffix_cons_iff.1 inside with same | behind
    · exact absurd (same ▸ List.mem_cons_self ..) absent
    · exact behind.length_le
  · exact absurd (beyond.subset (List.mem_cons_self ..)) absent

/-- Behind a character that is skipped only the minus signs that follow it are not counted. -/
theorem FewSigns.count_le {front back : Text} {c : CodePoint}
    (few : FewSigns (front ++ c :: back)) (skipped : Token.isSkipped c = true) :
    List.count (.char '-') (front ++ c :: back) ≤ signLimit + back.count (.char '-') := by
  have other : c ≠ '-' := by
    rintro rfl
    cases skipped
  rw [List.count_append, List.count_cons_of_ne other]
  exact Nat.add_le_add_right (few front c back rfl skipped) _

/-- A minus sign behind another one belongs to the number that follows. -/
theorem withoutSign?_twice (front : Text) :
    State.withoutSign? (front ++ [.char '-', .char '-']) ≠ none := by
  have context : ('-' : CodePoint) ∈ State.signContext := by decide
  unfold State.withoutSign?
  rw [List.reverse_append]
  simp [context]

/-- Where no minus sign belongs to the number that follows, few signs stand before that number. -/
theorem signs_le (simple : ∀ c ∈ before, c.IsSimple) (few : before.FewSigns)
    (unsigned : State.withoutSign? before = none) {signs : List Sign}
    (ends : signs.map Sign.token <:+ Token.scan before) : signs.length ≤ signLimit + 1 := by
  have written := signs_le_count simple ends
  rcases List.eq_nil_or_concat before with rfl | ⟨front, c, rfl⟩
  · exact Nat.le_trans written (Nat.zero_le _)
  rw [List.concat_eq_append] at simple few unsigned ends written
  cases skipped : Token.isSkipped c with
  | true => exact Nat.le_trans written (Nat.le_trans (few.count_le skipped) (Nat.le_add_right ..))
  | false =>
    by_cases minus : c = '-'
    · -- This minus sign subtracts, unless what stands before it is skipped.
      subst minus
      rcases List.eq_nil_or_concat front with rfl | ⟨rest, d, rfl⟩
      · cases unsigned
      rw [List.concat_eq_append] at simple few unsigned ends written
      by_cases twice : d = '-'
      · rw [twice, List.append_assoc] at unsigned
        exact absurd unsigned (withoutSign?_twice rest)
      · cases hidden : Token.isSkipped d with
        | true =>
          rw [List.append_assoc] at few written
          exact Nat.le_trans written (few.count_le hidden)
        | false =>
          have inner := fun e member => simple e (List.mem_append_left _ member)
          obtain ⟨read, last, same, other⟩ := scan_ends_unsigned inner hidden twice
          rw [scan_minus, same, List.append_assoc] at ends
          exact Nat.le_trans (signs_length_le ends other) (Nat.le_add_left ..)
    · obtain ⟨rest, last, read, other⟩ := scan_ends_unsigned simple skipped minus
      rw [read] at ends
      exact Nat.le_trans (signs_length_le ends other) (Nat.zero_le _)

/-! ## Derivations -/

/-- In the contexts of a sign no operand ends. -/
theorem scan_opens {front : Text} (context : ∀ c ∈ front.getLast?, c ∈ State.signContext) :
    ∀ last ∈ (Token.scan front).getLast?, last.isClosing = false := by
  have tokens : ∀ c ∈ State.signContext,
      (Token.ofChar? c).any (fun token => !token.isClosing) = true := by decide
  rcases List.eq_nil_or_concat front with rfl | ⟨rest, c, rfl⟩
  · exact nofun
  · rw [List.concat_eq_append] at context ⊢
    have among : c ∈ State.signContext := context c List.getLast?_concat
    obtain ⟨token, made, opens⟩ := (Option.any_eq_true ..).1 (tokens c among)
    have read : Token.scan (rest ++ [c]) = Token.scan rest ++ [token] := by
      rw [Token.scan_append_other (signContext_stops c among), made]
      rfl
    intro last same
    rw [read, List.getLast?_concat] at same
    rw [← Option.some.inj same]
    simpa using opens

namespace Composed

/-- If a composed expression that ends in a number has a derivation, the expression with the sign of
that number changed has one that differs by a minus sign. -/
theorem exists_flips (composed : text.Composed) (number : endNumber text ≠ []) {tree : Tree .sum}
    (derives : tree.tokens = Token.scan text) {depth : Nat} (room : signLimit + 2 < depth)
    (fits : tree.nesting < depth) :
    ∃ other : Tree .sum, tree.Flips other ∧ other.tokens = Token.scan (State.negateEnd text) ∧
      other.nesting < depth := by
  have simple := composed.orderly.simple
  have numbers := isNumberChar_end simple
  have operand : Level.sum ≠ .atom := nofun
  rw [scan_end simple number] at derives
  rcases negateEnd_cases simple with ⟨shorter, split, context, removed⟩ | ⟨unsigned, inserted⟩
  · have signed : tree.tokens = Token.scan shorter ++ [.minus, .number (endNumber text)] := by
      rw [derives, split, scan_minus, List.append_assoc]
      rfl
    obtain ⟨other, flips, written, nesting⟩ :=
      Tree.exists_remove operand signed (scan_opens context)
    have stops (c) (last : c ∈ shorter.getLast?) := signContext_stops c (context c last)
    refine ⟨other, flips, ?_, Nat.lt_of_le_of_lt nesting fits⟩
    rw [removed, written, Token.scan_behind stops number numbers]
  · obtain ⟨other, signs, flips, written, ends, nesting⟩ := Tree.exists_insert operand derives
    have among := (before_among simple).subset
    have few := signs_le (fun c member => simple c (among member))
      (composed.signs.of_front ⟨_, before_append_end simple⟩) unsigned ends
    refine ⟨other, flips, ?_, ?_⟩
    · rw [inserted, scan_minus, Token.scan_run number numbers, written]
    · omega

/-- The number at the end stays when its sign is changed. -/
theorem endNumber_negateEnd (composed : text.Composed) (number : endNumber text ≠ []) :
    endNumber (State.negateEnd text) = endNumber text := by
  have simple := composed.orderly.simple
  have changed := (composed.negateEnd number).orderly.simple
  have numbers := isNumberChar_end simple
  rcases negateEnd_cases simple with ⟨shorter, -, context, removed⟩ | ⟨-, inserted⟩
  · rw [removed] at changed ⊢
    exact endNumber_append changed (fun c last => signContext_stops c (context c last)) numbers
  · have behind : State.negateEnd text =
        (beforeEndNumber text ++ [.char '-']) ++ endNumber text := by
      rw [inserted, List.append_assoc]
      rfl
    rw [behind] at changed ⊢
    refine endNumber_append changed (fun c last => ?_) numbers
    rw [List.getLast?_concat] at last
    rw [← Option.some.inj last]
    decide

end Composed

end Text

namespace Tree

/-- The text of an expression whose derivation differs from another one by a minus sign before the
last number, and which is evaluated with the opposite of that number. -/
structure Opposes (depth : Nat) (tree other : Tree .sum) (negated : Text) : Prop where
  derives : other.tokens = Token.scan negated
  flips : tree.Flips other
  fits : other.nesting < depth
  outcome : (Rule.whole depth (.start (Token.scan negated))).1 = tree.outcomeWith (-·)

/-- Where the signs of derivations differ the outcomes do. -/
theorem Opposes.of_flips {depth : Nat} {tree other : Tree .sum} {negated : Text}
    (flips : tree.Flips other) (derives : other.tokens = Token.scan negated)
    (fits : other.nesting < depth) : tree.Opposes depth other negated where
  derives := derives
  flips := flips
  fits := fits
  outcome := by
    rw [← derives, whole_outcome fits]
    exact flips.outcome

/-- The opposite of the opposite number is the number itself. -/
theorem Opposes.twice {depth : Nat} {tree once twice : Tree .sum} {negated restored : Text}
    (first : tree.Opposes depth once negated) (second : once.Opposes depth twice restored) :
    (Rule.whole depth (.start (Token.scan restored))).1 = tree.outcome :=
  second.outcome.trans first.flips.symm.outcome.symm

end Tree

/-- A calculator that rests changes the sign of the number at the end of an expression. -/
theorem Calculator.apply_negate {calculator : Calculator} (rests : calculator.calculating = false)
    {expression display : Text} (typed : calculator.state = .composing expression display)
    (number : Text.endNumber expression ≠ []) (depth : Nat) :
    (calculator.apply depth .negate).state = .composing (State.negateEnd expression) display ∧
      (calculator.apply depth .negate).calculating = false := by
  rw [apply, edit_idle rests]
  refine ⟨?_, rests⟩
  rw [typed]
  exact if_neg (by simpa using number)

namespace Press

/-- What changing the sign means in an expression. In every state that presses reach in front of
services that answer with integers, an expression that ends in a number and has a derivation is
changed to one that has a derivation as well. The two differ by one minus sign before the last
number, and the outcome of the changed one is that of the old one with the opposite of that number.
So with the sign changed twice the outcome is the old one. This is so with any depth that is enough
for the old expression and for the few signs that may stand before its number. -/
theorem negate_opposes {σ : Type} (presses : List (Press σ))
    (integral : ∀ press ∈ presses, press.provider.Integral) (service : σ)
    {expression display : Text}
    (typed : (run presses service).1.state = .composing expression display)
    (number : Text.endNumber expression ≠ []) {tree : Tree .sum}
    (derives : tree.tokens = Token.scan expression) {depth : Nat}
    (room : Text.signLimit + 2 < depth) (fits : tree.nesting < depth) :
    ∃ (negated restored : Text) (once twice : Tree .sum),
      ((run presses service).1.apply depth .negate).state = .composing negated display ∧
      (((run presses service).1.apply depth .negate).apply depth .negate).state =
        .composing restored display ∧
      tree.Opposes depth once negated ∧ once.Opposes depth twice restored ∧
      (Rule.whole depth (.start (Token.scan expression))).1 = tree.outcome ∧
      (Rule.whole depth (.start (Token.scan restored))).1 = tree.outcome := by
  have rests := run_rests presses service
  have composed := composes_run presses integral service expression display typed
  have again := composed.negateEnd number
  have still : Text.endNumber (State.negateEnd expression) ≠ [] := by
    rwa [composed.endNumber_negateEnd number]
  obtain ⟨once, flips, onceDerives, onceFits⟩ := composed.exists_flips number derives room fits
  obtain ⟨twice, flipsBack, twiceDerives, twiceFits⟩ :=
    again.exists_flips still onceDerives room onceFits
  have first := Tree.Opposes.of_flips flips onceDerives onceFits
  have second := Tree.Opposes.of_flips flipsBack twiceDerives twiceFits
  obtain ⟨changed, changedRests⟩ := Calculator.apply_negate rests typed number depth
  obtain ⟨restored, -⟩ := Calculator.apply_negate changedRests changed still depth
  refine ⟨_, _, once, twice, changed, restored, first, second, ?_, first.twice second⟩
  rw [← derives, whole_outcome fits]

/-- Five minus three, typed as an expression: the parenthesis that begins it is erased again. -/
def fiveMinusThree : List LocalPress :=
  atOnce [['5'], ['-'], ['('], ['D', 'E', 'L'], ['3']]

/-- The minus sign between the numbers subtracts, so another one is put before the three. -/
theorem fiveMinusThree_opposed :
    ((reached .new fiveMinusThree).apply Calculator.scriptDepth .negate).state =
        .composing "5--3" "3" ∧
      (Rule.whole Calculator.scriptDepth (.start (Token.scan "5--3"))).1 = .ok (.ofInt 8) := by
  have typed : (reached .new fiveMinusThree).state = .composing "5-3" "3" := by decide +kernel
  have number : Text.endNumber "5-3" ≠ [] := by decide
  have derives : (Tree.minus (.term (Tree.digit '5')) (Tree.digit '3')).tokens =
      Token.scan "5-3" := by decide
  obtain ⟨negated, restored, once, twice, changed, -, opposes, -⟩ := negate_opposes
    (fiveMinusThree.map atMoment) (integral_atMoment _) .new typed number derives
    (show Text.signLimit + 2 < Calculator.scriptDepth by decide) (by decide)
  have written : ((reached .new fiveMinusThree).apply Calculator.scriptDepth .negate).state =
      .composing "5--3" "3" := by
    decide +kernel
  obtain ⟨rfl, -⟩ := State.composing.inj (written.symm.trans changed)
  exact ⟨written, opposes.outcome.trans (by decide +kernel)⟩

end Press

end Reckoner
