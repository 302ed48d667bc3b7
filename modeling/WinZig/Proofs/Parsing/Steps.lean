import WinZig.Proofs.Parsing.Reading

/-!
# Steps of parsers

How `Reads` is carried through the steps that parsers are composed of: sequences, choices on the
current token, tokens consumed, slots filled, and lists of items. Every lemma takes what is known of
the parts, with what they may add to the tokens read before, to what is known of the whole.

A token that is consumed makes room for the bounds of what follows it. This is the only place where
a bound falls, so recursion through any number of steps needs no more than that one token is
consumed on the way.
-/

namespace WinZig.Parser

open Grammar

variable {α β : Type}

section Steps

variable {start : Kind → Prop} {limit limit' : Nat} {language : Language α} {rule : Rule α}
  {following' : Language β} {rule' : Rule β}

/-- A parser that reads nothing and returns a value the language gives to nothing. -/
theorem Reads.pure {value : α} (derived : ∀ next, start next → language [] value next) :
    Reads start limit limit' (pure value) (pure value) language rule where
  accepts {cursor _ behind} ready starts run := by
    obtain ⟨rfl, rfl⟩ := Reply.ok.inj run
    exact ⟨[], .refl cursor, derived _ starts, fun _ _ _ _ => rfl⟩
  refuses _ _ run := nomatch run

/-- A parser that reads nothing, at any cursor. -/
theorem Parses.pure {value : α} (derived : ∀ next, language [] value next)
    (completed : rule [] value) :
    Parses limit limit' (pure value) (pure value) language rule :=
  ⟨.pure fun next _ => derived next, [], value, completed⟩

/-- A parser that ends what was read before it. -/
theorem Parses.finish {read : List Token} {value : α} (whole : rule read value) :
    Parses limit limit' (Pure.pure value) (Pure.pure value) (rule.free.after read)
      (rule.after read) :=
  .pure (fun _ => by rwa [Language.after, Rule.free, List.append_nil])
    (by rwa [Rule.after, List.append_nil])

/-- A parser that fails at once can be completed by anything. -/
theorem Reads.fail {cause : Cause} (completes : ∃ tokens value, rule tokens value) :
    Reads start limit limit' (fail cause) (fail cause) language rule where
  accepts _ _ run := nomatch run
  refuses {cursor _ _ _} ready starts run := by
    obtain ⟨rfl, rfl, rfl⟩ := Reply.failed.inj run
    refine ⟨[], cursor.rest, rfl, rfl, rfl, completes, fun {tok tail} ahead tail' stop' short => ?_⟩
    simp [Parser.fail, Cursor.onto, Cursor.current, ahead]

/-- Nothing is said of a parser that crashes at once. -/
theorem Reads.crash {literal : Token} :
    Reads start limit limit' (crash literal) (crash literal) language rule where
  accepts _ _ run := nomatch run
  refuses _ _ run := nomatch run

/-- One parser after another. The second is met at the kind that the language of the first saw, and
with as much less room as the first has read. -/
theorem Reads.andThen (room room' : Nat) {first first' : Parser α} {second second' : α → Parser β}
    (known : Reads start limit limit' first first' language rule)
    (goesOn : ∀ read value next, language read value next →
      Reads (· = next) room room' (second value) (second' value) (following'.after read)
        (rule'.after read))
    (completes : ∀ read value, rule read value → ∃ more result, rule' (read ++ more) result)
    (fits : ∀ read value next, language read value next →
      limit ≤ room + read.length ∧ limit' ≤ room' + read.length) :
    Reads start limit limit' (first >>= second) (first' >>= second') following' rule' where
  accepts {cursor result behind} ready starts run := by
    obtain ⟨value, middle, firstRun, secondRun⟩ := ok_of_bind run
    obtain ⟨read, past, derived, again⟩ := known.accepts ready starts firstRun
    obtain ⟨fit, fit'⟩ := fits _ _ _ derived
    obtain ⟨more, pastMore, derivedMore, againMore⟩ :=
      (goesOn _ _ _ derived).accepts (ready.past past fit) rfl secondRun
    refine ⟨read ++ more, past.trans pastMore, derivedMore,
      fun {tok tail} ahead tail' stop' short => ?_⟩
    -- To the first parser the next token is the first of `more`, or `tok` if there is none.
    obtain ⟨next, others, others', front, front'⟩ := exists_next more tok tail tail'
    rw [List.append_assoc] at short ⊢
    have firstAgain := again (by rw [pastMore.rest, ahead, front]) others' stop' (front' ▸ short)
    rw [← front'] at firstAgain
    rw [bind_of_ok firstAgain]
    exact againMore ahead tail' stop' (by simp only [List.length_append] at short ⊢; omega)
  refuses {cursor fault index notices} ready starts run := by
    rcases failed_of_bind run with firstRun | ⟨value, middle, firstRun, secondRun⟩
    · obtain ⟨read, rest, ahead, place, blamed, ⟨more, value, derived⟩, again⟩ :=
        known.refuses ready starts firstRun
      obtain ⟨further, result, completed⟩ := completes _ _ derived
      refine ⟨read, rest, ahead, place, blamed, ⟨more ++ further, result, ?_⟩,
        fun {tok tail} front tail' stop' short => ?_⟩
      · rwa [← List.append_assoc]
      · exact bind_of_failed (again front tail' stop' short)
    · obtain ⟨read, past, derived, again⟩ := known.accepts ready starts firstRun
      obtain ⟨fit, fit'⟩ := fits _ _ _ derived
      obtain ⟨more, rest, ahead, place, blamed, ⟨further, result, completed⟩, againMore⟩ :=
        (goesOn _ _ _ derived).refuses (ready.past past fit) rfl secondRun
      refine ⟨read ++ more, rest, ?_, ?_, ?_, ⟨further, result, ?_⟩,
        fun {tok tail} front tail' stop' short => ?_⟩
      · rw [past.rest, ahead, List.append_assoc]
      · rw [place, past.index, List.length_append, Nat.add_assoc]
      · rw [blamed, past.stop]
      · rw [List.append_assoc]; exact completed
      · obtain ⟨next, others, others', start, start'⟩ := exists_next more tok tail tail'
        rw [List.append_assoc] at short ⊢
        have firstAgain := again (by rw [ahead, front, start]) others' stop' (start' ▸ short)
        rw [← start'] at firstAgain
        rw [bind_of_ok firstAgain]
        exact againMore front tail' stop' (by simp only [List.length_append] at short ⊢; omega)

/-- One parser after another, when the language of the first is a rule. -/
theorem Parses.andThen {first first' : Parser α} {second second' : α → Parser β}
    (known : Parses limit limit' first first' rule.free rule)
    (goesOn : ∀ read value, rule read value →
      Parses limit limit' (second value) (second' value) (following'.after read)
        (rule'.after read)) :
    Parses limit limit' (first >>= second) (first' >>= second') following' rule' where
  toReads := by
    refine known.toReads.andThen limit limit' (fun read value next derived => ?_)
      (fun read value derived => ?_)
      (fun read value next derived => ⟨Nat.le_add_right _ _, Nat.le_add_right _ _⟩)
    · exact (goesOn read value derived).toReads.narrow fun _ _ => trivial
    · exact (goesOn read value derived).completes
  completes := by
    obtain ⟨tokens, value, derived⟩ := known.completes
    obtain ⟨more, result, completed⟩ := (goesOn tokens value derived).completes
    exact ⟨tokens ++ more, result, completed⟩

/-- What a parser returns may be wrapped. -/
theorem Parses.map {first first' : Parser α} {wrap : α → β}
    (known : Parses limit limit' first first' language rule)
    (accepted : ∀ read value next, language read value next → following' read (wrap value) next)
    (completed : ∀ read value, rule read value → rule' read (wrap value)) :
    Parses limit limit' (first >>= fun value => Pure.pure (wrap value))
      (first' >>= fun value => Pure.pure (wrap value)) following' rule' where
  toReads := by
    refine known.toReads.andThen limit limit' (fun read value next derived => ?_)
      (fun read value derived => ⟨[], wrap value, ?_⟩)
      (fun _ _ _ _ => ⟨Nat.le_add_right _ _, Nat.le_add_right _ _⟩)
    · refine .pure fun next' same => ?_
      rw [Language.after, List.append_nil, same]
      exact accepted read value next derived
    · rw [List.append_nil]
      exact completed read value derived
  completes := by
    obtain ⟨tokens, value, derived⟩ := known.completes
    exact ⟨tokens, wrap value, completed tokens value derived⟩

/-- A choice on the token at the cursor. -/
theorem Reads.current {second second' : Token → Parser α}
    (goesOn : ∀ tok, start tok.kind →
      Reads (· = tok.kind) limit limit' (second tok) (second' tok) language rule) :
    Reads start limit limit' (current >>= second) (current >>= second') language rule where
  accepts {cursor value behind} ready starts run := by
    obtain ⟨read, past, derived, again⟩ := (goesOn cursor.current starts).accepts ready rfl run
    refine ⟨read, past, derived, fun {tok tail} ahead tail' stop' short => ?_⟩
    obtain ⟨next, others, others', front, front'⟩ := exists_next read tok tail tail'
    have here : cursor.current = next := Cursor.current_eq_of_rest (by rw [past.rest, ahead, front])
    have twinRun := again ahead tail' stop' short
    rw [front', here] at twinRun
    rw [front']
    exact twinRun
  refuses {cursor fault index notices} ready starts run := by
    obtain ⟨read, rest, ahead, place, blamed, viable, again⟩ :=
      (goesOn cursor.current starts).refuses ready rfl run
    refine ⟨read, rest, ahead, place, blamed, viable, fun {tok tail} goesOn tail' stop' short => ?_⟩
    obtain ⟨next, others, others', front, front'⟩ := exists_next read tok tail tail'
    have here : cursor.current = next := Cursor.current_eq_of_rest (by rw [ahead, goesOn, front])
    have twinRun := again goesOn tail' stop' short
    rw [front', here] at twinRun
    rw [front']
    exact twinRun

/-- Shifting a token that is there moves the cursor behind it. -/
theorem shift_of_rest {cursor : Cursor} {tok : Token} {rest : List Token}
    (ahead : cursor.rest = tok :: rest) :
    shift cursor = .ok tok (cursor.advanced tok rest) := by
  simp [shift, Cursor.advanced, ahead]

/-- A token is consumed before anything else, which makes room for the bounds of what follows. What
follows may blame the consumed token: then nothing counts as read. -/
theorem Reads.shiftOr {second second' : Token → Parser α} (real : ¬ start .endOfInput)
    (goesOn : ∀ tok, start tok.kind →
      (∃ cause, second tok = failLast cause ∧ second' tok = failLast cause ∧
        ∃ tokens value, rule tokens value) ∨
      Reads (fun _ => True) limit limit' (second tok) (second' tok) (language.after [tok])
        (rule.after [tok])) :
    Reads start (limit + 1) (limit' + 1) (shift >>= second) (shift >>= second') language rule where
  accepts {cursor value behind} ready starts run := by
    obtain ⟨rest, ahead⟩ := ready.exists_rest fun atEnd => real (atEnd ▸ starts)
    rw [bind_of_ok (shift_of_rest ahead)] at run
    have past : cursor.Past [cursor.current] (cursor.advanced cursor.current rest) :=
      ⟨ahead, rfl, rfl⟩
    rcases goesOn cursor.current starts with ⟨cause, blames, -⟩ | known
    · rw [blames] at run
      exact nomatch run
    · obtain ⟨read, pastRead, derived, again⟩ :=
        known.accepts (ready.past past (Nat.le_refl _)) trivial run
      refine ⟨cursor.current :: read, past.trans pastRead, derived,
        fun {tok tail} front tail' stop' short => ?_⟩
      exact again front tail' stop' (by simpa using short)
  refuses {cursor fault index notices} ready starts run := by
    obtain ⟨rest, ahead⟩ := ready.exists_rest fun atEnd => real (atEnd ▸ starts)
    rw [bind_of_ok (shift_of_rest ahead)] at run
    have past : cursor.Past [cursor.current] (cursor.advanced cursor.current rest) :=
      ⟨ahead, rfl, rfl⟩
    rcases goesOn cursor.current starts with ⟨cause, blames, blames', completes⟩ | known
    · rw [blames] at run
      obtain ⟨rfl, rfl, rfl⟩ := Reply.failed.inj run
      refine ⟨[], cursor.rest, rfl, rfl, rfl, completes, fun {tok tail} front tail' stop' _ => ?_⟩
      have here : cursor.current = tok := Cursor.current_eq_of_rest front
      rw [here] at blames' ⊢
      rw [List.nil_append, bind_of_ok (shift_of_rest (Cursor.onto_rest)), blames']
      rfl
    · obtain ⟨read, left, aheadRead, place, blamed, viable, again⟩ :=
        known.refuses (ready.past past (Nat.le_refl _)) trivial run
      refine ⟨cursor.current :: read, left, ?_, ?_, blamed, viable,
        fun {tok tail} front tail' stop' short => ?_⟩
      · rw [ahead, List.cons_append, ← aheadRead, Cursor.advanced_rest]
      · rw [place, List.length_cons, Cursor.advanced_index]
        omega
      · exact again front tail' stop' (by simpa using short)

/-- A token is consumed and never blamed. -/
theorem Reads.shift {second second' : Token → Parser α} (real : ¬ start .endOfInput)
    (goesOn : ∀ tok, start tok.kind →
      Reads (fun _ => True) limit limit' (second tok) (second' tok) (language.after [tok])
        (rule.after [tok])) :
    Reads start (limit + 1) (limit' + 1) (shift >>= second) (shift >>= second') language rule :=
  .shiftOr real fun tok starts => .inr (goesOn tok starts)

/-- No slot is filled by the end of the tokens. -/
theorem kind_ne_endOfInput (slot : Slot) : slot.kind ≠ .endOfInput := by
  cases slot <;> simp [Slot.kind]

/-- In front of a token that fills a slot, expecting the slot is shifting the token. -/
theorem Agree.expect (slot : Slot) (second : Token → Parser α) :
    Agree (· = slot.kind) (expect slot >>= second) (Parser.shift >>= second) := by
  intro cursor tok rest ahead fills
  have here : cursor.current = tok := Cursor.current_eq_of_rest ahead
  have run : Parser.current cursor = .ok tok cursor := here ▸ rfl
  rw [expect_bind, bind_of_ok run, if_pos fills]

/-- A choice on the token after the current one may be put off until the current one is consumed,
if both alternatives begin by consuming it. -/
theorem Agree.following {kind : Kind} {taken left : Parser α} {second third : Token → Parser α}
    (same : Agree start taken (Parser.shift >>= second))
    (same' : Agree start left (Parser.shift >>= third)) :
    Agree start (Parser.following >>= fun next => if next.kind = kind then taken else left)
      (Parser.shift >>= fun tok => Parser.current >>= fun next =>
        if next.kind = kind then second tok else third tok) := by
  intro cursor tok rest ahead starts
  have ready : Parser.following cursor = .ok (rest.headD cursor.stop) cursor := by
    simp [Parser.following, Cursor.following, ahead]
  rw [bind_of_ok ready, bind_of_ok (shift_of_rest ahead)]
  change _ = (if (rest.headD cursor.stop).kind = kind then second tok else third tok) _
  by_cases chosen : (rest.headD cursor.stop).kind = kind
  · rw [if_pos chosen, if_pos chosen, same cursor tok rest ahead starts,
      bind_of_ok (shift_of_rest ahead)]
  · rw [if_neg chosen, if_neg chosen, same' cursor tok rest ahead starts,
      bind_of_ok (shift_of_rest ahead)]

/-- A slot that the current token fills. -/
theorem Reads.expect (slot : Slot) {second second' : Token → Parser α}
    (goesOn : ∀ tok, tok.kind = slot.kind →
      Reads (fun _ => True) limit limit' (second tok) (second' tok) (language.after [tok])
        (rule.after [tok])) :
    Reads (· = slot.kind) (limit + 1) (limit' + 1) (expect slot >>= second)
      (expect slot >>= second') language rule :=
  (Reads.shift (kind_ne_endOfInput slot).symm goesOn).congr (kind_ne_endOfInput slot).symm
    (.expect slot second) (.expect slot second')

/-- A slot to be filled by a token that may be blamed afterwards. -/
theorem Parses.expectOr {slot : Slot} {second second' : Token → Parser α}
    (goesOn : ∀ tok, tok.kind = slot.kind →
      (∃ cause, second tok = failLast cause ∧ second' tok = failLast cause) ∨
      Reads (fun _ => True) limit limit' (second tok) (second' tok) (language.after [tok])
        (rule.after [tok])) (completes : ∃ tokens value, rule tokens value) :
    Parses limit limit' (expect slot >>= second) (expect slot >>= second') language rule where
  toReads := by
    rw [expect_bind, expect_bind]
    refine Reads.current fun tok _ => ?_
    by_cases fills : tok.kind = slot.kind
    · rw [if_pos fills, if_pos fills, fills]
      refine (Reads.shiftOr (kind_ne_endOfInput slot).symm fun tok fills => ?_).lower
        (Nat.le_succ limit) (Nat.le_succ limit')
      exact (goesOn tok fills).imp_left fun ⟨cause, blames, blames'⟩ =>
        ⟨cause, blames, blames', completes⟩
    · rw [if_neg fills, if_neg fills]
      exact Reads.fail completes
  completes := completes

/-- A slot to be filled. -/
theorem Parses.expect {slot : Slot} {second second' : Token → Parser α}
    (goesOn : ∀ tok, tok.kind = slot.kind →
      Parses limit limit' (second tok) (second' tok) (language.after [tok]) (rule.after [tok])) :
    Parses limit limit' (expect slot >>= second) (expect slot >>= second') language rule :=
  .expectOr (fun tok fills => .inr (goesOn tok fills).toReads) (by
    obtain ⟨tokens, value, derived⟩ := (goesOn { kind := slot.kind } rfl).completes
    exact ⟨_, value, derived⟩)

/-- A token that may be left out. If it is there, it makes room for the bounds of what follows. -/
theorem Reads.accept (room room' : Nat) {kind : Kind} {second second' : Bool → Parser α}
    (real : kind ≠ .endOfInput) (fits : limit ≤ room + 1) (fits' : limit' ≤ room' + 1)
    (taken : start kind → ∀ tok, tok.kind = kind →
      Reads (fun _ => True) room room' (second true) (second' true) (language.after [tok])
        (rule.after [tok]))
    (left : Reads (fun next => start next ∧ next ≠ kind) limit limit' (second false) (second' false)
      language rule) :
    Reads start limit limit' (accept kind >>= second) (accept kind >>= second') language rule := by
  rw [accept_bind, accept_bind]
  refine Reads.current fun tok starts => ?_
  by_cases same : tok.kind = kind
  · rw [if_pos same, if_pos same, same]
    exact (Reads.shift real.symm (taken (same ▸ starts))).lower fits fits'
  · rw [if_neg same, if_neg same]
    exact left.narrow fun next other => ⟨other ▸ starts, other ▸ same⟩

/-- A token is accepted if it is there, and both ways may go on. -/
theorem Parses.accept {kind : Kind} {second second' : Bool → Parser α} (real : kind ≠ .endOfInput)
    (taken : ∀ tok, tok.kind = kind →
      Parses limit limit' (second true) (second' true) (language.after [tok]) (rule.after [tok]))
    (left : Parses limit limit' (second false) (second' false) language rule) :
    Parses limit limit' (accept kind >>= second) (accept kind >>= second') language rule where
  toReads := .accept limit limit' real (Nat.le_succ _) (Nat.le_succ _)
    (fun _ tok same => (taken tok same).toReads) (left.toReads.narrow fun _ _ => trivial)
  completes := left.completes

/-- A list that is left out if the token that closes it stands in its place. -/
theorem Parses.optional {closing : Kind} {list list' : Parser (List α)} {items : Rule (List α)}
    {second second' : List α → Parser β} (known : Parses limit limit' list list' items.free items)
    (goesOn : ∀ read values, Optional items read values →
      Parses limit limit' (second values) (second' values) (following'.after read)
        (rule'.after read)) :
    Parses limit limit'
      (check closing >>= fun closed =>
        if closed = true then Pure.pure [] >>= second else list >>= second)
      (check closing >>= fun closed =>
        if closed = true then Pure.pure [] >>= second' else list' >>= second')
      following' rule' where
  toReads := by
    rw [check_bind, check_bind]
    refine Reads.current fun tok _ => ?_
    by_cases closed : tok.kind = closing
    · simp only [closed, decide_true, ↓reduceIte, pure_bind]
      exact (goesOn [] [] .absent).toReads.narrow fun _ _ => trivial
    · simp only [closed, decide_false, Bool.false_eq_true, ↓reduceIte]
      exact (known.andThen fun read values listed => goesOn read values (.present listed)).toReads.narrow
        fun _ _ => trivial
  completes := (goesOn [] [] .absent).completes

/-- A remark reads nothing. -/
theorem Reads.note {tok : Token} {remark : Remark} {second second' : Unit → Parser α}
    (known : Reads start limit limit' (second ()) (second' ()) language rule) :
    Reads start limit limit' (note tok remark >>= second) (note tok remark >>= second') language
      rule where
  accepts {cursor value behind} ready starts run := by
    have noted : Cursor.Ready limit (cursor.noted tok remark) :=
      ⟨ready.stops, ready.bounded⟩
    obtain ⟨read, past, derived, again⟩ := known.accepts noted starts run
    exact ⟨read, ⟨past.rest, past.stop, past.index⟩, derived, again⟩
  refuses {cursor fault index notices} ready starts run := by
    have noted : Cursor.Ready limit (cursor.noted tok remark) :=
      ⟨ready.stops, ready.bounded⟩
    exact known.refuses noted starts run

/-- Looking at the token consumed last reads nothing. -/
theorem Reads.last {second second' : Token → Parser α}
    (known : ∀ tok, Reads start limit limit' (second tok) (second' tok) language rule) :
    Reads start limit limit' (last >>= second) (last >>= second') language rule where
  accepts {cursor _ _} ready starts run := (known cursor.last).accepts ready starts run
  refuses {cursor _ _ _} ready starts run := (known cursor.last).refuses ready starts run

end Steps

/-- Induction on the bounds of a parser and of its twin. No run is bounded by nothing, and a twin
with no room is as good as one with room for no token. -/
theorem bound_induction {motive : Nat → Nat → Prop} (zero : ∀ bound', motive 0 bound')
    (drop : ∀ bound, motive bound 1 → motive bound 0)
    (step : ∀ bound bound', motive bound bound' → motive (bound + 1) (bound' + 1)) :
    ∀ bound bound', motive bound bound'
  | 0, bound' => zero bound'
  | bound + 1, 0 => drop _ (step bound 0 (bound_induction zero drop step bound 0))
  | bound + 1, bound' + 1 => step bound bound' (bound_induction zero drop step bound bound')

/-- A parser that takes its bound from the number of tokens ahead is known with all the room for
which its bounded forms are known. -/
theorem Reads.ofBounded {start : Kind → Prop} {limit limit' : Nat} {language : Language α}
    {rule : Rule α} {bounded bounded' : Nat → Parser α}
    (known : ∀ bound bound', bound ≤ limit → bound' ≤ limit' →
      Reads start bound bound' (bounded bound) (bounded' bound') language rule) :
    Reads start limit limit' (fun cursor => bounded (cursor.rest.length + 1) cursor)
      (fun cursor => bounded' (cursor.rest.length + 1) cursor) language rule where
  accepts {cursor value behind} ready starts run := by
    have here : cursor.Ready (cursor.rest.length + 1) :=
      ⟨ready.stops, Nat.lt_succ_self _⟩
    obtain ⟨read, past, derived, -⟩ :=
      (known _ 0 ready.bounded (Nat.zero_le _)).accepts here starts run
    refine ⟨read, past, derived, fun {tok tail} ahead tail' stop' short => ?_⟩
    -- The bound of the twin is known only now; what is read does not depend on it.
    obtain ⟨read', past', -, again⟩ := (known _ _ ready.bounded short).accepts here starts run
    have same : read' = read := List.append_cancel_right (past'.rest.symm.trans past.rest)
    subst same
    exact again ahead tail' stop' (Nat.lt_succ_self _)
  refuses {cursor fault index notices} ready starts run := by
    have here : cursor.Ready (cursor.rest.length + 1) :=
      ⟨ready.stops, Nat.lt_succ_self _⟩
    obtain ⟨read, rest, ahead, place, blamed, viable, -⟩ :=
      (known _ 0 ready.bounded (Nat.zero_le _)).refuses here starts run
    refine ⟨read, rest, ahead, place, blamed, viable, fun {tok tail} goesOn tail' stop' short => ?_⟩
    obtain ⟨read', rest', ahead', place', -, -, again⟩ :=
      (known _ _ ready.bounded short).refuses here starts run
    obtain ⟨rfl, rfl⟩ := List.append_inj (ahead'.symm.trans ahead) (by omega)
    exact again goesOn tail' stop' (Nat.lt_succ_self _)

section Lists

variable {limit limit' : Nat} {item item' : Parser α} {rule : Rule α}

/-- Bounded lists of items with a mark between them. After each item but the last a mark is read,
so that the bound on the rest of the list falls with the number of tokens ahead. -/
theorem Reads.separatedUpTo {mark : Kind} (real : mark ≠ .endOfInput) (bound bound' : Nat) :
    ∀ {limit'} {item' : Parser α}, Parses limit limit' item item' rule.free rule →
      bound ≤ limit → bound' ≤ limit' →
      Reads (fun _ => True) bound bound' (separatedUpTo mark item bound)
        (separatedUpTo mark item' bound') (Separated mark rule).free (Separated mark rule) := by
  induction bound, bound' using bound_induction with
  | zero bound' =>
    intros
    exact .vacuous
  | drop bound ih =>
    intro limit' item' known below _
    have known' : Parses limit 1 item item' rule.free rule := known.anyTwin
    exact (ih known' below (Nat.le_refl 1)).anyTwin.lower (Nat.le_refl _) (Nat.zero_le _)
  | step bound bound' ih =>
    intro limit' item' known below below'
    have rest : Parses bound bound' (Parser.separatedUpTo mark item bound)
        (Parser.separatedUpTo mark item' bound') (Separated mark rule).free (Separated mark rule) := by
      refine ⟨ih known (by omega) (by omega), ?_⟩
      obtain ⟨tokens, value, derived⟩ := known.completes
      exact ⟨tokens, [value], .one derived⟩
    refine (known.lower below below').toReads.andThen (bound + 1) (bound' + 1)
      (fun first value next derived => ?_) (fun first value derived => ⟨[], [value], ?_⟩)
      (fun _ _ _ _ => ⟨Nat.le_add_right _ _, Nat.le_add_right _ _⟩)
    · refine .accept bound bound' real (Nat.le_refl _) (Nat.le_refl _) (fun _ tok marked => ?_) ?_
      · refine (rest.andThen fun others values listed => ?_).toReads
        have whole : Separated mark rule (first ++ tok :: others) (value :: values) :=
          .more derived marked listed
        exact .pure (fun _ => by simpa [Rule.free, Language.after] using whole)
          (by simpa [Rule.after] using whole)
      · have whole : Separated mark rule first [value] := .one derived
        exact .pure fun _ _ => by simpa [Rule.free, Language.after] using whole
    · rw [List.append_nil]
      exact .one derived

/-- One or more items with a mark between them. -/
theorem Parses.separated {mark : Kind} (real : mark ≠ .endOfInput)
    (known : Parses limit limit' item item' rule.free rule) :
    Parses limit limit' (separated mark item) (separated mark item') (Separated mark rule).free
      (Separated mark rule) where
  toReads := .ofBounded fun bound bound' below below' =>
    Reads.separatedUpTo real bound bound' known below below'
  completes := by
    obtain ⟨tokens, value, derived⟩ := known.completes
    exact ⟨tokens, [value], .one derived⟩

/-- Bounded lists of items that stand one behind the other. Every item reads a token. -/
theorem Reads.manyUpTo {more : Kind → Bool} (nonempty : ∀ tokens value, rule tokens value → tokens ≠ [])
    (bound bound' : Nat) :
    ∀ {limit'} {item' : Parser α},
      Reads (fun kind => more kind = true) limit limit' item item' rule.free rule →
      bound ≤ limit → bound' ≤ limit' →
      Reads (fun _ => True) bound bound' (manyUpTo more item bound) (manyUpTo more item' bound')
        (Repeated rule).free (Repeated rule) := by
  induction bound, bound' using bound_induction with
  | zero bound' =>
    intros
    exact .vacuous
  | drop bound ih =>
    intro limit' item' known below _
    have known' : Reads (fun kind => more kind = true) limit 1 item item' rule.free rule :=
      known.anyTwin
    exact (ih known' below (Nat.le_refl 1)).anyTwin.lower (Nat.le_refl _) (Nat.zero_le _)
  | step bound bound' ih =>
    intro limit' item' known below below'
    have rest := ih known (by omega) (by omega)
    refine .current fun tok _ => ?_
    cases admitted : more tok.kind with
    | false =>
      simp only [Bool.false_eq_true, ↓reduceIte]
      exact .pure fun _ _ => .none
    | true =>
      have starts : Reads (· = tok.kind) (bound + 1) (bound' + 1) item item' rule.free rule :=
        (known.lower below below').narrow fun kind same => by rw [same, admitted]
      simp only [↓reduceIte]
      refine starts.andThen bound bound' (fun first value next derived => ?_)
        (fun first value derived => ⟨[], [value], .more derived .none⟩)
        (fun first value next derived => ?_)
      · have whole : Parses bound bound' (Parser.manyUpTo more item bound)
            (Parser.manyUpTo more item' bound') (Repeated rule).free (Repeated rule) :=
          ⟨rest, [], [], .none⟩
        refine (whole.andThen fun others values listed => ?_).toReads.narrow fun _ _ => trivial
        have list : Repeated rule (first ++ others) (value :: values) := .more derived listed
        exact .pure (fun _ => by simpa [Rule.free, Language.after] using list)
          (by simpa [Rule.after] using list)
      · have positive := List.length_pos_iff.mpr (nonempty first value derived)
        omega

/-- Any number of items that each read a token. -/
theorem Parses.many {more : Kind → Bool} (nonempty : ∀ tokens value, rule tokens value → tokens ≠ [])
    (known : Reads (fun kind => more kind = true) limit limit' item item' rule.free rule) :
    Parses limit limit' (many more item) (many more item') (Repeated rule).free
      (Repeated rule) where
  toReads := .ofBounded fun bound bound' below below' =>
    Reads.manyUpTo nonempty bound bound' known below below'
  completes := ⟨[], [], .none⟩

end Lists

end WinZig.Parser
