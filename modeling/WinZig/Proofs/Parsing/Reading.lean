import WinZig.Proofs.Parsing.Grammar

/-!
# What is known of a parser

`Reads` says four things of a parser at once, because each of them is needed to carry the others
through a sequence of parsers:

* what it reads is a prefix of the tokens ahead, and stands for the value it returns;
* where it fails, it blames the first token it has not read, and what it has read can be completed;
* the tokens behind the next one do not matter to an accepting run;
* the tokens behind the blamed one do not matter to a failing run.

The last two compare runs on different tokens ahead. Parsers bound their recursion by the number of
tokens ahead, so the second run may belong to a twin of the parser under another bound.

What is read is related to the value by a language, which may depend on the kind of the token that
follows. What can be completed is related by a rule, which may not: a completion is free to choose
what follows it.
-/

namespace WinZig

open Grammar

/-- What a sequence of tokens stands for when a token of the given kind follows it. -/
abbrev Language (α : Type) := List Token → α → Kind → Prop

namespace Grammar.Rule

variable {α : Type}

/-- What may follow `read` so that the whole satisfies a rule. -/
def after (rule : Rule α) (read : List Token) : Rule α :=
  fun tokens value => rule (read ++ tokens) value

/-- A rule as a language in which the following token does not matter. -/
def free (rule : Rule α) : Language α := fun tokens value _ => rule tokens value

end Grammar.Rule

/-- What may follow `read` so that the whole belongs to a language. -/
def Language.after {α : Type} (language : Language α) (read : List Token) : Language α :=
  fun tokens value next => language (read ++ tokens) value next

namespace Cursor

/-- The same cursor in front of other tokens. -/
def onto (cursor : Cursor) (rest : List Token) (stop : Token) : Cursor :=
  { cursor with rest, stop }

/-- The cursor behind a remark. -/
def noted (cursor : Cursor) (tok : Token) (remark : Remark) : Cursor :=
  { cursor with notices := cursor.notices ++ Notice.raised cursor.shown tok remark }

/-- The cursor behind the next token. -/
def advanced (cursor : Cursor) (tok : Token) (rest : List Token) : Cursor :=
  { cursor with rest, last := tok, index := cursor.index + 1 }

/-- The cursor gets to `behind` by reading `read`. -/
structure Past (cursor : Cursor) (read : List Token) (behind : Cursor) : Prop where
  rest : cursor.rest = read ++ behind.rest
  stop : behind.stop = cursor.stop
  index : behind.index = cursor.index + read.length

/-- The tokens ahead can be read: there are fewer of them than `limit`, and the stop stands for the
end. -/
structure Ready (limit : Nat) (cursor : Cursor) : Prop where
  stops : cursor.stop.kind = .endOfInput
  bounded : cursor.rest.length < limit

variable {cursor middle behind : Cursor} {read more rest : List Token} {tok stop : Token}
  {limit : Nat}

/-- A cursor set onto tokens has them ahead. -/
@[simp] theorem onto_rest : (cursor.onto rest stop).rest = rest := rfl

/-- A cursor set onto tokens stands at the first of them. -/
@[simp] theorem onto_current : (cursor.onto (tok :: rest) stop).current = tok := rfl

/-- An advanced cursor has the rest ahead. -/
@[simp] theorem advanced_rest : (cursor.advanced tok rest).rest = rest := rfl

/-- An advanced cursor is one token further. -/
@[simp] theorem advanced_index : (cursor.advanced tok rest).index = cursor.index + 1 := rfl

/-- A cursor stands at the first token ahead. -/
theorem current_eq_of_rest (ahead : cursor.rest = tok :: rest) : cursor.current = tok := by
  simp [current, ahead]

/-- A cursor is past nothing from itself. -/
theorem Past.refl (cursor : Cursor) : cursor.Past [] cursor := ⟨rfl, rfl, rfl⟩

/-- Tokens passed one after another are passed together. -/
theorem Past.trans (first : cursor.Past read middle) (second : middle.Past more behind) :
    cursor.Past (read ++ more) behind where
  rest := by rw [first.rest, second.rest, List.append_assoc]
  stop := second.stop.trans first.stop
  index := by rw [second.index, first.index, List.length_append, Nat.add_assoc]

/-- Reading leaves a cursor ready, with as much less room as was read. -/
theorem Ready.past {room : Nat} (ready : cursor.Ready limit) (past : cursor.Past read behind)
    (fits : limit ≤ room + read.length) : behind.Ready room where
  stops := past.stop ▸ ready.stops
  bounded := by
    have bounded := ready.bounded
    rw [past.rest, List.length_append] at bounded
    omega

/-- A token other than the end is one of the tokens ahead. -/
theorem exists_rest_of_stops (stops : cursor.stop.kind = .endOfInput)
    (real : cursor.current.kind ≠ .endOfInput) : ∃ rest, cursor.rest = cursor.current :: rest := by
  cases ahead : cursor.rest with
  | nil =>
    have atEnd : cursor.current = cursor.stop := by simp [current, ahead]
    exact absurd (atEnd ▸ stops) real
  | cons tok rest => exact ⟨rest, by rw [current_eq_of_rest ahead]⟩

/-- A ready cursor that is not at the end has its token ahead. -/
theorem Ready.exists_rest (ready : cursor.Ready limit) (real : cursor.current.kind ≠ .endOfInput) :
    ∃ rest, cursor.rest = cursor.current :: rest := exists_rest_of_stops ready.stops real

end Cursor

namespace Parser

variable {α β : Type}

section Sequencing

variable {first : Parser α} {second : α → Parser β} {cursor : Cursor}

/-- Behind a success of its first parser, a sequence is its second. -/
theorem bind_of_ok {value : α} {behind : Cursor} (run : first cursor = .ok value behind) :
    (first >>= second) cursor = second value behind := by
  simp only [bind, andThen, run]

/-- A sequence fails where its first parser fails. -/
theorem bind_of_failed {fault : Fault} {index : Nat} {notices : List Notice}
    (run : first cursor = .failed fault index notices) :
    (first >>= second) cursor = .failed fault index notices := by
  simp only [bind, andThen, run]

/-- A sequence crashes where its first parser crashes. -/
theorem bind_of_crashed {literal : Token} {notices : List Notice}
    (run : first cursor = .crashed literal notices) :
    (first >>= second) cursor = .crashed literal notices := by
  simp only [bind, andThen, run]

/-- A sequence succeeds through a success of its first parser. -/
theorem ok_of_bind {value : β} {behind : Cursor} (run : (first >>= second) cursor = .ok value behind) :
    ∃ inner middle, first cursor = .ok inner middle ∧ second inner middle = .ok value behind := by
  cases outcome : first cursor with
  | ok inner middle => exact ⟨inner, middle, rfl, by rwa [bind_of_ok outcome] at run⟩
  | failed => simp [bind_of_failed outcome] at run
  | crashed => simp [bind_of_crashed outcome] at run

/-- A sequence fails in its first parser or behind it. -/
theorem failed_of_bind {fault : Fault} {index : Nat} {notices : List Notice}
    (run : (first >>= second) cursor = .failed fault index notices) :
    first cursor = .failed fault index notices ∨
      ∃ inner middle, first cursor = .ok inner middle ∧
        second inner middle = .failed fault index notices := by
  cases outcome : first cursor with
  | ok inner middle => exact .inr ⟨inner, middle, rfl, by rwa [bind_of_ok outcome] at run⟩
  | failed => exact .inl (by simpa [bind_of_failed outcome] using run)
  | crashed => simp [bind_of_crashed outcome] at run

end Sequencing

instance : LawfulMonad Parser := LawfulMonad.mk' Parser
  (fun first => by
    funext cursor
    simp only [Functor.map, andThen]
    cases first cursor <;> rfl)
  (fun _ _ => rfl)
  (fun first _ _ => by
    funext cursor
    simp only [bind, andThen]
    cases first cursor <;> rfl)

/-- Nothing happens behind a failure. -/
theorem fail_bind (cause : Cause) (second : α → Parser β) : fail cause >>= second = fail cause := rfl

/-- Nothing happens behind a failure at the last token. -/
theorem failLast_bind (cause : Cause) (second : α → Parser β) :
    failLast cause >>= second = failLast cause := rfl

/-- Looking for a kind is looking at the kind of the current token. -/
theorem check_bind (kind : Kind) (second : Bool → Parser β) :
    check kind >>= second = current >>= fun tok => second (decide (tok.kind = kind)) := rfl

/-- Accepting a kind is a choice on the current token. -/
theorem accept_bind (kind : Kind) (second : Bool → Parser β) :
    accept kind >>= second = current >>= fun tok =>
      if tok.kind = kind then shift >>= fun _ => second true else second false := by
  simp only [accept, bind_assoc, check_bind]
  congr 1
  funext tok
  by_cases same : tok.kind = kind <;> simp [same]

/-- Expecting a slot to be filled is a choice on the current token. -/
theorem expect_bind (slot : Slot) (second : Token → Parser β) :
    expect slot >>= second = current >>= fun tok =>
      if tok.kind = slot.kind then shift >>= second else fail (.unfilled slot) := by
  simp only [expect, bind_assoc]
  congr 1
  funext tok
  by_cases same : tok.kind = slot.kind <;> simp [same, fail_bind]

/-- What is known of a parser at cursors whose token is of a kind in `start`. -/
structure Reads (start : Kind → Prop) (limit limit' : Nat) (parser twin : Parser α)
    (language : Language α) (rule : Rule α) : Prop where
  accepts : ∀ {cursor value behind}, cursor.Ready limit → start cursor.current.kind →
    parser cursor = .ok value behind →
    ∃ read, cursor.Past read behind ∧ language read value behind.current.kind ∧
      ∀ {tok tail}, behind.rest = tok :: tail → ∀ tail' stop',
        (read ++ tok :: tail').length < limit' →
        twin (cursor.onto (read ++ tok :: tail') stop') =
          .ok value (behind.onto (tok :: tail') stop')
  refuses : ∀ {cursor fault index notices}, cursor.Ready limit → start cursor.current.kind →
    parser cursor = .failed fault index notices →
    ∃ read rest, cursor.rest = read ++ rest ∧ index = cursor.index + read.length ∧
      fault.token = rest.headD cursor.stop ∧ (∃ more value, rule (read ++ more) value) ∧
      ∀ {tok tail}, rest = tok :: tail → ∀ tail' stop',
        (read ++ tok :: tail').length < limit' →
        twin (cursor.onto (read ++ tok :: tail') stop') = .failed fault index notices

/-- Two parsers do the same in front of a token of a kind in `start`. -/
def Agree (start : Kind → Prop) (parser other : Parser α) : Prop :=
  ∀ (cursor : Cursor) (tok : Token) (rest : List Token), cursor.rest = tok :: rest →
    start tok.kind → parser cursor = other cursor

/-- What is known of a parser at any cursor, with one sequence of tokens it could read. -/
structure Parses (limit limit' : Nat) (parser twin : Parser α) (language : Language α)
    (rule : Rule α) : Prop extends Reads (fun _ => True) limit limit' parser twin language rule where
  completes : ∃ tokens value, rule tokens value

/-- Two lists that go on with the same token start with the same token. -/
theorem exists_next (more : List Token) (tok : Token) (tail tail' : List Token) :
    ∃ next others others', more ++ tok :: tail = next :: others ∧
      more ++ tok :: tail' = next :: others' := by
  cases more with
  | nil => exact ⟨tok, tail, tail', rfl, rfl⟩
  | cons next more => exact ⟨next, more ++ tok :: tail, more ++ tok :: tail', rfl, rfl⟩

section Rules

variable {start : Kind → Prop} {limit limit' : Nat} {parser twin : Parser α}
  {language : Language α} {rule : Rule α}

/-- What is known everywhere is known anywhere. -/
theorem Reads.narrow {start' : Kind → Prop}
    (known : Reads start limit limit' parser twin language rule)
    (within : ∀ kind, start' kind → start kind) :
    Reads start' limit limit' parser twin language rule where
  accepts ready starts := known.accepts ready (within _ starts)
  refuses ready starts := known.refuses ready (within _ starts)

/-- A parser stays known for a wider language and rule. -/
theorem Reads.widen {language' : Language α} {rule' : Rule α}
    (known : Reads start limit limit' parser twin language rule)
    (accepted : ∀ tokens value next, language tokens value next → language' tokens value next)
    (completed : ∀ tokens value, rule tokens value → rule' tokens value) :
    Reads start limit limit' parser twin language' rule' where
  accepts ready starts run := by
    obtain ⟨read, past, derived, again⟩ := known.accepts ready starts run
    exact ⟨read, past, accepted _ _ _ derived, again⟩
  refuses ready starts run := by
    obtain ⟨read, rest, ahead, place, blamed, ⟨more, value, derived⟩, again⟩ :=
      known.refuses ready starts run
    exact ⟨read, rest, ahead, place, blamed, ⟨more, value, completed _ _ derived⟩, again⟩

/-- Parsers that agree in front of tokens of the kinds in `start` are known alike. -/
theorem Reads.congr {parser' twin' : Parser α} (real : ¬ start .endOfInput)
    (known : Reads start limit limit' parser twin language rule)
    (same : Agree start parser' parser) (same' : Agree start twin' twin) :
    Reads start limit limit' parser' twin' language rule where
  accepts {cursor value behind} ready starts run := by
    obtain ⟨rest, here⟩ := ready.exists_rest fun atEnd => real (atEnd ▸ starts)
    rw [same _ _ _ here starts] at run
    obtain ⟨read, past, derived, again⟩ := known.accepts ready starts run
    refine ⟨read, past, derived, fun {tok tail} ahead tail' stop' short => ?_⟩
    obtain ⟨next, others, others', front, front'⟩ := exists_next read tok tail tail'
    have first : cursor.current = next :=
      Cursor.current_eq_of_rest (by rw [past.rest, ahead, front])
    rw [same' _ next others' front' (first ▸ starts)]
    exact again ahead tail' stop' short
  refuses {cursor fault index notices} ready starts run := by
    obtain ⟨_, here⟩ := ready.exists_rest fun atEnd => real (atEnd ▸ starts)
    rw [same _ _ _ here starts] at run
    obtain ⟨read, rest, ahead, place, blamed, viable, again⟩ := known.refuses ready starts run
    refine ⟨read, rest, ahead, place, blamed, viable, fun {tok tail} goesOn tail' stop' short => ?_⟩
    obtain ⟨next, others, others', front, front'⟩ := exists_next read tok tail tail'
    have first : cursor.current = next :=
      Cursor.current_eq_of_rest (by rw [ahead, goesOn, front])
    rw [same' _ next others' front' (first ▸ starts)]
    exact again goesOn tail' stop' short

/-- A parser that is known with some room is known with less. -/
theorem Reads.lower {less less' : Nat}
    (known : Reads start limit limit' parser twin language rule) (fewer : less ≤ limit)
    (fewer' : less' ≤ limit') : Reads start less less' parser twin language rule where
  accepts ready starts run := by
    obtain ⟨read, past, derived, again⟩ :=
      known.accepts ⟨ready.stops, Nat.lt_of_lt_of_le ready.bounded fewer⟩ starts run
    exact ⟨read, past, derived,
      fun ahead tail' stop' short => again ahead tail' stop' (Nat.lt_of_lt_of_le short fewer')⟩
  refuses ready starts run := by
    obtain ⟨read, rest, ahead, place, blamed, viable, again⟩ :=
      known.refuses ⟨ready.stops, Nat.lt_of_lt_of_le ready.bounded fewer⟩ starts run
    exact ⟨read, rest, ahead, place, blamed, viable,
      fun front tail' stop' short => again front tail' stop' (Nat.lt_of_lt_of_le short fewer')⟩

/-- No cursor is ready with room for nothing. -/
theorem Reads.vacuous : Reads start 0 limit' parser twin language rule where
  accepts ready _ _ := absurd ready.bounded (Nat.not_lt_zero _)
  refuses ready _ _ := absurd ready.bounded (Nat.not_lt_zero _)

/-- A run that matters to a twin has at least one token, so with room for less any twin will do. -/
theorem Reads.anyTwin {twin' : Parser α}
    (known : Reads start limit limit' parser twin language rule) :
    Reads start limit 1 parser twin' language rule where
  accepts ready starts run := by
    obtain ⟨read, past, derived, -⟩ := known.accepts ready starts run
    exact ⟨read, past, derived, fun _ _ _ short => by simp at short⟩
  refuses ready starts run := by
    obtain ⟨read, rest, ahead, place, blamed, viable, -⟩ := known.refuses ready starts run
    exact ⟨read, rest, ahead, place, blamed, viable, fun _ _ _ short => by simp at short⟩

/-- What is parsed up to a limit is parsed up to a lower one. -/
theorem Parses.lower {less less' : Nat}
    (known : Parses limit limit' parser twin language rule) (fewer : less ≤ limit)
    (fewer' : less' ≤ limit') : Parses less less' parser twin language rule :=
  ⟨known.toReads.lower fewer fewer', known.completes⟩

/-- With a limit of one there are no inputs on which the other parser is asked anything. -/
theorem Parses.anyTwin {twin' : Parser α}
    (known : Parses limit limit' parser twin language rule) :
    Parses limit 1 parser twin' language rule :=
  ⟨known.toReads.anyTwin, known.completes⟩

/-- A parser for a language is one for every larger language. -/
theorem Parses.widen {language' : Language α} {rule' : Rule α}
    (known : Parses limit limit' parser twin language rule)
    (accepted : ∀ tokens value next, language tokens value next → language' tokens value next)
    (completed : ∀ tokens value, rule tokens value → rule' tokens value) :
    Parses limit limit' parser twin language' rule' where
  toReads := known.toReads.widen accepted completed
  completes := by
    obtain ⟨tokens, value, derived⟩ := known.completes
    exact ⟨tokens, value, completed _ _ derived⟩

end Rules

end Parser

end WinZig
