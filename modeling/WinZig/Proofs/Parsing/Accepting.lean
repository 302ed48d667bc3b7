import WinZig.Proofs.Parsing.Derivations
import WinZig.Proofs.Parsing.Steps

/-!
# What parsers accept

The converse of reading: a parser in front of tokens that a rule derives reads exactly those tokens
and returns the value they stand for. No rule closes itself, so this holds only in front of a token
that cannot continue what was read. `Accepts` names the kinds of such tokens.

The steps of parsers are followed here once more, from the derivation to the run.
-/

namespace WinZig

open Grammar

/-- The kind of the first token, if a token of the given kind follows. -/
def leading (tokens : List Token) (next : Kind) : Kind := (tokens.head?.map Token.kind).getD next

/-- Nothing is led by what comes next. -/
@[simp] theorem leading_nil (next : Kind) : leading [] next = next := rfl

/-- Tokens are led by the first of them. -/
@[simp] theorem leading_cons (tok : Token) (tokens : List Token) (next : Kind) :
    leading (tok :: tokens) next = tok.kind := rfl

/-- Tokens are led by those at the front, or by the others if there are none. -/
@[simp] theorem leading_append (tokens more : List Token) (next : Kind) :
    leading (tokens ++ more) next = leading tokens (leading more next) := by
  cases tokens <;> rfl

/-- The token at a cursor is the first of what is ahead of it. -/
theorem Cursor.current_kind {cursor : Cursor} {tokens rest : List Token}
    (ahead : cursor.rest = tokens ++ rest) :
    cursor.current.kind = leading tokens (rest.headD cursor.stop).kind := by
  cases tokens with
  | nil => simp [Cursor.current, ahead]
  | cons tok tokens => simp [Cursor.current, ahead]

namespace Parser

variable {α β : Type}

/-- In front of these tokens and a token of a kind in `follow`, with less than `limit` tokens ahead,
the parser reads the tokens and returns the value. -/
def Accepts (limit : Nat) (parser : Parser α) (follow : Kind → Prop) : Rule α := fun tokens value =>
  ∀ (cursor : Cursor) (rest : List Token), cursor.rest = tokens ++ rest →
    follow (rest.headD cursor.stop).kind → cursor.rest.length < limit →
    ∃ behind, parser cursor = .ok value behind ∧ behind.rest = rest ∧ behind.stop = cursor.stop

section Steps

variable {limit : Nat} {parser : Parser α} {follow follow' : Kind → Prop} {tokens more : List Token}
  {tok : Token} {value : α} {result : β}

/-- What is accepted in front of more kinds and with more room is accepted. -/
theorem Accepts.weaken {less : Nat} (known : Accepts limit parser follow tokens value)
    (fewer : less ≤ limit) (within : ∀ kind, follow' kind → follow kind) :
    Accepts less parser follow' tokens value :=
  fun cursor rest ahead follows short =>
    known cursor rest ahead (within _ follows) (Nat.lt_of_lt_of_le short fewer)

/-- What is accepted with more room is accepted. -/
theorem Accepts.lower (known : Accepts (limit + 1) parser follow tokens value) :
    Accepts limit parser follow tokens value :=
  known.weaken (Nat.le_succ limit) fun _ => id

/-- A run with no room is no run. -/
theorem Accepts.vacuous : Accepts 0 parser follow tokens value :=
  fun _ _ _ _ short => absurd short (Nat.not_lt_zero _)

/-- Giving a value accepts no tokens. -/
theorem Accepts.pure : Accepts limit (pure value) follow [] value :=
  fun cursor _ ahead _ _ => ⟨cursor, rfl, ahead, rfl⟩

/-- One parser after another. The first stands in front of what the second reads. -/
theorem Accepts.andThenWith (room : Nat) {second : α → Parser β}
    (first : Accepts limit parser follow' tokens value)
    (meets : ∀ kind, follow kind → follow' (leading more kind))
    (goesOn : Accepts room (second value) follow more result)
    (fits : limit ≤ room + tokens.length) :
    Accepts limit (parser >>= second) follow (tokens ++ more) result := by
  intro cursor rest ahead follows short
  rw [List.append_assoc] at ahead
  have meeting : follow' ((more ++ rest).headD cursor.stop).kind := by
    have meeting := meets _ follows
    cases more <;> exact meeting
  obtain ⟨middle, run, aheadMiddle, stopMiddle⟩ := first cursor (more ++ rest) ahead meeting short
  have shorter : middle.rest.length < room := by
    rw [ahead, List.length_append] at short
    rw [aheadMiddle]
    omega
  obtain ⟨behind, runMore, aheadBehind, stopBehind⟩ :=
    goesOn middle rest aheadMiddle (by rwa [stopMiddle]) shorter
  exact ⟨behind, (bind_of_ok run).trans runMore, aheadBehind, stopBehind.trans stopMiddle⟩

/-- Two parsers accept what each accepts, if what the second begins with may follow the first. -/
theorem Accepts.andThen {second : α → Parser β} (first : Accepts limit parser follow' tokens value)
    (meets : ∀ kind, follow kind → follow' (leading more kind))
    (goesOn : Accepts limit (second value) follow more result) :
    Accepts limit (parser >>= second) follow (tokens ++ more) result :=
  first.andThenWith limit meets goesOn (Nat.le_add_right _ _)

/-- A parser that closes what it reads itself, and another one behind it. -/
theorem Accepts.andThenFree {second : α → Parser β}
    (first : Accepts limit parser (fun _ => True) tokens value)
    (goesOn : Accepts limit (second value) follow more result) :
    Accepts limit (parser >>= second) follow (tokens ++ more) result :=
  first.andThen (fun _ _ => trivial) goesOn

/-- A parser behind which nothing more is read. -/
theorem Accepts.andLast {second : α → Parser β} (first : Accepts limit parser follow tokens value)
    (goesOn : Accepts limit (second value) follow [] result) :
    Accepts limit (parser >>= second) follow tokens result := by
  rw [← List.append_nil tokens]
  exact first.andThen (fun _ => id) goesOn

/-- A choice on the token at the cursor, which is the first of the tokens. -/
theorem Accepts.current {second : Token → Parser α}
    (goesOn : Accepts limit (second tok) follow (tok :: tokens) value) :
    Accepts limit (current >>= second) follow (tok :: tokens) value := by
  intro cursor rest ahead follows short
  have here : Parser.current cursor = .ok tok cursor := by
    rw [Parser.current, Cursor.current_eq_of_rest ahead]
  rw [bind_of_ok here]
  exact goesOn cursor rest ahead follows short

/-- A choice on the token that follows, where nothing is to be read. -/
theorem Accepts.next {second : Token → Parser α}
    (goesOn : ∀ tok, follow tok.kind → Accepts limit (second tok) follow [] value) :
    Accepts limit (Parser.current >>= second) follow [] value := by
  intro cursor rest ahead follows short
  have kind : cursor.current.kind = (rest.headD cursor.stop).kind := Cursor.current_kind ahead
  exact goesOn cursor.current (kind ▸ follows) cursor rest ahead follows short

/-- A choice on the kind of the token at the cursor. -/
theorem Accepts.check {kind : Kind} {second : Bool → Parser α} (found : Bool)
    (leads : ∀ next, follow next → decide (leading tokens next = kind) = found)
    (goesOn : Accepts limit (second found) follow tokens value) :
    Accepts limit (check kind >>= second) follow tokens value := by
  intro cursor rest ahead follows short
  have looked : Parser.check kind cursor = .ok found cursor := by
    rw [Parser.check, Cursor.current_kind ahead, leads _ follows]
  rw [bind_of_ok looked]
  exact goesOn cursor rest ahead follows short

/-- A token that is consumed makes room for the bounds of what follows. -/
theorem Accepts.shift {second : Token → Parser α}
    (goesOn : Accepts limit (second tok) follow tokens value) :
    Accepts (limit + 1) (shift >>= second) follow (tok :: tokens) value := by
  intro cursor rest ahead follows short
  rw [bind_of_ok (shift_of_rest ahead)]
  rw [ahead, List.cons_append, List.length_cons] at short
  exact goesOn _ rest rfl follows (Nat.lt_of_succ_lt_succ short)

/-- A slot filled by the token at the cursor, which makes room for the bounds of what follows. -/
theorem Accepts.expectFirst {slot : Slot} {second : Token → Parser α}
    (goesOn : Accepts limit (second tok) follow tokens value) (fills : tok.kind = slot.kind) :
    Accepts (limit + 1) (expect slot >>= second) follow (tok :: tokens) value := by
  intro cursor rest ahead follows short
  rw [Agree.expect slot second cursor tok _ ahead fills]
  exact goesOn.shift cursor rest ahead follows short

/-- A slot filled by the token at the cursor. -/
theorem Accepts.expect {slot : Slot} {second : Token → Parser α} (fills : tok.kind = slot.kind)
    (goesOn : Accepts limit (second tok) follow tokens value) :
    Accepts limit (expect slot >>= second) follow (tok :: tokens) value :=
  (goesOn.expectFirst fills).lower

/-- A token that may be left out and is there, which makes room for the bounds of what follows. -/
theorem Accepts.acceptFirst {kind : Kind} {second : Bool → Parser α}
    (goesOn : Accepts limit (second true) follow tokens value) (same : tok.kind = kind) :
    Accepts (limit + 1) (accept kind >>= second) follow (tok :: tokens) value := by
  rw [accept_bind]
  refine .current ?_
  rw [if_pos same]
  exact .shift goesOn

/-- A token that may be left out and is there. -/
theorem Accepts.acceptTaken {kind : Kind} {second : Bool → Parser α} (same : tok.kind = kind)
    (goesOn : Accepts limit (second true) follow tokens value) :
    Accepts limit (accept kind >>= second) follow (tok :: tokens) value :=
  (goesOn.acceptFirst same).lower

/-- A token that may be left out and is not there. -/
theorem Accepts.acceptLeft {kind : Kind} {second : Bool → Parser α}
    (absent : ∀ next, follow next → leading tokens next ≠ kind)
    (goesOn : Accepts limit (second false) follow tokens value) :
    Accepts limit (accept kind >>= second) follow tokens value := by
  have looked : Accepts limit (Parser.check kind >>= fun found =>
      if found = true then Parser.shift >>= fun _ => second true else second false) follow tokens
      value :=
    .check false (fun next follows => by simp [absent next follows]) goesOn
  rw [accept_bind]
  simpa only [check_bind, decide_eq_true_eq] using looked

/-- A choice on the token after the one at the cursor, when that one is consumed first. -/
theorem Accepts.following {kind : Kind} {taken left : Parser α} {start : Kind → Prop}
    {second third : Token → Parser α} (starts : start tok.kind)
    (same : Agree start taken (Parser.shift >>= second))
    (same' : Agree start left (Parser.shift >>= third))
    (goesOn : Accepts limit (Parser.check kind >>= fun found =>
      if found = true then second tok else third tok) follow tokens value) :
    Accepts (limit + 1) (Parser.following >>= fun next => if next.kind = kind then taken else left)
      follow (tok :: tokens) value := by
  intro cursor rest ahead follows short
  rw [Agree.following same same' cursor tok _ ahead starts]
  refine Accepts.shift ?_ cursor rest ahead follows short
  simpa only [check_bind, decide_eq_true_eq] using goesOn

/-- A list that is left out if the token that closes it stands in its place. -/
theorem Accepts.optional (before : Kind → Prop) {closing : Token} {list : Parser (List α)}
    {items : Rule (List α)}
    {values : List α} {second : List α → Parser β}
    (accepted : ∀ {tokens values}, items tokens values →
      Accepts limit list before tokens values ∧ ∀ next, leading tokens next ≠ closing.kind)
    (meets : before closing.kind) (given : Optional items tokens values)
    (goesOn : Accepts limit (second values) follow (closing :: more) result) :
    Accepts limit
      (Parser.check closing.kind >>= fun closed =>
        if closed = true then Pure.pure [] >>= second else list >>= second)
      follow (tokens ++ closing :: more) result := by
  cases given with
  | absent => exact .check true (fun _ _ => by simp) goesOn
  | present listed =>
    obtain ⟨listed, other⟩ := accepted listed
    refine .check false (fun next _ => ?_) (listed.andThen (fun _ _ => meets) goesOn)
    rw [leading_append]
    exact decide_eq_false (other _)

/-- A remark reads nothing. -/
theorem Accepts.note {remark : Remark} {second : Unit → Parser α}
    (goesOn : Accepts limit (second ()) follow tokens value) :
    Accepts limit (note tok remark >>= second) follow tokens value :=
  fun cursor rest ahead follows short =>
    goesOn (cursor.noted tok remark) rest ahead follows short

/-- Looking at the token consumed last reads nothing. -/
theorem Accepts.last {second : Token → Parser α}
    (goesOn : ∀ tok, Accepts limit (second tok) follow tokens value) :
    Accepts limit (last >>= second) follow tokens value :=
  fun cursor rest ahead follows short => goesOn cursor.last cursor rest ahead follows short

end Steps

/-- A parser that takes its bound from the number of tokens ahead. -/
theorem Accepts.ofBounded {limit : Nat} {bounded : Nat → Parser α} {follow : Kind → Prop}
    {tokens : List Token} {value : α}
    (known : ∀ bound, bound ≤ limit → Accepts bound (bounded bound) follow tokens value) :
    Accepts limit (fun cursor => bounded (cursor.rest.length + 1) cursor) follow tokens value :=
  fun cursor rest ahead follows short =>
    known _ short cursor rest ahead follows (Nat.lt_succ_self _)

section Lists

variable {limit : Nat} {item : Parser α} {follow follow' : Kind → Prop} {tokens : List Token}
  {values : List α}

/-- A list with marks is accepted if its items are, and no mark follows. -/
theorem Accepts.separatedUpTo {mark : Kind} (between : follow' mark)
    (closes : ∀ kind, follow kind → follow' kind ∧ kind ≠ mark)
    (list : Separated mark (Accepts limit item follow') tokens values) (bound : Nat)
    (below : bound ≤ limit) :
    Accepts bound (separatedUpTo mark item bound) follow tokens values := by
  induction list generalizing bound with
  | one only =>
    cases bound with
    | zero => exact .vacuous
    | succ bound =>
      have first := only.weaken below fun kind follows => (closes kind follows).1
      exact first.andLast (.acceptLeft (fun kind follows => (closes kind follows).2) .pure)
  | more first marked others ih =>
    cases bound with
    | zero => exact .vacuous
    | succ bound =>
      have first := first.weaken below fun _ => id
      refine first.andThen (fun _ _ => ?_) (Accepts.acceptFirst ?_ marked)
      · rw [leading_cons, marked]
        exact between
      · exact (ih bound (Nat.le_of_succ_le below)).andLast .pure

/-- Items with a mark between them are accepted if each item is, in front of the mark and of what
follows the list. -/
theorem Accepts.separated {mark : Kind} (between : follow' mark)
    (closes : ∀ kind, follow kind → follow' kind ∧ kind ≠ mark)
    (list : Separated mark (Accepts limit item follow') tokens values) :
    Accepts limit (separated mark item) follow tokens values :=
  .ofBounded fun bound below => .separatedUpTo between closes list bound below

/-- An item that is accepted and starts with a kind that announces another item. -/
def Announced (more : Kind → Bool) (rule : Rule α) : Rule α := fun tokens value =>
  rule tokens value ∧ ∃ tok rest, tokens = tok :: rest ∧ more tok.kind = true

/-- A list of announced items is empty or begins with an announcement. -/
theorem leading_announced {more : Kind → Bool} {rule : Rule α}
    (list : Repeated (Announced more rule) tokens values) (next : Kind) :
    leading tokens next = next ∨ more (leading tokens next) = true := by
  cases list with
  | none => exact .inl rfl
  | more first others =>
    obtain ⟨-, tok, rest, rfl, announced⟩ := first
    exact .inr announced

/-- A list without marks is accepted if its items are, and nothing that follows announces one more.
-/
theorem Accepts.manyUpTo {more : Kind → Bool} (between : ∀ kind, more kind = true → follow' kind)
    (closes : ∀ kind, follow kind → follow' kind ∧ more kind = false)
    (list : Repeated (Announced more (Accepts limit item follow')) tokens values) (bound : Nat)
    (below : bound ≤ limit) : Accepts bound (manyUpTo more item bound) follow tokens values := by
  induction list generalizing bound with
  | none =>
    cases bound with
    | zero => exact .vacuous
    | succ bound =>
      refine .next fun tok follows => ?_
      simp only [(closes _ follows).2, Bool.false_eq_true, ↓reduceIte]
      exact .pure
  | more first others ih =>
    cases bound with
    | zero => exact .vacuous
    | succ bound =>
      obtain ⟨first, tok, rest, rfl, announced⟩ := first
      have first := first.weaken below fun _ => id
      refine .current ?_
      simp only [announced, ↓reduceIte]
      refine first.andThenWith bound (fun kind follows => ?_)
        ((ih bound (Nat.le_of_succ_le below)).andLast .pure) (by simp)
      rcases leading_announced others kind with same | announced
      · rw [same]
        exact (closes kind follows).1
      · exact between _ announced

/-- Items are accepted one behind the other if each is, and announces itself. -/
theorem Accepts.many {more : Kind → Bool} (between : ∀ kind, more kind = true → follow' kind)
    (closes : ∀ kind, follow kind → follow' kind ∧ more kind = false)
    (list : Repeated (Announced more (Accepts limit item follow')) tokens values) :
    Accepts limit (many more item) follow tokens values :=
  .ofBounded fun bound below => .manyUpTo between closes list bound below

end Lists

end Parser

/-! ## Rules within lists -/

namespace Grammar

variable {α : Type} {item : Rule α} {tokens : List Token} {values : List α}

/-- A list starts as its first item does. -/
theorem Separated.leading {mark : Kind} (starts : Kind → Prop)
    (leads : ∀ {tokens value}, item tokens value → ∀ next, starts (leading tokens next))
    (list : Separated mark item tokens values) (next : Kind) : starts (leading tokens next) := by
  cases list with
  | one only => exact leads only next
  | more first marked others =>
    rw [leading_append]
    exact leads first _

end Grammar

end WinZig
