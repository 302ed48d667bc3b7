import WinZig.Proofs.Parsing.Accepting
import WinZig.Proofs.Parsing.Soundness.Expression

/-!
# What is derived as an expression is read as one

An expression ends in front of any token that is neither a binary operator nor an opening
parenthesis; behind a name, a parenthesis would turn it into a call.

Climbing does not read an expression from its root: the left operand of the root is read first, and
the root is found when climbing goes on behind it. What is derived is therefore followed up to the
call of `climb` that has the whole expression as its left operand.
-/

namespace WinZig.Parser

open Grammar

variable {limit : Nat} {follow : Kind → Prop} {tok : Token}

/-! ## Literals and names -/

/-- A numeral in range is accepted. -/
theorem integer_accepts {value : Int} (fits : Text.int64? tok.text = some value) :
    Accepts limit integer follow [tok] (.integer tok .unknown value) := by
  refine (Accepts.shift ?_).lower
  rw [fits]
  by_cases wide : widestInteger < value
  · simp only [wide, ↓reduceIte]
    exact .note .pure
  · simp only [wide, ↓reduceIte]
    exact .pure

/-- A quoted character is accepted. -/
theorem character_accepts {quote value : Char} {others : List Char}
    (quoted : tok.text.toList = quote :: value :: others) :
    Accepts limit character follow [tok] (.character tok .unknown value) := by
  refine (Accepts.shift ?_).lower
  rw [quoted]
  exact .pure

/-- A truth value is accepted. -/
theorem boolean_accepts {value : Bool} :
    Accepts limit (boolean value) follow [tok] (.boolean tok .unknown value) := by
  refine (Accepts.shift ?_).lower
  exact .pure

/-- A name is accepted. -/
theorem identifier_accepts {tokens : List Token} {node : Node} (written : Name tokens node) :
    Accepts limit identifier follow tokens node := by
  cases written with
  | name spelled => exact .expect spelled .pure

/-! ## Expressions -/

section Expressions

variable {enabled : Feature → Bool} {bound : Nat}

/-- Operands are read under a bound. -/
def ReadsOperands (enabled : Feature → Bool) (bound : Nat) : Prop :=
  ∀ {tokens node}, Operand enabled tokens node →
    Accepts bound (operand enabled bound) (· ≠ .openParen) tokens node

/-- Climbing over an operator that binds tight enough. -/
theorem climb_operator {floor level : Nat} {left : Node} {cursor : Cursor} {op : Token}
    {rest : List Token} (ahead : cursor.rest = op :: rest) (binds : op.kind.level? = some level)
    (admitted : floor ≤ level) :
    climb enabled (bound + 1) floor left cursor =
      ((operand enabled bound >>= climb enabled bound (level + 1)) >>= fun right =>
        climb enabled bound floor (.binary op .unknown op.kind left right))
        (cursor.advanced op rest) := by
  have here : Parser.current cursor = .ok op cursor := by
    rw [Parser.current, Cursor.current_eq_of_rest ahead]
  rw [climb, bind_of_ok here]
  simp only [binds, Nat.not_lt.mpr admitted, ↓reduceIte]
  rw [bind_of_ok (shift_of_rest ahead), bind_assoc]

/-- Climbing ends in front of a token that binds no operand. -/
theorem climb_ends {floor : Nat} {left : Node} {cursor : Cursor}
    (looser : ∀ level, cursor.current.kind.level? = some level → level < floor) :
    climb enabled bound floor left cursor = .ok left cursor := by
  cases bound with
  | zero => rfl
  | succ bound =>
    have here : Parser.current cursor = .ok cursor.current cursor := rfl
    rw [climb, bind_of_ok here]
    cases binds : cursor.current.kind.level? with
    | none => rfl
    | some level =>
      simp only [looser level binds, ↓reduceIte]
      rfl

/-- An expression is read up to the place where climbing goes on with it as the left operand. The
recursion is on the derivation: the left operand of the root under the same bound, the right one
behind the operator. -/
theorem climb_follows {bound level floor : Nat} {tokens rest : List Token} {node : Node}
    {cursor : Cursor}
    (operands : ∀ bound' ≤ bound, ReadsOperands enabled bound') (lower : floor ≤ level)
    (ahead : cursor.rest = tokens ++ rest) (apart : (rest.headD cursor.stop).kind ≠ .openParen)
    (looser : ∀ level', (rest.headD cursor.stop).kind.level? = some level' → level' ≤ level)
    (short : cursor.rest.length < bound) (derived : Expression enabled level tokens node) :
    ∃ bound' behind, (operand enabled bound >>= climb enabled bound floor) cursor =
        climb enabled bound' floor node behind ∧ behind.rest = rest ∧ behind.stop = cursor.stop ∧
      rest.length < bound' ∧ bound' ≤ bound := by
  -- Both operands of an operation are shorter than the operation.
  induction size : tokens.length using Nat.strong_induction_on
    generalizing bound level floor tokens rest node cursor with
  | _ count ih =>
  cases derived with
  | operand only =>
    obtain ⟨behind, run, aheadBehind, stop⟩ :=
      operands bound (Nat.le_refl _) only cursor rest ahead apart short
    refine ⟨bound, behind, bind_of_ok run, aheadBehind, stop, ?_, Nat.le_refl _⟩
    rw [ahead, List.length_append] at short
    omega
  | @binary _ tight left leftNode op right rightNode binds admitted before behind =>
    rw [List.length_append, List.length_cons] at size
    rw [List.append_assoc, List.cons_append] at ahead
    rw [mem_operators] at binds
    have opApart : op.kind ≠ .openParen := fun same => by simp [same, Kind.level?] at binds
    have opLevel : ∀ level', op.kind.level? = some level' → level' ≤ tight := by
      intro level' same
      exact Nat.le_of_eq (Option.some.inj (same.symm.trans binds))
    obtain ⟨room, middle, run, aheadMiddle, stopMiddle, shortMiddle, fewer⟩ :=
      ih left.length (by omega) operands (Nat.le_trans lower admitted) ahead opApart opLevel short
        before rfl
    obtain ⟨room, rfl⟩ : ∃ room', room = room' + 1 := Nat.exists_eq_succ_of_ne_zero (by omega)
    rw [run, climb_operator aheadMiddle binds (Nat.le_trans lower admitted)]
    -- Behind the operator the right operand takes only tighter operators than the next one.
    have looserRight : ∀ level', (rest.headD middle.stop).kind.level? = some level' →
        level' < tight + 1 := by
      intro level' found
      exact Nat.lt_succ_of_le (Nat.le_trans (looser level' (stopMiddle ▸ found)) admitted)
    have aheadRight : ({ middle with rest := right ++ rest, last := op, index := middle.index + 1 } :
        Cursor).rest = right ++ rest := rfl
    have operandsRight : ∀ bound' ≤ room, ReadsOperands enabled bound' :=
      fun bound' within => operands bound' (by omega)
    simp only [List.length_cons, List.length_append] at shortMiddle
    obtain ⟨room', behind', runRight, aheadBehind, stopBehind, -, -⟩ :=
      ih right.length (by omega) operandsRight (Nat.le_refl _) aheadRight (stopMiddle ▸ apart)
        (fun level' found => Nat.le_of_lt (looserRight level' found))
        (by rw [aheadRight, List.length_append]; omega) behind rfl
    rw [climb_ends] at runRight
    · exact ⟨room, behind', bind_of_ok runRight, aheadBehind, stopBehind.trans stopMiddle, by omega,
        by omega⟩
    · rw [Cursor.current, aheadBehind, stopBehind]
      exact looserRight

/-- The kinds in front of which an expression ends. -/
def closesExpression (kind : Kind) : Prop := kind.level? = none ∧ kind ≠ .openParen

instance (kind : Kind) : Decidable (closesExpression kind) := inferInstanceAs (Decidable (_ ∧ _))

/-- An expression is accepted if the operands in it are. -/
theorem expressionUpTo_accepts {tokens : List Token} {node : Node}
    (operands : ∀ bound' ≤ bound, ReadsOperands enabled bound')
    (derived : Expression enabled 0 tokens node) :
    Accepts bound (operand enabled bound >>= climb enabled bound 0) closesExpression tokens node := by
  intro cursor rest ahead follows short
  obtain ⟨loose, apart⟩ := follows
  obtain ⟨bound', behind, run, aheadBehind, stop, -, -⟩ :=
    climb_follows operands (Nat.le_refl 0) ahead apart
      (fun level binds => by rw [loose] at binds; exact nomatch binds) short derived
  rw [climb_ends] at run
  · exact ⟨behind, run, aheadBehind, stop⟩
  · intro level binds
    rw [Cursor.current, aheadBehind, stop, loose] at binds
    exact nomatch binds

/-- A list of arguments does not start with the parenthesis that closes it. -/
theorem leading_operand {tokens : List Token} {node : Node} (derived : Operand enabled tokens node)
    (next : Kind) : leading tokens next ≠ .closeParen := by
  cases derived with
  | literal written => cases written <;> simp_all
  | endOfFile spelled admitted => simp [spelled]
  | name written => cases written with | name spelled => simp [spelled]
  | call named opened given closed => simp [named]
  | group opened enclosed closed => simp [opened]
  | @unary op tokens node applies only =>
    intro same
    rw [leading_cons] at same
    simp [same, isUnary] at applies

/-- An expression does not begin with a closing parenthesis, so a call with arguments is not taken
for one without. -/
theorem leading_expression {tokens : List Token} {node : Node} {level : Nat} (next : Kind)
    (derived : Expression enabled level tokens node) : leading tokens next ≠ .closeParen := by
  cases derived with
  | operand only => exact leading_operand only next
  | binary _ _ before _ =>
    rw [leading_append]
    exact leading_expression _ before
termination_by tokens.length
decreasing_by simp only [List.length_append, List.length_cons]; omega

/-- Operands are read if all shorter ones are. -/
theorem operand_follows (operands : ∀ bound' ≤ bound, ReadsOperands enabled bound') :
    ReadsOperands enabled (bound + 1) := by
  have nested {tokens : List Token} {node : Node} (derived : Expression enabled 0 tokens node) :
      Accepts bound (operand enabled bound >>= climb enabled bound 0) closesExpression tokens node :=
    expressionUpTo_accepts operands derived
  intro tokens node derived
  rw [operand]
  cases derived with
  | literal written =>
    cases written with
    | integer spelled fits =>
      refine .current ?_
      rw [spelled]
      exact integer_accepts fits
    | character spelled quoted =>
      refine .current ?_
      rw [spelled]
      exact character_accepts quoted
    | truth spelled | falsity spelled =>
      refine .current ?_
      rw [spelled]
      exact boolean_accepts
  | endOfFile spelled admitted =>
    refine .current ?_
    simp only [spelled, require, admitted]
    exact boolean_accepts
  | name written =>
    cases written with
    | name spelled =>
      refine .current ?_
      rw [spelled, ← bind_pure identifier]
      refine .following spelled (fun _ _ _ _ _ => rfl) (.identifier _) ?_
      exact .check false (fun next follows => decide_eq_false follows) .pure
  | call named opened given closed =>
    refine .current ?_
    rw [named, ← bind_pure identifier]
    refine .following named (fun _ _ _ _ _ => rfl) (.identifier _) ?_
    refine .check true (fun next follows => by simp [opened]) (Accepts.shift ?_).lower
    rw [← closed]
    refine .optional (· = .closeParen) (fun listed => ⟨?_, ?_⟩) closed given (.expect closed .pure)
    · exact .separated (by decide) (by rintro kind rfl; decide) (listed.imp fun _ _ => nested)
    · rw [closed]
      exact listed.leading (· ≠ .closeParen) fun derived next => leading_expression next derived
  | group opened enclosed closed =>
    refine .current ?_
    rw [opened]
    refine .shift ?_
    simp only [← bind_assoc]
    exact (nested enclosed).andThen (fun _ _ => by rw [leading_cons, closed]; decide)
      (.expect closed .pure)
  | @unary op tokens node applies only =>
    have applied : Accepts (bound + 1)
        (do let op ← shift; return Node.unary op .unknown op.kind (← operand enabled bound))
        (· ≠ .openParen) (op :: tokens) (Node.unary op .unknown op.kind node) :=
      .shift ((operands bound (Nat.le_refl _) only).andLast .pure)
    refine .current ?_
    generalize op.kind = kind at applies applied ⊢
    cases kind with
    | minus | plus | notWord | succWord | predWord => exact applied
    | chrWord | ordWord =>
      have admitted : enabled .ordinalFunctions = true := applies
      simp only [require, admitted]
      exact applied
    | _ => exact absurd applies Bool.false_ne_true

/-- All operands are read, whatever the bound: by induction on it. -/
theorem operand_accepts (bound : Nat) : ReadsOperands enabled bound := by
  induction bound using Nat.strongRecOn with
  | ind bound ih =>
    cases bound with
    | zero => exact fun _ => .vacuous
    | succ bound => exact operand_follows fun bound' within => ih bound' (Nat.lt_succ_of_le within)

/-- Every expression of the grammar is accepted. -/
theorem expression_accepts {tokens : List Token} {node : Node}
    (derived : Expression enabled 0 tokens node) :
    Accepts limit (expression enabled) closesExpression tokens node :=
  .ofBounded fun _ _ => expressionUpTo_accepts (fun bound' _ => operand_accepts bound') derived

end Expressions

end WinZig.Parser
