import WinZig.Proofs.Parsing.Completeness.Expression
import WinZig.Proofs.Parsing.Soundness.Statement

/-!
# What is derived as a statement is read as one

A statement stands in front of a semicolon, an `end`, an `until`, or an `else` of a conditional
around it. None of these starts a statement, so what is derived from nothing is read as the empty
statement, and none of them continues an expression.
-/

namespace WinZig.Parser

open Grammar

variable {limit : Nat} {follow : Kind → Prop} {enabled : Feature → Bool}

/-! ## Simple statements -/

/-- The kinds in front of which a statement ends. -/
def closesStatement (beforeElse : Bool) (kind : Kind) : Prop :=
  kind = .semicolon ∨ kind = .endWord ∨ kind = .untilWord ∨ (beforeElse = true ∧ kind = .elseWord)

instance (beforeElse : Bool) (kind : Kind) : Decidable (closesStatement beforeElse kind) :=
  inferInstanceAs (Decidable (_ ∨ _))

/-- What closes a statement closes the expression at its end. -/
theorem closesExpression_of_statement {beforeElse : Bool} {kind : Kind}
    (closes : closesStatement beforeElse kind) : closesExpression kind := by
  rcases closes with rfl | rfl | rfl | ⟨-, rfl⟩ <;> decide

/-- Assignments are accepted. -/
theorem assignment_accepts {tokens : List Token} {node : Node}
    (derived : Assignment enabled tokens node) :
    Accepts limit (assignment enabled) closesExpression tokens node := by
  cases derived with
  | assign named signed written =>
    refine (identifier_accepts named).andThenFree ?_
    exact .expect signed ((expression_accepts written).andLast .pure)

/-- Values of a case are accepted. -/
theorem caseValue_accepts {tokens : List Token} {node : Node} (derived : CaseValue tokens node) :
    Accepts limit caseValue follow tokens node := by
  rw [caseValue]
  cases derived with
  | literal written =>
    cases written with
    | integer spelled fits =>
      refine .current ?_
      rw [spelled]
      exact integer_accepts fits
    | character spelled quoted =>
      refine .current ?_
      rw [spelled]
      exact character_accepts quoted
    | truth spelled | falsity spelled =>
      refine .current ?_
      rw [spelled]
      exact boolean_accepts
  | name written =>
    have accepted : Accepts limit identifier follow tokens node := identifier_accepts written
    cases written with
    | name spelled =>
      refine .current ?_
      rw [spelled]
      exact accepted

/-! ## Statements that hold statements -/

/-- A clause starts with the value it is for. -/
theorem clause_announced {tokens : List Token} {node : Clause Node}
    (derived : CaseClause enabled tokens node) :
    ∃ tok rest, tokens = tok :: rest ∧ (tok.kind != .otherwiseWord && tok.kind != .endWord) = true := by
  cases derived with
  | clause value upper divided performed closed =>
    cases value with
    | literal written =>
      cases written with
      | integer spelled | character spelled | truth spelled | falsity spelled =>
        exact ⟨_, _, rfl, by rw [spelled]; rfl⟩
    | name written =>
      cases written with
      | name spelled => exact ⟨_, _, rfl, by rw [spelled]; rfl⟩

section Nested

variable {inner : Parser (List Node)}
  (held : ∀ {tokens nodes}, Statement enabled false tokens nodes →
    Accepts limit inner (closesStatement false) tokens nodes)

include held

/-- Clauses are accepted if the statements in them are. -/
theorem clause_accepts {tokens : List Token} {node : Clause Node}
    (derived : CaseClause enabled tokens node) : Accepts limit (clause inner) follow tokens node := by
  cases derived with
  | @clause low lowNode bound highNode colon body nodes semicolon value upper divided performed closed =>
    have rest : Accepts limit
        (do
          let _ ← expect .caseColon
          let body ← inner
          let _ ← expect .caseSemicolon
          return Clause.mk lowNode highNode body)
        follow (colon :: (body ++ [semicolon])) (Clause.mk lowNode highNode nodes) := by
      refine .expect divided ((held performed).andThen (fun _ _ => ?_) (.expect closed .pure))
      exact .inl closed
    rw [clause]
    simp only [pure_bind]
    refine (caseValue_accepts value).andThenFree ?_
    cases upper with
    | absent => exact .acceptLeft (fun _ _ => by simp [divided]) rest
    | present ranged written =>
      refine .acceptTaken ranged ((caseValue_accepts written).andThenFree ?_)
      split
      · exact .last fun _ => .note rest
      · exact rest

/-- What a case statement does when no clause applies, up to its end. -/
theorem otherwise_accepts {closing : Token} {rest : List Token} {restNodes : List Node}
    {second : List Node → Parser Node} {node : Node}
    (remaining : Optional (Otherwise enabled) rest restNodes) (closed : closing.kind = .endWord)
    (goesOn : Accepts limit (second restNodes) follow [closing] node) :
    Accepts limit
      (accept .otherwiseWord >>= fun found =>
        if found = true then inner >>= fun body => accept .semicolon >>= fun _ => second body
        else second [])
      follow (rest ++ [closing]) node := by
  cases remaining with
  | absent => exact .acceptLeft (fun _ _ => by simp [closed]) goesOn
  | present remaining =>
    cases remaining with
    | bare written performed =>
      refine .acceptTaken written ((held performed).andThen (fun _ _ => .inr (.inl closed)) ?_)
      exact .acceptLeft (fun _ _ => by simp [closed]) goesOn
    | closed written performed ended =>
      rw [List.cons_append, List.append_assoc]
      refine .acceptTaken written ((held performed).andThen (fun _ _ => .inl ended) ?_)
      exact .acceptTaken ended goesOn

/-- The rest of a case is accepted if the statements in it are. -/
theorem caseBody_accepts {tok consequence closing : Token} {selector clauses rest : List Token}
    {node : Node} {clauseNodes : List (Clause Node)} {restNodes : List Node}
    (selected : Expression enabled 0 selector node) (follows : consequence.kind = .ofWord)
    (listed : Repeated (CaseClause enabled) clauses clauseNodes)
    (remaining : Optional (Otherwise enabled) rest restNodes) (closed : closing.kind = .endWord) :
    Accepts limit (caseBody enabled tok inner) follow
      (selector ++ consequence :: (clauses ++ (rest ++ [closing])))
      (.caseOf tok node clauseNodes restNodes) := by
  rw [caseBody]
  simp only [pure_bind]
  refine (expression_accepts selected).andThen (fun _ _ => ?_) (.expect follows ?_)
  · rw [leading_cons, follows]
    decide
  have announced := listed.imp fun tokens node derived =>
    (⟨clause_accepts held derived, clause_announced derived⟩ : Announced
      (fun kind => kind != .otherwiseWord && kind != .endWord)
      (Accepts limit (clause inner) fun _ => True) tokens node)
  have list : Accepts limit (many (fun kind => kind != .otherwiseWord && kind != .endWord)
      (clause inner)) (fun kind => kind = .otherwiseWord ∨ kind = .endWord) clauses clauseNodes := by
    refine .many (fun _ _ => trivial) (fun kind closes => ⟨trivial, ?_⟩) announced
    rcases closes with rfl | rfl <;> rfl
  refine list.andThen (fun _ _ => ?_) (otherwise_accepts held remaining closed (.expect closed .pure))
  cases remaining with
  | absent => exact .inr closed
  | present remaining =>
    cases remaining with
    | bare written | closed written => exact .inl written

/-- The statements of a list stand in front of semicolons and of the word that closes the list. -/
theorem statements_accepts {tokens : List Token} {lists : List (List Node)} {closing : Kind}
    (closes : closing = .endWord ∨ closing = .untilWord)
    (listed : Separated .semicolon (Statement enabled false) tokens lists) :
    Accepts limit (separated .semicolon inner) (· = closing) tokens lists := by
  refine .separated (by decide) (fun kind same => ?_) (listed.imp fun _ _ => held)
  rcases closes with rfl | rfl <;> subst same <;> decide

/-- In front of its first word, a compound statement makes room for what it holds. -/
theorem compound_accepts {tokens : List Token} {nodes : List Node}
    (derived : Body enabled tokens nodes) :
    Accepts (limit + 1) (compound inner) follow tokens nodes := by
  cases derived with
  | enclosed opened listed closed =>
    refine Accepts.expectFirst ?_ opened
    exact (statements_accepts held (.inl rfl) listed).andThen (fun _ _ => closed) (.expect closed .pure)

end Nested

/-- An expression at the end of a statement. -/
theorem expression_closes {tokens : List Token} {node : Node} {beforeElse : Bool}
    (derived : Expression enabled 0 tokens node) :
    Accepts limit (expression enabled) (closesStatement beforeElse) tokens node :=
  (expression_accepts derived).weaken (Nat.le_refl _) fun _ => closesExpression_of_statement

/-- An expression in front of a token that closes it. -/
theorem expression_before {tokens more : List Token} {node : Node} {tok : Token} {α : Type} {value : α}
    {second : Node → Parser α} (derived : Expression enabled 0 tokens node)
    (closes : closesExpression tok.kind)
    (goesOn : Accepts limit (second node) follow (tok :: more) value) :
    Accepts limit (expression enabled >>= second) follow (tokens ++ tok :: more) value :=
  (expression_accepts derived).andThen (fun _ _ => closes) goesOn

/-- A list of arguments is accepted in front of a token that closes it. -/
theorem arguments_before {tokens more : List Token} {nodes : List Node} {tok : Token} {α : Type}
    {value : α}
    {item : Parser Node} {rule : Rule Node} {second : List Node → Parser α}
    (accepted : ∀ {tokens node}, rule tokens node → Accepts limit item closesExpression tokens node)
    (derived : Separated .comma rule tokens nodes) (closed : tok.kind = .closeParen)
    (goesOn : Accepts limit (second nodes) follow (tok :: more) value) :
    Accepts limit (separated .comma item >>= second) follow (tokens ++ tok :: more) value := by
  have listed : Accepts limit (separated .comma item) (· = .closeParen) tokens nodes :=
    .separated (by decide) (by rintro kind rfl; decide) (derived.imp fun _ _ => accepted)
  exact listed.andThen (fun _ _ => closed) goesOn

/-- Statements are accepted if all statements in them are. -/
theorem statement_follows {bound : Nat}
    (known : ∀ {beforeElse tokens nodes}, Statement enabled beforeElse tokens nodes →
      Accepts bound (statementUpTo enabled bound) (closesStatement beforeElse) tokens nodes)
    {beforeElse : Bool} {tokens : List Token} {nodes : List Node}
    (derived : Statement enabled beforeElse tokens nodes) :
    Accepts (bound + 1) (statementUpTo enabled (bound + 1)) (closesStatement beforeElse) tokens
      nodes := by
  rw [statementUpTo]
  cases derived with
  | empty =>
    refine .next fun tok follows => ?_
    rcases follows with same | same | same | ⟨-, same⟩ <;> rw [same] <;> exact .pure
  | assignment assigned =>
    obtain ⟨⟨spelled⟩, signed, written⟩ := assigned
    refine .current ?_
    rw [spelled]
    simp only [exchange, assignment, bind_assoc]
    refine .following spelled (.identifier _) (.identifier _) ?_
    refine .check false (fun _ _ => by simp [signed]) (.expect signed ?_)
    exact (expression_closes written).andLast .pure
  | exchange before signed behind =>
    obtain ⟨spelled⟩ := before
    refine .current ?_
    rw [spelled]
    simp only [exchange, assignment, bind_assoc]
    refine .following spelled (.identifier _) (.identifier _) ?_
    refine .check true (fun _ _ => by simp [signed]) (Accepts.shift ?_).lower
    exact (identifier_accepts behind).andLast .pure
  | output written opened given closed =>
    refine .current ?_
    rw [written]
    refine .shift (.expect opened ?_)
    exact arguments_before expression_accepts given closed (.expect closed .pure)
  | read written opened given closed =>
    refine .current ?_
    rw [written]
    refine .shift (.expect opened ?_)
    exact arguments_before identifier_accepts given closed (.expect closed .pure)
  | ifThen written tested follows held =>
    refine .current ?_
    rw [written]
    refine .shift (expression_before tested (by rw [follows]; decide) (.expect follows ?_))
    refine (known held).andLast (.acceptLeft (fun next closes => ?_) .pure)
    rintro rfl
    exact absurd closes (by decide)
  | ifThenElse written tested follows held alternates failed =>
    refine .current ?_
    rw [written]
    refine .shift (expression_before tested (by rw [follows]; decide) (.expect follows ?_))
    refine (known held).andThen (fun _ _ => .inr (.inr (.inr ⟨rfl, alternates⟩))) ?_
    exact .acceptTaken alternates ((known failed).andLast .pure)
  | whileLoop written tested follows held =>
    refine .current ?_
    rw [written]
    refine .shift (expression_before tested (by rw [follows]; decide) (.expect follows ?_))
    exact (known held).andLast .pure
  | repeatLoop written held closed tested =>
    refine .current ?_
    rw [written]
    refine .shift ((statements_accepts known (.inr rfl) held).andThen (fun _ _ => closed) ?_)
    exact .expect closed ((expression_closes tested).andLast .pure)
  | forLoop written opened begun divided tested dividedAgain stepped closed held =>
    refine .current ?_
    rw [written]
    refine .shift (.expect opened ?_)
    refine (assignment_accepts begun).andThen (fun _ _ => by rw [leading_cons, divided]; decide) ?_
    refine .expect divided (expression_before tested (by rw [dividedAgain]; decide) ?_)
    refine .expect dividedAgain ?_
    refine (assignment_accepts stepped).andThen (fun _ _ => by rw [leading_cons, closed]; decide) ?_
    exact .expect closed ((known held).andLast .pure)
  | caseOf written selected follows listed remaining closed =>
    refine .current ?_
    rw [written]
    exact .shift ((caseBody_accepts known selected follows listed remaining closed).andLast .pure)
  | returnOf written given =>
    refine .current ?_
    rw [written]
    exact .shift ((expression_closes given).andLast .pure)
  | compound enclosed =>
    have accepted : Accepts (bound + 1) (Parser.compound (statementUpTo enabled bound))
        (closesStatement beforeElse) tokens nodes := compound_accepts known enclosed
    cases enclosed with
    | enclosed opened =>
      refine .current ?_
      rw [opened]
      exact accepted

/-- All statements are accepted, whatever the bound: by induction on it. -/
theorem statementUpTo_accepts {beforeElse : Bool} {tokens : List Token} {nodes : List Node}
    (derived : Statement enabled beforeElse tokens nodes) (bound : Nat) :
    Accepts bound (statementUpTo enabled bound) (closesStatement beforeElse) tokens nodes := by
  induction bound generalizing beforeElse tokens nodes with
  | zero => exact .vacuous
  | succ bound ih => exact statement_follows ih derived

/-- Every body of the grammar is accepted. -/
theorem body_accepts {tokens : List Token} {nodes : List Node} (derived : Body enabled tokens nodes) :
    Accepts limit (body enabled) follow tokens nodes := by
  have held {tokens : List Token} {nodes : List Node} (derived : Statement enabled false tokens nodes) :
      Accepts limit (statement enabled) (closesStatement false) tokens nodes :=
    .ofBounded fun bound _ => statementUpTo_accepts derived bound
  exact (compound_accepts held derived).lower

end WinZig.Parser
