import WinZig.Proofs.Parsing.Soundness.Expression

/-!
# What is read as a statement

What is read as a statement is derived as one. Which derivation it is depends on the token behind the
statement: in front of an `else` every conditional that is still open has taken its own, so the
statement may stand there.
-/

namespace WinZig.Parser

open Grammar

variable {limit limit' : Nat} {enabled : Feature → Bool}

/-! ## Simple statements -/

/-- An assignment behind its target. -/
theorem assigned_parses {target : Token} (named : target.kind = .identifier) :
    Parses limit limit'
      (do
        let tok ← expect (.assignSign target.text)
        return .assign tok (.name target .unknown target.text) (← expression enabled))
      (do
        let tok ← expect (.assignSign target.text)
        return .assign tok (.name target .unknown target.text) (← expression enabled))
      ((Assignment enabled).free.after [target]) ((Assignment enabled).after [target]) := by
  refine .expect fun sign signed => ?_
  refine expression_parses.andThen fun value node written => ?_
  exact .finish (.assign (.name named) signed written)

/-- Assignments are parsed. -/
theorem assignment_parses :
    Parses limit limit' (assignment enabled) (assignment enabled) (Assignment enabled).free
      (Assignment enabled) := by
  simp only [assignment, identifier, bind_assoc, pure_bind]
  exact .expect fun target named => assigned_parses named

/-- Values of a case are parsed. -/
theorem caseValue_parses : Parses limit limit' caseValue caseValue CaseValue.free CaseValue := by
  have completes : ∃ tokens node, CaseValue tokens node := by
    obtain ⟨tokens, node, written⟩ := literal_completes
    exact ⟨tokens, node, .literal written⟩
  refine ⟨.current fun tok _ => ?_, completes⟩
  generalize tok.kind = kind
  cases kind with
  | integer => exact integer_reads.widen (fun _ _ _ => .literal) fun _ _ => .literal
  | character => exact character_reads.widen (fun _ _ _ => .literal) fun _ _ => .literal
  | trueWord => exact boolean_reads (by decide) fun _ spelled => .literal (.truth spelled)
  | falseWord => exact boolean_reads (by decide) fun _ spelled => .literal (.falsity spelled)
  | identifier =>
    exact (identifier_parses.widen (fun _ _ _ => .name) fun _ _ => .name).toReads.narrow
      fun _ _ => trivial
  | _ => exact .fail completes

/-! ## Statements that hold statements -/

/-- A statement in front of a token of the given kind. -/
def closed (enabled : Feature → Bool) : Language (List Node) := fun tokens nodes next =>
  Statement enabled (next == .elseWord) tokens nodes

/-- What may stand before an `else` may stand anywhere. -/
theorem Statement_anywhere {tokens : List Token} {nodes : List Node} {beforeElse : Bool} :
    Statement enabled true tokens nodes → Statement enabled beforeElse tokens nodes
  | .empty => .empty
  | .assignment assigned => .assignment assigned
  | .exchange before signed behind => .exchange before signed behind
  | .output written opened given closed => .output written opened given closed
  | .read written opened given closed => .read written opened given closed
  | .ifThenElse written tested follows held alternates failed =>
    .ifThenElse written tested follows held alternates (Statement_anywhere failed)
  | .whileLoop written tested follows held =>
    .whileLoop written tested follows (Statement_anywhere held)
  | .repeatLoop written held closed tested => .repeatLoop written held closed tested
  | .forLoop written opened begun divided tested dividedAgain stepped closed held =>
    .forLoop written opened begun divided tested dividedAgain stepped closed
      (Statement_anywhere held)
  | .caseOf written selected follows listed remaining closed =>
    .caseOf written selected follows listed remaining closed
  | .returnOf written given => .returnOf written given
  | .compound enclosed => .compound enclosed

/-- Whatever follows it, what is read as a statement may stand before anything but an `else`. -/
theorem Parses.held {inner inner' : Parser (List Node)}
    (known : Parses limit limit' inner inner' (closed enabled) (Statement enabled true)) :
    Parses limit limit' inner inner' (Statement enabled false).free (Statement enabled false) := by
  refine known.widen (fun tokens nodes next derived => ?_) fun _ _ => Statement_anywhere
  cases before : next == Kind.elseWord with
  | true => exact Statement_anywhere (before ▸ derived)
  | false => exact before ▸ derived

/-- A clause has a token. -/
theorem CaseClause_ne_nil (tokens : List Token) (clause : Clause Node)
    (derived : CaseClause enabled tokens clause) : tokens ≠ [] := by
  cases derived
  simp

/-- What stands behind the first word of a case statement. -/
def CaseStatement (enabled : Feature → Bool) (tok : Token) : Rule Node := fun tokens node =>
  ∀ beforeElse, Statement enabled beforeElse (tok :: tokens) [node]

section Nested

variable {inner inner' : Parser (List Node)}
  (known : Parses limit limit' inner inner' (Statement enabled false).free (Statement enabled false))

include known

/-- Clauses are parsed if the statements in them are. -/
theorem clause_parses :
    Parses limit limit' (clause inner) (clause inner') (CaseClause enabled).free
      (CaseClause enabled) := by
  refine caseValue_parses.andThen fun low lowNode value => ?_
  have rest {bound : List Token} {highNode : Node} (upper : UpperBound bound highNode) :
      Parses limit limit'
        (do
          let _ ← expect .caseColon
          let body ← inner
          let _ ← expect .caseSemicolon
          return ⟨lowNode, highNode, body⟩)
        (do
          let _ ← expect .caseColon
          let body ← inner'
          let _ ← expect .caseSemicolon
          return ⟨lowNode, highNode, body⟩)
        (((CaseClause enabled).free.after low).after bound)
        (((CaseClause enabled).after low).after bound) := by
    refine .expect fun colon divided => ?_
    refine known.andThen fun body nodes held => ?_
    exact .expect fun semicolon ended => .finish (.clause value upper divided held ended)
  simp only [pure_bind]
  refine .accept (by decide) (fun dots ranged => ?_) (rest .absent)
  refine caseValue_parses.andThen fun bound highNode written => ?_
  have ranged := rest (.present ranged written)
  split
  · exact ⟨.last fun _ => .note ranged.toReads, ranged.completes⟩
  · exact ranged

/-- The rest of a case is parsed if the statements in it are. -/
theorem caseBody_parses {tok : Token} (written : tok.kind = .caseWord) :
    Parses limit limit' (caseBody enabled tok inner) (caseBody enabled tok inner')
      (CaseStatement enabled tok).free (CaseStatement enabled tok) := by
  refine expression_parses.andThen fun selector node selected => ?_
  refine .expect fun consequence follows => ?_
  have more : Reads (fun kind => (kind != .otherwiseWord && kind != .endWord) = true) limit limit'
      (clause inner) (clause inner') (CaseClause enabled).free (CaseClause enabled) :=
    (clause_parses known).toReads.narrow fun _ _ => trivial
  refine (Parses.many CaseClause_ne_nil more).andThen fun clauses clauseNodes listed => ?_
  have rest {rest : List Token} {restNodes : List Node}
      (remaining : Optional (Otherwise enabled) rest restNodes) :
      Parses limit limit'
        (do
          let _ ← expect .caseEnd
          return .caseOf tok node clauseNodes restNodes)
        (do
          let _ ← expect .caseEnd
          return .caseOf tok node clauseNodes restNodes)
        (((((CaseStatement enabled tok).free.after selector).after [consequence]).after clauses).after
          rest)
        (((((CaseStatement enabled tok).after selector).after [consequence]).after clauses).after
          rest) :=
    .expect fun closing closes =>
      .finish fun _ => .caseOf written selected follows listed remaining closes
  simp only [pure_bind]
  refine .accept (by decide) (fun word other => ?_) (rest .absent)
  refine known.andThen fun body nodes held => ?_
  refine .accept (by decide) (fun semicolon ended => ?_) (rest (.present (.bare other held)))
  have whole := rest (.present (.closed other held ended))
  refine whole.widen (fun tokens value next derived => ?_) (fun tokens value derived => ?_)
  · simpa [Language.after] using derived
  · simpa [Rule.after] using derived

/-- A compound statement behind its first word. -/
theorem enclosed_parses {opening : Token} (opened : opening.kind = .beginWord) :
    Parses limit limit'
      (do
        let stmts ← separated .semicolon inner
        let _ ← expect .bodyEnd
        return stmts.flatten)
      (do
        let stmts ← separated .semicolon inner'
        let _ ← expect .bodyEnd
        return stmts.flatten)
      ((Body enabled).free.after [opening]) ((Body enabled).after [opening]) := by
  refine (known.separated (by decide)).andThen fun body lists held => ?_
  exact .expect fun closing closes => .finish (.enclosed opened held closes)

/-- Compound statements are parsed if the statements in them are. -/
theorem compound_parses :
    Parses limit limit' (compound inner) (compound inner') (Body enabled).free (Body enabled) :=
  .expect fun _ opened => enclosed_parses known opened

/-- In front of its first word, a compound statement makes room for what it holds. -/
theorem compound_reads :
    Reads (· = .beginWord) (limit + 1) (limit' + 1) (compound inner) (compound inner')
      (Body enabled).free (Body enabled) :=
  Reads.expect .bodyBegin fun _ opened => (enclosed_parses known opened).toReads

end Nested

/-- The end of a statement that may stand anywhere. -/
theorem Parses.finishStatement {read : List Token} {nodes : List Node}
    {build : List Token → List Token}
    (whole : ∀ beforeElse, Statement enabled beforeElse (build read) nodes) :
    Parses limit limit' (Pure.pure nodes) (Pure.pure nodes)
      (Language.after (fun tokens nodes next => closed enabled (build tokens) nodes next) read)
      (Rule.after (fun tokens nodes => Statement enabled true (build tokens) nodes) read) :=
  .pure (fun _ => by simpa [Language.after, closed] using whole _)
    (by simpa [Rule.after] using whole true)

/-- A conditional behind its first branch. If an `else` follows, the branch is read as one that may
stand before it, and the conditional takes it. -/
theorem alternative_parses {inner inner' : Parser (List Node)}
    (known : Parses limit limit' inner inner' (closed enabled) (Statement enabled true))
    {word consequence : Token} {condition : List Token} {node : Node} (written : word.kind = .ifWord)
    (tested : Expression enabled 0 condition node) (follows : consequence.kind = .thenWord) :
    Parses limit limit'
      (do
        let held ← inner
        let failed ← if ← accept .elseWord then inner else pure []
        return [.conditional word node held failed])
      (do
        let held ← inner'
        let failed ← if ← accept .elseWord then inner' else pure []
        return [.conditional word node held failed])
      ((((closed enabled).after [word]).after condition).after [consequence])
      ((((Statement enabled true).after [word]).after condition).after [consequence]) := by
  have both {body other : List Token} {nodes others : List Node} {alternative : Token}
      {beforeElse : Bool} (held : Statement enabled true body nodes)
      (alternates : alternative.kind = .elseWord) (failed : Statement enabled beforeElse other others) :
      Statement enabled beforeElse
        (word :: (condition ++ consequence :: (body ++ alternative :: other)))
        [.conditional word node nodes others] :=
    .ifThenElse written tested follows held alternates failed
  have marked : ({ kind := .elseWord } : Token).kind = .elseWord := rfl
  refine ⟨?_, _, _, both .empty marked .empty⟩
  refine known.toReads.andThen limit limit' (fun body nodes next held => ?_)
    (fun body nodes held => ⟨_, _, both held marked .empty⟩)
    (fun _ _ _ _ => ⟨Nat.le_add_right _ _, Nat.le_add_right _ _⟩)
  simp only [pure_bind]
  refine .accept limit limit' (by decide) (Nat.le_succ _) (Nat.le_succ _)
    (fun before alternative alternates => ?_) ?_
  · have held : Statement enabled true body nodes := by simpa [closed, ← before] using held
    exact (known.map (fun other others next failed => both held alternates failed)
      fun other others failed => both held alternates failed).toReads
  · refine .pure fun next' starts => ?_
    obtain ⟨rfl, open'⟩ := starts
    have different : (next' == Kind.elseWord) = false := by simpa using open'
    have held : Statement enabled false body nodes := by simpa [closed, different] using held
    simpa [Language.after, closed, different] using Statement.ifThen written tested follows held

/-- A statement: each alternative but the empty one consumes a token before anything nested is
read. -/
theorem statement_step {bound bound' : Nat}
    (known : Parses bound bound' (statementUpTo enabled bound) (statementUpTo enabled bound')
      (closed enabled) (Statement enabled true)) :
    Parses (bound + 1) (bound' + 1) (statementUpTo enabled (bound + 1))
      (statementUpTo enabled (bound' + 1)) (closed enabled) (Statement enabled true) := by
  refine ⟨?_, [], [], .empty⟩
  have held := known.held
  rw [statementUpTo, statementUpTo]
  refine .current fun tok _ => ?_
  generalize tok.kind = kind
  cases kind with
  | identifier =>
    simp only [exchange, assignment, bind_assoc]
    refine .congr (by decide) (.shift (by decide) fun left named => .current fun next _ => ?_)
      (.following (.identifier _) (.identifier _)) (.following (.identifier _) (.identifier _))
    by_cases swaps : next.kind = .swap
    · simp only [swaps, ↓reduceIte]
      refine (Reads.shift (by decide) fun sign signed => ?_).lower (Nat.le_succ _) (Nat.le_succ _)
      refine (identifier_parses.andThen fun right node behind => ?_).toReads
      exact .finishStatement fun _ => .exchange (.name named) signed behind
    · simp only [swaps, ↓reduceIte]
      simp only [← bind_assoc]
      exact ((assigned_parses named).map (fun _ _ _ => .assignment)
        fun _ _ => .assignment).toReads.narrow fun _ _ => trivial
  | outputWord =>
    refine .shift (by decide) fun word written => (Parses.expect fun opening opened => ?_).toReads
    refine (expression_parses.separated (by decide)).andThen fun args nodes given => ?_
    refine .expect fun closing closes => ?_
    exact .finishStatement fun _ => .output written opened given closes
  | readWord =>
    refine .shift (by decide) fun word written => (Parses.expect fun opening opened => ?_).toReads
    refine (identifier_parses.separated (by decide)).andThen fun args nodes given => ?_
    refine .expect fun closing closes => ?_
    exact .finishStatement fun _ => .read written opened given closes
  | ifWord =>
    refine .shift (by decide) fun word written => ?_
    refine (expression_parses.andThen fun condition node tested => ?_).toReads
    exact .expect fun consequence follows => alternative_parses known written tested follows
  | whileWord =>
    refine .shift (by decide) fun word written => ?_
    refine (expression_parses.andThen fun condition node tested => ?_).toReads
    refine .expect fun consequence follows => ?_
    exact known.map (fun _ _ _ => .whileLoop written tested follows)
      fun _ _ => .whileLoop written tested follows
  | repeatWord =>
    refine .shift (by decide) fun word written => ?_
    refine ((held.separated (by decide)).andThen fun body lists nested => ?_).toReads
    refine .expect fun closing closes => ?_
    refine expression_parses.andThen fun condition node tested => ?_
    exact .finishStatement fun _ => .repeatLoop written nested closes tested
  | forWord =>
    refine .shift (by decide) fun word written => (Parses.expect fun opening opened => ?_).toReads
    refine assignment_parses.andThen fun start startNode begun => ?_
    refine .expect fun first divided => ?_
    refine expression_parses.andThen fun condition node tested => ?_
    refine .expect fun second dividedAgain => ?_
    refine assignment_parses.andThen fun step stepNode stepped => ?_
    refine .expect fun closing closes => ?_
    exact known.map
      (fun _ _ _ => .forLoop written opened begun divided tested dividedAgain stepped closes)
      fun _ _ => .forLoop written opened begun divided tested dividedAgain stepped closes
  | caseWord =>
    refine .shift (by decide) fun word written => ?_
    exact ((caseBody_parses held written).map (fun _ _ _ derived => derived _)
      fun _ _ derived => derived _).toReads
  | returnWord =>
    refine .shift (by decide) fun word written => ?_
    refine (expression_parses.andThen fun value node given => ?_).toReads
    exact .finishStatement fun _ => .returnOf written given
  | beginWord =>
    exact (compound_reads held).widen (fun _ _ _ => .compound) fun _ _ => .compound
  | _ => exact .pure fun _ _ => .empty

/-- Statements are parsed, by induction on the bounds. -/
theorem statementUpTo_parses (bound bound' : Nat) :
    Parses bound bound' (statementUpTo enabled bound) (statementUpTo enabled bound') (closed enabled)
      (Statement enabled true) := by
  induction bound, bound' using bound_induction with
  | zero bound' => exact ⟨.vacuous, [], [], .empty⟩
  | drop bound ih => exact ih.anyTwin.lower (Nat.le_refl _) (Nat.zero_le _)
  | step bound bound' ih => exact statement_step ih

/-- Statements are parsed, with as much fuel as there are tokens. -/
theorem statement_parses :
    Parses limit limit' (statement enabled) (statement enabled) (closed enabled)
      (Statement enabled true) where
  toReads := .ofBounded fun bound bound' _ _ => (statementUpTo_parses bound bound').toReads
  completes := ⟨[], [], .empty⟩

/-- Bodies are parsed. -/
theorem body_parses :
    Parses limit limit' (body enabled) (body enabled) (Body enabled).free (Body enabled) :=
  compound_parses statement_parses.held

end WinZig.Parser
