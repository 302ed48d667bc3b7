import WinZig.Proofs.Parsing.Comparing.Steps
import WinZig.Proofs.Relabelling

/-!
# Programs read side by side

The parsers are followed in both runs of a comparison, from literals up to programs. At every choice
the two runs see tokens of the same kind with the same text, so they choose alike; the values they
give differ only in where their tokens stand.
-/

namespace WinZig.Comparison

variable {start : Kind → Prop}

/-! ## Expressions -/

variable (comparison : Comparison)

/-- Integers run alike. -/
theorem integer_runs : comparison.RunsTo (· = .integer) (Node.moved comparison.onToken)
    Parser.integer Parser.integer := by
  apply Runs.shiftKind rfl
  intro tok known _
  rw [comparison.keeps.text]
  cases Text.int64? tok.text with
  | none => exact .failLast (List.forall_mem_nil _)
  | some value =>
    apply Runs.ite
    · intro _
      have quotes : ∀ text ∈ (Remark.wideInteger tok.text).quotes, comparison.Spells text :=
        List.forall_mem_singleton.mpr ⟨tok, known, rfl⟩
      exact (Runs.note known quotes).andThen fun _ _ _ => .pure rfl
    · exact fun _ => .pure rfl

/-- Characters run alike. -/
theorem character_runs : comparison.RunsTo (· = .character) (Node.moved comparison.onToken)
    Parser.character Parser.character := by
  apply Runs.shiftKind rfl
  intro tok known spelled
  rw [comparison.keeps.text]
  cases value : tok.text.toList[1]? with
  | none => exact .crash known ⟨spelled, Nat.lt_succ_of_le (List.getElem?_eq_none_iff.mp value)⟩
  | some value => exact .pure rfl

/-- Truth values run alike. -/
theorem boolean_runs {kind : Kind} (plain : kind.isPlain = true) (value : Bool) :
    comparison.RunsTo (· = kind) (Node.moved comparison.onToken) (Parser.boolean value)
      (Parser.boolean value) :=
  .shiftKind plain fun _ _ _ => .pure rfl

/-- The token of a name is one that the run comes across. -/
theorem identifier_runs : comparison.Runs start
    (fun node node' => node' = node.moved comparison.onToken ∧ comparison.Known node.token)
    Parser.identifier Parser.identifier := by
  apply (Runs.fixed rfl).map
  rintro tok _ ⟨rfl, known⟩
  rw [comparison.keeps.text]
  exact ⟨rfl, known⟩

/-- Names run alike. -/
theorem name_runs : comparison.RunsTo start (Node.moved comparison.onToken) Parser.identifier
    Parser.identifier := comparison.identifier_runs.weaken fun _ _ => And.left

/-- An operand and what climbs from it, by induction on the bound that both share. -/
theorem operand_climb_run (bound : Nat) :
    comparison.Follows (Node.moved comparison.onToken) (Parser.operand comparison.enabled bound)
        (Parser.operand comparison.enabled' bound) ∧
      ∀ floor left, comparison.Follows (Node.moved comparison.onToken)
        (Parser.climb comparison.enabled bound floor left)
        (Parser.climb comparison.enabled' bound floor (left.moved comparison.onToken)) := by
  induction bound with
  | zero => exact ⟨.fail (List.forall_mem_nil _), fun _ _ => .pure rfl⟩
  | succ bound inductionHypothesis =>
    obtain ⟨operands, climbs⟩ := inductionHypothesis
    have inner : comparison.Follows (Node.moved comparison.onToken)
        (Parser.operand comparison.enabled bound >>= Parser.climb comparison.enabled bound 0)
        (Parser.operand comparison.enabled' bound >>= Parser.climb comparison.enabled' bound 0) := by
      apply operands.andThen
      rintro left _ rfl
      exact climbs 0 left
    have applied (op : Token) : comparison.Follows (Node.moved comparison.onToken)
        (Parser.operand comparison.enabled bound >>= fun node =>
          Pure.pure (Node.unary op .unknown op.kind node))
        (Parser.operand comparison.enabled' bound >>= fun node =>
          Pure.pure (Node.unary (comparison.onToken op) .unknown (comparison.onToken op).kind
            node)) := by
      apply operands.map
      rintro node _ rfl
      rw [comparison.keeps.kind]
      rfl
    constructor
    · rw [Parser.operand, Parser.operand]
      apply Runs.current
      intro tok _ _
      rw [comparison.keeps.kind]
      generalize tok.kind = kind
      cases kind with
      | minus | plus | notWord | succWord | predWord =>
        exact .shiftKind rfl fun op _ _ => applied op
      | chrWord | ordWord => exact .guarded (by decide) fun op _ _ => applied op
      | integer => exact comparison.integer_runs
      | character => exact comparison.character_runs
      | trueWord => exact comparison.boolean_runs rfl true
      | falseWord => exact comparison.boolean_runs rfl false
      | eofWord => exact .guarded (by decide) fun _ _ _ => .pure rfl
      | identifier =>
        rw [← bind_pure Parser.identifier]
        refine .congr (by decide) ?_ (.following (fun _ _ _ _ _ => rfl) (.identifier _))
          (.following (fun _ _ _ _ _ => rfl) (.identifier _))
        apply Runs.shiftKind rfl
        intro callee _ _
        rw [comparison.keeps.text]
        apply Runs.current
        intro next _ _
        rw [comparison.keeps.kind]
        apply Runs.ite
        · intro opens
          rw [opens]
          apply Runs.shiftKind rfl
          intro _ _ _
          apply (Runs.check _).andThen
          rintro empty _ rfl
          have none : comparison.Follows (List.map (Node.moved comparison.onToken))
              (Pure.pure []) (Pure.pure []) := .pure rfl
          apply none.either (inner.separated rfl)
          rintro args _ rfl
          apply (Runs.fixed rfl).map
          intro _ _ _
          rw [Node.moved_call]
        · exact fun _ => .pure rfl
      | openParen =>
        apply Runs.shiftKind rfl
        intro _ _ _
        simp only [← bind_assoc]
        apply inner.andThen
        rintro node _ rfl
        exact (Runs.fixed rfl).map fun _ _ _ => rfl
      | _ => exact .fail (List.forall_mem_nil _)
    · intro floor left
      rw [Parser.climb, Parser.climb]
      apply Runs.current
      intro tok _ _
      rw [comparison.keeps.kind]
      cases binds : tok.kind.level? with
      | none => exact .pure rfl
      | some level =>
        apply Runs.ite
        · exact fun _ => .pure rfl
        · intro _
          apply Runs.shiftKind (Kind.isPlain_of_level binds)
          intro op _ _
          rw [comparison.keeps.kind]
          apply operands.andThen
          rintro first _ rfl
          apply (climbs _ first).andThen
          rintro right _ rfl
          exact climbs floor (.binary op .unknown op.kind left right)

/-- Expressions follow one another. -/
theorem expression_follows : comparison.Follows (Node.moved comparison.onToken)
    (Parser.expression comparison.enabled) (Parser.expression comparison.enabled') := by
  intro cursor cursor' near starts
  obtain ⟨operands, climbs⟩ := comparison.operand_climb_run (cursor.rest.length + 1)
  rw [Parser.expression, Parser.expression, length_rest near]
  apply operands.andThen _ _ _ near starts
  rintro left _ rfl
  exact climbs 0 left

/-! ## Statements -/

/-- The sign of an assignment is asked for with the name in front of it. -/
theorem assignment_follows : comparison.Follows (Node.moved comparison.onToken)
    (Parser.assignment comparison.enabled) (Parser.assignment comparison.enabled') := by
  apply comparison.identifier_runs.andThen
  rintro target _ ⟨rfl, known⟩
  have text : (target.moved comparison.onToken).token.text = target.token.text := by
    cases target with
    | missing => rfl
    | _ => exact comparison.keeps.text _
  rw [text]
  have quotes : ∀ text ∈ (Cause.unfilled (.assignSign target.token.text)).quotes,
      comparison.Spells text := List.forall_mem_singleton.mpr ⟨_, known, rfl⟩
  apply (Runs.expect quotes).andThen
  rintro tok _ ⟨rfl, -⟩
  apply comparison.expression_follows.map
  rintro value _ rfl
  rfl

/-- Values of a case follow one another. -/
theorem caseValue_follows : comparison.Follows (Node.moved comparison.onToken) Parser.caseValue
    Parser.caseValue := by
  apply Runs.current
  intro tok _ _
  rw [comparison.keeps.kind]
  generalize tok.kind = kind
  cases kind with
  | integer => exact comparison.integer_runs
  | character => exact comparison.character_runs
  | trueWord => exact comparison.boolean_runs rfl true
  | falseWord => exact comparison.boolean_runs rfl false
  | identifier => exact comparison.name_runs
  | _ => exact .fail (List.forall_mem_nil _)

section Nested

variable {inner inner' : Parser (List Node)}
  (held : comparison.Follows (List.map (Node.moved comparison.onToken)) inner inner')

include held

/-- Clauses follow one another if their statements do. -/
theorem clause_follows : comparison.Follows (Clause.moved comparison.onToken) (Parser.clause inner)
    (Parser.clause inner') := by
  have closed (low high : Node) : comparison.Follows (Clause.moved comparison.onToken)
      (do let _ ← Parser.expect .caseColon
          let body ← inner
          let _ ← Parser.expect .caseSemicolon
          return (⟨low, high, body⟩ : Clause Node))
      (do let _ ← Parser.expect .caseColon
          let body ← inner'
          let _ ← Parser.expect .caseSemicolon
          return (⟨low.moved comparison.onToken, high.moved comparison.onToken, body⟩ :
            Clause Node)) := by
    apply (Runs.fixed rfl).andThen
    intro _ _ _
    apply held.andThen
    rintro body _ rfl
    exact (Runs.fixed rfl).map fun _ _ _ => rfl
  apply comparison.caseValue_follows.andThen
  rintro low _ rfl
  apply (Runs.accept rfl).andThen
  rintro ranged _ rfl
  apply Runs.ite
  · intro _
    apply comparison.caseValue_follows.andThen
    rintro high _ rfl
    rw [Node.isLiteral_moved, Node.isLiteral_moved]
    apply Runs.ite
    · intro _
      apply Runs.last.andThen
      rintro tok _ ⟨rfl, known⟩
      exact (Runs.note known (List.forall_mem_nil _)).andThen fun _ _ _ => closed low high
    · exact fun _ => closed low high
  · exact fun _ => closed low .missing

/-- Bodies of a case follow one another if their statements do. -/
theorem caseBody_follows (tok : Token) : comparison.Follows (Node.moved comparison.onToken)
    (Parser.caseBody comparison.enabled tok inner)
    (Parser.caseBody comparison.enabled' (comparison.onToken tok) inner') := by
  apply comparison.expression_follows.andThen
  rintro selector _ rfl
  apply (Runs.fixed rfl).andThen
  intro _ _ _
  apply (Runs.many ((comparison.clause_follows held).narrow fun _ _ => trivial)).andThen
  rintro clauses _ rfl
  have closed (otherwise : List Node) : comparison.Follows (Node.moved comparison.onToken)
      (do let _ ← Parser.expect .caseEnd
          return Node.caseOf tok selector clauses otherwise)
      (do let _ ← Parser.expect .caseEnd
          return Node.caseOf (comparison.onToken tok) (selector.moved comparison.onToken)
            (clauses.map (Clause.moved comparison.onToken))
            (otherwise.map (Node.moved comparison.onToken))) :=
    (Runs.fixed rfl).map fun _ _ _ => (Node.moved_caseOf ..).symm
  apply (Runs.accept rfl).andThen
  rintro remains _ rfl
  apply Runs.ite
  · intro _
    apply held.andThen
    rintro body _ rfl
    exact (Runs.accept rfl).andThen fun _ _ _ => closed body
  · exact fun _ => closed []

/-- Compound statements follow one another if the statements in them do. -/
theorem compound_follows : comparison.Follows (List.map (Node.moved comparison.onToken))
    (Parser.compound inner) (Parser.compound inner') := by
  apply (Runs.fixed rfl).andThen
  intro _ _ _
  apply (Runs.separated rfl held).andThen
  rintro lists _ rfl
  exact (Runs.fixed rfl).map fun _ _ _ => List.map_flatten.symm

end Nested

/-- A statement, by induction on the bound of what it holds. -/
theorem statementUpTo_follows (bound : Nat) :
    comparison.Follows (List.map (Node.moved comparison.onToken))
      (Parser.statementUpTo comparison.enabled bound)
      (Parser.statementUpTo comparison.enabled' bound) := by
  have expressions := comparison.expression_follows
  have assignments := comparison.assignment_follows
  induction bound with
  | zero => exact .pure rfl
  | succ bound inductionHypothesis =>
    rw [Parser.statementUpTo, Parser.statementUpTo]
    apply Runs.current
    intro tok _ _
    rw [comparison.keeps.kind]
    generalize tok.kind = kind
    cases kind with
    | identifier =>
      simp only [Parser.exchange, Parser.assignment, bind_assoc]
      refine .congr (by decide) ?_ (.following (.identifier _) (.identifier _))
        (.following (.identifier _) (.identifier _))
      apply Runs.shiftKind rfl
      intro left known _
      dsimp only [Node.token]
      rw [comparison.keeps.text]
      apply Runs.current
      intro next _ _
      rw [comparison.keeps.kind]
      apply Runs.ite
      · intro swaps
        rw [swaps]
        apply Runs.shiftKind rfl
        intro sign _ _
        apply comparison.name_runs.map
        rintro right _ rfl
        rfl
      · intro _
        have quotes : ∀ text ∈ (Cause.unfilled (.assignSign left.text)).quotes,
            comparison.Spells text := List.forall_mem_singleton.mpr ⟨left, known, rfl⟩
        apply (Runs.expect quotes).andThen
        rintro sign _ ⟨rfl, -⟩
        apply expressions.map
        rintro value _ rfl
        rfl
    | outputWord =>
      apply Runs.shiftKind rfl
      intro word _ _
      rw [comparison.keeps.text]
      apply (Runs.fixed rfl).andThen
      intro _ _ _
      apply (Runs.separated rfl expressions).andThen
      rintro args _ rfl
      apply (Runs.fixed rfl).map
      intro _ _ _
      rw [List.map_singleton, Node.moved_call]
    | readWord =>
      apply Runs.shiftKind rfl
      intro word _ _
      rw [comparison.keeps.text]
      apply (Runs.fixed rfl).andThen
      intro _ _ _
      apply (Runs.separated rfl comparison.name_runs).andThen
      rintro args _ rfl
      apply (Runs.fixed rfl).map
      intro _ _ _
      rw [List.map_singleton, Node.moved_call]
    | ifWord =>
      apply Runs.shiftKind rfl
      intro word _ _
      apply expressions.andThen
      rintro condition _ rfl
      apply (Runs.fixed rfl).andThen
      intro _ _ _
      apply inductionHypothesis.andThen
      rintro thenBody _ rfl
      apply (Runs.accept rfl).andThen
      rintro some _ rfl
      have none : comparison.Follows (List.map (Node.moved comparison.onToken))
          (Pure.pure []) (Pure.pure []) := .pure rfl
      apply inductionHypothesis.either none
      rintro elseBody _ rfl
      apply Runs.pure
      rw [List.map_singleton, Node.moved_conditional]
    | whileWord =>
      apply Runs.shiftKind rfl
      intro word _ _
      apply expressions.andThen
      rintro condition _ rfl
      apply (Runs.fixed rfl).andThen
      intro _ _ _
      apply inductionHypothesis.map
      rintro body _ rfl
      rw [List.map_singleton, Node.moved_whileLoop]
    | repeatWord =>
      apply Runs.shiftKind rfl
      intro word _ _
      apply (Runs.separated rfl inductionHypothesis).andThen
      rintro lists _ rfl
      apply (Runs.fixed rfl).andThen
      intro _ _ _
      apply expressions.map
      rintro condition _ rfl
      rw [List.map_singleton, Node.moved_repeatLoop, List.map_flatten]
    | forWord =>
      apply Runs.shiftKind rfl
      intro word _ _
      apply (Runs.fixed rfl).andThen
      intro _ _ _
      apply assignments.andThen
      rintro start _ rfl
      apply (Runs.fixed rfl).andThen
      intro _ _ _
      apply expressions.andThen
      rintro condition _ rfl
      apply (Runs.fixed rfl).andThen
      intro _ _ _
      apply assignments.andThen
      rintro step _ rfl
      apply (Runs.fixed rfl).andThen
      intro _ _ _
      apply inductionHypothesis.map
      rintro body _ rfl
      rw [List.map_singleton, Node.moved_forLoop]
    | caseWord =>
      apply Runs.shiftKind rfl
      intro word _ _
      apply (comparison.caseBody_follows inductionHypothesis word).map
      rintro statement _ rfl
      rfl
    | returnWord =>
      apply Runs.shiftKind rfl
      intro word _ _
      apply expressions.map
      rintro value _ rfl
      rfl
    | beginWord => exact (comparison.compound_follows inductionHypothesis).narrow fun _ _ => trivial
    | _ => exact .pure rfl

/-- Bodies follow one another. -/
theorem body_follows : comparison.Follows (List.map (Node.moved comparison.onToken))
    (Parser.body comparison.enabled) (Parser.body comparison.enabled') := by
  apply comparison.compound_follows
  intro cursor cursor' near starts
  rw [Parser.statement, Parser.statement, length_rest near]
  exact comparison.statementUpTo_follows _ _ _ near starts

/-! ## Declarations and programs -/

/-- References to types follow one another and name the same type. -/
theorem typeReference_follows (known : List String) :
    comparison.Follows id (Parser.typeReference known) (Parser.typeReference known) := by
  apply (Runs.fixed rfl).andThen
  rintro tok _ ⟨rfl, -⟩
  rw [comparison.keeps.text]
  cases Ty.predefined? tok.text with
  | some tag => exact .pure rfl
  | none =>
    apply Runs.ite
    · exact fun _ => .pure rfl
    · exact fun _ => .failLast (List.forall_mem_nil _)

/-- A name that is only noted down. -/
theorem word_follows {slot : Slot} (named : (Cause.unfilled slot).quotes = []) :
    comparison.Follows comparison.onToken (Parser.expect slot) (Parser.expect slot) :=
  (Runs.fixed named).weaken fun _ _ => And.left

/-- Declarations follow one another. -/
theorem declaration_follows (visibility : Visibility) (known : List String) :
    comparison.Follows (List.map (Variable.moved comparison.onToken))
      (Parser.declaration visibility known) (Parser.declaration visibility known) := by
  apply (Runs.separated rfl (comparison.word_follows rfl)).andThen
  rintro names _ rfl
  apply (Runs.fixed rfl).andThen
  intro _ _ _
  apply (comparison.typeReference_follows known).map
  rintro type _ rfl
  simp [Variable.moved, comparison.keeps.text, Function.comp_def]

/-- Lists of variables follow one another. -/
theorem variableList_follows (visibility : Visibility) (known : List String) :
    comparison.Follows (List.map (Variable.moved comparison.onToken))
      (Parser.variableList visibility known) (Parser.variableList visibility known) := by
  have line : comparison.Follows (List.map (Variable.moved comparison.onToken))
      (do let declared ← Parser.declaration visibility known
          let _ ← Parser.expect .declarationSemicolon
          return declared)
      (do let declared ← Parser.declaration visibility known
          let _ ← Parser.expect .declarationSemicolon
          return declared) := by
    apply (comparison.declaration_follows visibility known).andThen
    rintro declared _ rfl
    exact (Runs.fixed rfl).map fun _ _ _ => rfl
  apply (Runs.accept rfl).andThen
  rintro some _ rfl
  apply Runs.ite
  · intro _
    apply line.andThen
    rintro first _ rfl
    apply (Runs.many (line.narrow fun _ _ => trivial)).map
    rintro others _ rfl
    rw [List.map_append, List.map_flatten]
  · exact fun _ => .pure rfl

/-- Definitions of types follow one another. -/
theorem typeDefinition_follows (visibility : Visibility) :
    comparison.Follows (TypeDef.moved comparison.onToken) (Parser.typeDefinition visibility)
      (Parser.typeDefinition visibility) := by
  apply (Runs.fixed rfl).andThen
  rintro tok _ ⟨rfl, -⟩
  apply (Runs.fixed rfl).andThen
  intro _ _ _
  apply (Runs.fixed rfl).andThen
  intro _ _ _
  apply (Runs.separated rfl (comparison.word_follows rfl)).andThen
  rintro values _ rfl
  apply (Runs.fixed rfl).andThen
  intro _ _ _
  apply (Runs.fixed rfl).map
  intro _ _ _
  simp [TypeDef.moved, comparison.keeps.text, Function.comp_def]

/-- Sections of types follow one another. -/
theorem types_follows (visibility : Visibility) :
    comparison.Follows (List.map (TypeDef.moved comparison.onToken)) (Parser.types visibility)
      (Parser.types visibility) := by
  apply (Runs.accept rfl).andThen
  rintro some _ rfl
  apply Runs.ite
  · intro _
    apply (comparison.typeDefinition_follows visibility).andThen
    rintro first _ rfl
    apply (Runs.many ((comparison.typeDefinition_follows visibility).narrow
      fun _ _ => trivial)).map
    rintro others _ rfl
    rfl
  · exact fun _ => .pure rfl

/-- Where types stand does not matter to their names. -/
theorem names_moved (onToken : Token → Token) (definitions : List TypeDef) :
    (definitions.map (TypeDef.moved onToken)).map TypeDef.name = definitions.map TypeDef.name := by
  simp [TypeDef.moved]

/-- Functions run alike. -/
theorem function_runs (known : List String) :
    comparison.RunsTo (· = .functionWord) (Function.moved comparison.onToken)
      (Parser.function comparison.enabled known) (Parser.function comparison.enabled' known) := by
  apply Runs.shiftKind rfl
  intro _ _ _
  apply (Runs.fixed rfl).andThen
  rintro tok _ ⟨rfl, spelled⟩
  rw [comparison.keeps.text]
  apply (Runs.fixed rfl).andThen
  intro _ _ _
  apply (Runs.check _).andThen
  rintro none _ rfl
  have absent : comparison.Follows (List.map (List.map (Variable.moved comparison.onToken)))
      (Pure.pure []) (Pure.pure []) := .pure rfl
  apply absent.either (Runs.separated rfl (comparison.declaration_follows _ known))
  rintro params _ rfl
  apply (Runs.fixed rfl).andThen
  intro _ _ _
  apply (Runs.fixed rfl).andThen
  intro _ _ _
  apply (comparison.typeReference_follows known).andThen
  rintro result _ rfl
  apply (Runs.fixed rfl).andThen
  intro _ _ _
  apply (comparison.types_follows _).andThen
  rintro types _ rfl
  rw [names_moved]
  apply (comparison.variableList_follows _ _).andThen
  rintro locals _ rfl
  apply comparison.body_follows.andThen
  rintro body _ rfl
  apply (Runs.fixed rfl).andThen
  rintro closing _ ⟨rfl, -⟩
  rw [comparison.keeps.text]
  apply Runs.ite
  · intro _
    rw [Parser.failLast_bind, Parser.failLast_bind]
    exact .failLast (List.forall_mem_singleton.mpr ⟨tok, spelled, rfl⟩)
  · intro _
    apply (Runs.fixed rfl).map
    intro _ _ _
    rw [Function.moved, List.map_flatten]

/-- Programs follow one another. -/
theorem program_follows : comparison.Follows (Program.moved comparison.onToken)
    (Parser.program comparison.enabled) (Parser.program comparison.enabled') := by
  apply (Runs.fixed rfl).andThen
  intro _ _ _
  apply (Runs.fixed rfl).andThen
  rintro tok _ ⟨rfl, opening⟩
  apply (Runs.fixed rfl).andThen
  intro _ _ _
  apply (comparison.types_follows _).andThen
  rintro types _ rfl
  rw [names_moved, comparison.keeps.text]
  apply (comparison.variableList_follows _ _).andThen
  rintro vars _ rfl
  have functions : comparison.RunsTo (fun kind => (kind == .functionWord) = true)
      (Function.moved comparison.onToken)
      (Parser.function comparison.enabled (types.map TypeDef.name))
      (Parser.function comparison.enabled' (types.map TypeDef.name)) :=
    (comparison.function_runs _).narrow fun _ => eq_of_beq
  apply (Runs.many functions).andThen
  rintro functions _ rfl
  apply comparison.body_follows.andThen
  rintro body _ rfl
  apply (Runs.fixed rfl).andThen
  rintro closing _ ⟨rfl, spelled⟩
  rw [comparison.keeps.text]
  have ending (result : Program) : comparison.Follows (Program.moved comparison.onToken)
      (do let _ ← Parser.expect .programDot
          if !(← Parser.check .endOfInput) then Parser.fail .trailing
          return result)
      (do let _ ← Parser.expect .programDot
          if !(← Parser.check .endOfInput) then Parser.fail .trailing
          return result.moved comparison.onToken) := by
    apply (Runs.fixed rfl).andThen
    intro _ _ _
    apply (Runs.check _).andThen
    rintro atEnd _ rfl
    apply Runs.ite
    · intro _
      rw [Parser.fail_bind, Parser.fail_bind]
      exact .fail (List.forall_mem_nil _)
    · exact fun _ => .pure rfl
  apply Runs.ite
  · intro _
    have quotes : ∀ text ∈ (Remark.programClosedAs tok.text closing.text).quotes,
        comparison.Spells text :=
      List.forall_mem_cons.mpr ⟨⟨tok, opening, rfl⟩,
        List.forall_mem_singleton.mpr ⟨closing, spelled, rfl⟩⟩
    exact (Runs.note spelled quotes).andThen fun _ _ _ => ending _
  · exact fun _ => ending _

end WinZig.Comparison
