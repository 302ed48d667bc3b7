import WinZig.Parser.Expression
import WinZig.Proofs.Relabelling

/-!
# Programs as text

A tree is written as a sequence of lexemes, and the lexemes as text. Every list of statements is
written between `begin` and `end`, an alternative that does nothing is left out, and parentheses
stand only where an operand binds less tightly than its place demands.
-/

namespace WinZig

namespace Rendering

/-- A reserved word or a mark. -/
def spelled (kind : Kind) : Lexeme := ⟨kind, kind.name⟩

/-- A name. -/
def named (name : String) : Lexeme := ⟨.identifier, name⟩

/-- Some sequences with a mark between them. -/
def separated (mark : Kind) : List (List Lexeme) → List Lexeme
  | [] => []
  | [only] => only
  | first :: others => first ++ spelled mark :: separated mark others

/-- A sequence in parentheses. -/
def grouped (lexemes : List Lexeme) : List Lexeme :=
  spelled .openParen :: (lexemes ++ [spelled .closeParen])

/-- Some statements as one body. -/
def enclosed (statements : List (List Lexeme)) : List Lexeme :=
  spelled .beginWord :: (separated .semicolon statements ++ [spelled .endWord])

/-! ## Expressions -/

/-- The level that no binary operator reaches. -/
def tightest : Nat := 61

mutual

/-- An expression in a place that wants operators of at least the level `floor`. -/
def expression (floor : Nat) : Node → List Lexeme
  | .integer _ _ value => [⟨.integer, toString value.toNat⟩]
  | .boolean _ _ value => [spelled (if value then .trueWord else .falseWord)]
  | .character _ _ value => [⟨.character, String.ofList ['\'', value, '\'']⟩]
  | .name _ _ name => [named name]
  | .call _ _ callee args => named callee :: grouped (separated .comma (expressions args))
  | .binary _ _ op left right =>
    let level := op.level?.getD 0
    let operation := expression level left ++ spelled op :: expression (level + 1) right
    if floor ≤ level then operation else grouped operation
  | .unary _ _ op operand => spelled op :: expression tightest operand
  | _ => []

/-- Some expressions, each on its own. -/
def expressions : List Node → List (List Lexeme)
  | [] => []
  | node :: rest => expression 0 node :: expressions rest

end

/-- The upper bound of a case clause. -/
def upperBound (high : Node) : List Lexeme :=
  if high.isPresent then spelled .dotDot :: expression 0 high else []

/-! ## Statements -/

mutual

/-- A statement. -/
def statement : Node → List Lexeme
  | .assign _ target value => expression 0 target ++ spelled .assign :: expression 0 value
  | .swap _ left right => expression 0 left ++ spelled .swap :: expression 0 right
  | .call _ _ callee args =>
    spelled (if callee = Kind.outputWord.name then .outputWord else .readWord) ::
      grouped (separated .comma (expressions args))
  | .conditional _ condition thenBody elseBody =>
    spelled .ifWord :: (expression 0 condition ++ spelled .thenWord ::
      (enclosed (statements thenBody) ++ if elseBody.isEmpty then [] else
        spelled .elseWord :: enclosed (statements elseBody)))
  | .forLoop _ start condition step body =>
    spelled .forWord :: spelled .openParen :: (statement start ++ spelled .semicolon ::
      (expression 0 condition ++ spelled .semicolon :: (statement step ++ spelled .closeParen ::
        enclosed (statements body))))
  | .whileLoop _ condition body =>
    spelled .whileWord :: (expression 0 condition ++ spelled .doWord :: enclosed (statements body))
  | .repeatLoop _ body condition =>
    spelled .repeatWord :: (enclosed (statements body) ++ spelled .untilWord ::
      expression 0 condition)
  | .caseOf _ selector listed otherwise =>
    spelled .caseWord :: (expression 0 selector ++ spelled .ofWord :: ((clauses listed).flatten ++
      ((if otherwise.isEmpty then [] else
        spelled .otherwiseWord :: enclosed (statements otherwise)) ++ [spelled .endWord])))
  | .returnOf _ value => spelled .returnWord :: expression 0 value
  | _ => []

/-- Some statements, each on its own. -/
def statements : List Node → List (List Lexeme)
  | [] => []
  | stmt :: rest => statement stmt :: statements rest

/-- Some case clauses, each on its own. -/
def clauses : List (Clause Node) → List (List Lexeme)
  | [] => []
  | ⟨low, high, body⟩ :: rest =>
    (expression 0 low ++ (upperBound high ++ spelled .colon ::
      (enclosed (statements body) ++ [spelled .semicolon]))) :: clauses rest

end

/-! ## Declarations -/

/-- A variable or a parameter with its type. -/
def declaration (declared : Variable) : List Lexeme :=
  [named declared.name, spelled .colon, named declared.type.render]

/-- A section of variables, if there are any. -/
def variableSection (vars : List Variable) : List Lexeme :=
  if vars.isEmpty then [] else
    spelled .varWord :: vars.flatMap fun declared => declaration declared ++ [spelled .semicolon]

/-- The definition of a type. -/
def typeDefinition (definition : TypeDef) : List Lexeme :=
  named definition.name :: spelled .equal :: spelled .openParen ::
    (separated .comma (definition.values.map fun value => [named value]) ++
      [spelled .closeParen, spelled .semicolon])

/-- A section of types, if there are any. -/
def typeSection (types : List TypeDef) : List Lexeme :=
  if types.isEmpty then [] else spelled .typeWord :: types.flatMap typeDefinition

/-- A function. -/
def function (function : Function) : List Lexeme :=
  spelled .functionWord :: named function.name :: spelled .openParen ::
    (separated .semicolon (function.params.map declaration) ++ spelled .closeParen ::
      spelled .colon :: named function.result.render :: spelled .semicolon ::
      (typeSection function.types ++ (variableSection function.locals ++
        (enclosed (statements function.body) ++ [named function.name, spelled .semicolon]))))

/-- A whole program. -/
def program (program : Program) : List Lexeme :=
  spelled .programWord :: named program.name :: spelled .colon ::
    (typeSection program.types ++ (variableSection program.vars ++
      (program.functions.flatMap function ++ (enclosed (statements program.body) ++
        [named program.endName, spelled .dot]))))

end Rendering

end WinZig
