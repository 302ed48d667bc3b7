import WinZig.Parser.Expression

/-!
# Statements

A statement reads as a list of nodes: a compound statement flattens into the statements around it,
and the empty statement, which starts with no token of its own, yields none.

Every statement that holds another one consumes a token first, so the number of remaining tokens
bounds the depth of the recursion.
-/

namespace WinZig.Parser

variable (enabled : Feature → Bool)

/-- An assignment. -/
def assignment : Parser Node := do
  let target ← identifier
  let tok ← expect (.assignSign target.token.text)
  return .assign tok target (← expression enabled)

/-- The exchange of two variables. -/
def exchange : Parser Node := do
  let left ← identifier
  let tok ← shift
  return .swap tok left (← identifier)

/-- A value that a case clause may name. -/
def caseValue : Parser Node := do
  match (← current).kind with
  | .integer => integer
  | .character => character
  | .trueWord => boolean true
  | .falseWord => boolean false
  | .identifier => identifier
  | _ => fail .noCaseValue

/-- A case clause, given how its statement is read. -/
def clause (inner : Parser (List Node)) : Parser (Clause Node) := do
  let low ← caseValue
  let high ←
    if ← accept .dotDot then
      let high ← caseValue
      if !(low.isLiteral && high.isLiteral) then note (← last) .looseRange
      pure high
    else
      pure .missing
  let _ ← expect .caseColon
  let body ← inner
  let _ ← expect .caseSemicolon
  return ⟨low, high, body⟩

/-- A case statement behind its first word, given how the statements in it are read. -/
def caseBody (tok : Token) (inner : Parser (List Node)) : Parser Node := do
  let selector ← expression enabled
  let _ ← expect .caseOf
  let clauses ← many (fun kind => kind != .otherwiseWord && kind != .endWord) (clause inner)
  let otherwise ←
    if ← accept .otherwiseWord then
      let body ← inner
      let _ ← accept .semicolon
      pure body
    else
      pure []
  let _ ← expect .caseEnd
  return .caseOf tok selector clauses otherwise

/-- A compound statement, given how the statements in it are read. -/
def compound (inner : Parser (List Node)) : Parser (List Node) := do
  let _ ← expect .bodyBegin
  let stmts ← separated .semicolon inner
  let _ ← expect .bodyEnd
  return stmts.flatten

/-- A statement that holds statements no deeper than `bound`. -/
def statementUpTo : (bound : Nat) → Parser (List Node)
  | 0 => return []
  | bound + 1 => do
    let inner := statementUpTo bound
    match (← current).kind with
    | .identifier =>
      if (← following).kind = .swap then return [← exchange]
      else return [← assignment enabled]
    | .outputWord =>
      let tok ← shift
      let _ ← expect .outputOpen
      let args ← separated .comma (expression enabled)
      let _ ← expect .outputClose
      return [.call tok .unknown tok.text args]
    | .readWord =>
      let tok ← shift
      let _ ← expect .readOpen
      let args ← separated .comma identifier
      let _ ← expect .readClose
      return [.call tok .unknown tok.text args]
    | .ifWord =>
      let tok ← shift
      let condition ← expression enabled
      let _ ← expect .ifThen
      let thenBody ← inner
      let elseBody ← if ← accept .elseWord then inner else pure []
      return [.conditional tok condition thenBody elseBody]
    | .whileWord =>
      let tok ← shift
      let condition ← expression enabled
      let _ ← expect .whileDo
      return [.whileLoop tok condition (← inner)]
    | .repeatWord =>
      let tok ← shift
      let body ← separated .semicolon inner
      let _ ← expect .repeatUntil
      return [.repeatLoop tok body.flatten (← expression enabled)]
    | .forWord =>
      let tok ← shift
      let _ ← expect .forOpen
      let start ← assignment enabled
      let _ ← expect .forStartSemicolon
      let condition ← expression enabled
      let _ ← expect .forConditionSemicolon
      let step ← assignment enabled
      let _ ← expect .forClose
      return [.forLoop tok start condition step (← inner)]
    | .caseWord =>
      let tok ← shift
      return [← caseBody enabled tok inner]
    | .returnWord =>
      let tok ← shift
      return [.returnOf tok (← expression enabled)]
    | .beginWord => compound inner
    | _ => return []

/-- A statement. -/
def statement : Parser (List Node) := fun cursor =>
  statementUpTo enabled (cursor.rest.length + 1) cursor

/-- The body of a function or a program. -/
def body : Parser (List Node) := compound (statement enabled)

end WinZig.Parser
