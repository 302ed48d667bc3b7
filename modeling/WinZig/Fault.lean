import WinZig.Token.Basic
import WinZig.Settings.Switch

/-!
# Faults

A source is refused by the first thing in it that cannot be read. A fault is that thing: the token
it is blamed on and the cause. Causes are data; how a cause reads is decided here and nowhere else.

Many causes are of one shape: at some place in the grammar one particular kind of token has to
stand. Such a place is a `Slot`. It determines both the kind that fills it and the sentence that
says the kind was missing.
-/

namespace WinZig

/-- A place in the grammar that only one kind of token can fill. -/
inductive Slot where
  | programWord
  | programName
  | programColon
  | programEndName
  | programDot
  | functionName
  | parametersOpen
  | parametersClose
  | resultColon
  | headerSemicolon
  | functionEndName
  | functionSemicolon
  | typeName
  | typeEquals
  | valuesOpen
  | valueName
  | valuesClose
  | typeSemicolon
  | declarationSemicolon
  | variableName
  | variableColon
  | typeReference
  | bodyBegin
  | bodyEnd
  | outputOpen
  | outputClose
  | readOpen
  | readClose
  | ifThen
  | whileDo
  | repeatUntil
  | forOpen
  | forStartSemicolon
  | forConditionSemicolon
  | forClose
  | identifier
  /-- The sign of an assignment to the variable of that name. -/
  | assignSign (target : String)
  | caseOf
  | caseColon
  | caseSemicolon
  | caseEnd
  | groupClose
  | argumentsClose
deriving DecidableEq, Repr

namespace Slot

/-- The kind of token that fills a slot. -/
def kind : Slot → Kind
  | programWord => .programWord
  | programName | programEndName | functionName | functionEndName | typeName | valueName
  | variableName | typeReference | identifier => .identifier
  | programColon | resultColon | variableColon | caseColon => .colon
  | programDot => .dot
  | parametersOpen | valuesOpen | outputOpen | readOpen | forOpen => .openParen
  | parametersClose | valuesClose | outputClose | readClose | forClose | groupClose
  | argumentsClose => .closeParen
  | headerSemicolon | functionSemicolon | typeSemicolon | declarationSemicolon
  | forStartSemicolon | forConditionSemicolon | caseSemicolon => .semicolon
  | typeEquals => .equal
  | bodyBegin => .beginWord
  | bodyEnd | caseEnd => .endWord
  | ifThen => .thenWord
  | whileDo => .doWord
  | repeatUntil => .untilWord
  | assignSign _ => .assign
  | caseOf => .ofWord

/-- The sentence that says what was expected in a slot. -/
def expectation : Slot → String
  | programWord => "Expected 'program' at the start of the source."
  | programName => "Expected program name after 'program'."
  | programColon => "Expected ':' after program name."
  | programEndName => "Expected program name after 'end'."
  | programDot => "Expected '.' after program name."
  | functionName => "Expected function name after 'function'."
  | parametersOpen => "Expected '(' after function name."
  | parametersClose => "Expected ')' after parameters."
  | resultColon => "Expected ':' before the return type."
  | headerSemicolon => "Expected ';' after the function header."
  | functionEndName => "Expected function name after 'end'."
  | functionSemicolon => "Expected ';' after function end."
  | typeName => "Expected type name after 'type'."
  | typeEquals => "Expected '=' after type name."
  | valuesOpen => "Expected '(' to open the value list."
  | valueName => "Expected a value name."
  | valuesClose => "Expected ')' to close the value list."
  | typeSemicolon => "Expected ';' after type definition."
  | declarationSemicolon => "Expected ';' after declaration."
  | variableName => "Expected variable name."
  | variableColon => "Expected ':' before the type name."
  | typeReference => "Expected a type name."
  | bodyBegin => "Expected 'begin'."
  | bodyEnd => "Expected 'end' to close 'begin'."
  | outputOpen => "Expected '(' after 'output'."
  | outputClose => "Expected ')' after output list."
  | readOpen => "Expected '(' after 'read'."
  | readClose => "Expected ')' after read list."
  | ifThen => "Expected 'then' after if condition."
  | whileDo => "Expected 'do' after while condition."
  | repeatUntil => "Expected 'until' after repeat body."
  | forOpen => "Expected '(' after 'for'."
  | forStartSemicolon => "Expected ';' after for initializer."
  | forConditionSemicolon => "Expected ';' after for condition."
  | forClose => "Expected ')' after for step."
  | identifier => "Expected an identifier."
  | assignSign target => s!"Expected ':=' after '{target}'."
  | caseOf => "Expected 'of' after case expression."
  | caseColon => "Expected ':' after case value."
  | caseSemicolon => "Expected ';' after case clause."
  | caseEnd => "Expected 'end' to close 'case'."
  | groupClose => "Expected ')' after expression."
  | argumentsClose => "Expected ')' after function arguments."

end Slot

/-- Why a source is refused. -/
inductive Cause where
  /-- A character starts no token. -/
  | unknownCharacter (c : Char)
  /-- A block comment is never closed. -/
  | openComment
  /-- A quote is not followed by one character and a second quote. -/
  | malformedCharacter
  /-- A string is not closed on its line. -/
  | openText
  /-- Another kind of token stands where a slot has to be filled. -/
  | unfilled (slot : Slot)
  /-- No expression starts with the token. -/
  | noExpression
  /-- No case value starts with the token. -/
  | noCaseValue
  /-- A string stands where an expression starts. -/
  | textOperand
  /-- The token needs a feature that is switched off. -/
  | forbidden (feature : Feature)
  /-- The value of an integer literal does not fit in 64 bits. -/
  | integerRange
  /-- The name is neither a predefined type nor a declared one. -/
  | unknownType
  /-- The name after a function's `end` is not the name of the function. -/
  | closedAs (opened : String)
  /-- Something follows the end of the program. -/
  | trailing
deriving DecidableEq, Repr

/-- A token as a message shows it. -/
def Token.described (tok : Token) : String :=
  if tok.kind = .endOfInput then "end of input" else tok.text

/-- How a cause reads when it is blamed on a token. -/
def Cause.message (tok : Token) : Cause → String
  | .unknownCharacter c => s!"Unknown token: '{c}'"
  | .openComment => "Unterminated block comment"
  | .malformedCharacter =>
    "Malformed character literal: expected exactly one character between quotes"
  | .openText => "Unterminated string literal"
  | .unfilled slot => s!"{slot.expectation} Found '{tok.described}'."
  | .noExpression => s!"Expected an expression. Found '{tok.described}'."
  | .noCaseValue => s!"Expected a case value. Found '{tok.described}'."
  | .textOperand => "String literals are not supported in expressions."
  | .forbidden .endOfFileLiteral =>
    "'eof' is forbidden by the current feature set (-Fno-eof-literal)."
  | .forbidden feature =>
    s!"'{tok.text}' is forbidden by the current feature set (-Fno-{feature.name})."
  | .integerRange => s!"Integer literal out of range: '{tok.text}'"
  | .unknownType => s!"Unknown type: '{tok.text}'"
  | .closedAs opened => s!"function name mismatch: '{opened}' closed as '{tok.text}'"
  | .trailing => s!"Unexpected '{tok.text}' after the end of the program."

/-- The first thing in a source that cannot be read. -/
structure Fault where
  token : Token
  cause : Cause
deriving DecidableEq, Repr

namespace Fault

/-- What is wrong, without the place. -/
def message (fault : Fault) : String := fault.cause.message fault.token

/-- What is wrong, after the line and first column of the token it is blamed on. -/
def render (fault : Fault) : String := s!":{fault.token.start.render}: {fault.message}"

end Fault

end WinZig
