import WinZig.Parser.Statement
import WinZig.Settings.Basic
import WinZig.Tree.Program

/-!
# Declarations and programs

A type name in a declaration is predefined or was declared before: the types of the program are
known from their definition on, the types of a function in the rest of that function only. The
names known at a point are passed along as a list.
-/

namespace WinZig.Parser

variable (enabled : Feature → Bool)

/-- The name of a type, which has to be known. -/
def typeReference (known : List String) : Parser TypeRef := do
  let tok ← expect .typeReference
  match Ty.predefined? tok.text with
  | some tag => return .plain tag
  | none => if known.contains tok.text then return .named tok.text else failLast .unknownType

/-- Names with one type, as one declaration for each name. -/
def declaration (visibility : Visibility) (known : List String) : Parser (List Variable) := do
  let names ← separated .comma (expect .variableName)
  let _ ← expect .variableColon
  let type ← typeReference known
  return names.map fun tok => { name := tok.text, type, tok, visibility }

/-- The variable declarations of a program or a function, if there are any. -/
def variableList (visibility : Visibility) (known : List String) : Parser (List Variable) := do
  let line : Parser (List Variable) := do
    let declared ← declaration visibility known
    let _ ← expect .declarationSemicolon
    return declared
  if ← accept .varWord then
    let first ← line
    let others ← many (· == .identifier) line
    return first ++ others.flatten
  else
    return []

/-- The definition of an enumerated type. -/
def typeDefinition (visibility : Visibility) : Parser TypeDef := do
  let tok ← expect .typeName
  let _ ← expect .typeEquals
  let _ ← expect .valuesOpen
  let values ← separated .comma (expect .valueName)
  let _ ← expect .valuesClose
  let _ ← expect .typeSemicolon
  return { name := tok.text, values := values.map Token.text, tok, visibility }

/-- The type definitions of a program or a function, if there are any. -/
def types (visibility : Visibility) : Parser (List TypeDef) := do
  if ← accept .typeWord then
    let first ← typeDefinition visibility
    let others ← many (· == .identifier) (typeDefinition visibility)
    return first :: others
  else
    return []

/-- A function. `known` are the types of the program. -/
def function (known : List String) : Parser Function := do
  let _ ← shift
  let tok ← expect .functionName
  let _ ← expect .parametersOpen
  let params ←
    if ← check .closeParen then pure []
    else separated .semicolon (declaration .withinFunction known)
  let _ ← expect .parametersClose
  let _ ← expect .resultColon
  let result ← typeReference known
  let _ ← expect .headerSemicolon
  let types ← types .withinFunction
  let locals ← variableList .withinFunction (types.map TypeDef.name ++ known)
  let body ← body enabled
  let closing ← expect .functionEndName
  if closing.text ≠ tok.text then failLast (.closedAs tok.text)
  let _ ← expect .functionSemicolon
  return { name := tok.text, result, params := params.flatten, types, locals, body, tok }

/-- A program up to the end of the tokens. -/
def program : Parser Program := do
  let _ ← expect .programWord
  let tok ← expect .programName
  let _ ← expect .programColon
  let types ← types .everywhere
  let known := types.map TypeDef.name
  let vars ← variableList .everywhere known
  let functions ← many (· == .functionWord) (function enabled known)
  let body ← body enabled
  let closing ← expect .programEndName
  if closing.text ≠ tok.text then note closing (.programClosedAs tok.text closing.text)
  let _ ← expect .programDot
  if !(← check .endOfInput) then fail .trailing
  return { name := tok.text, endName := closing.text, types, vars, functions, body, tok }

end WinZig.Parser

namespace WinZig

/-- Reads a stream of tokens as a program. -/
def Program.ofTokens (settings : Settings) (tokens : List Token) : Reply Program :=
  Parser.program settings.feature (.ofTokens tokens settings.warning)

end WinZig
