import WinZig.Layout.Outline
import WinZig.Text.Quoted
import WinZig.Tree.Program

/-!
# Listing of a tree

The full tree of a program as an outline: every part with its name and its type, in a fixed order.
Parts that have a written form of their own (positions, kinds, tags, type references) are shown by
it. Empty lists are shown as absent.
-/

namespace WinZig.Listing

open Layout (Outline)

/-- A part that is shown by a written form. -/
def shown (type text : String) : Outline := .line s!"({type}) {text}"

/-- A text, with its number of bytes unless it is empty. -/
def textPart (text : String) : Outline :=
  let size := if text.isEmpty then "" else s!"(len={text.utf8ByteSize}) "
  .line s!"(string) {size}{Text.quote text}"

/-- A record shown in place. -/
def record (type : String) (parts : List (String × Outline)) : Outline :=
  .block s!"({type}) \x7b" (parts.map fun (label, part) => (label ++ ": ", part)) "\x7d"

/-- A record shown behind a reference. -/
def referenced (type : String) (parts : List (String × Outline)) : Outline :=
  .block s!"(*{type})(\x7b" (parts.map fun (label, part) => (label ++ ": ", part)) "\x7d)"

/-- A list, shown as absent if it is empty. -/
def listPart (type : String) (items : List Outline) : Outline :=
  if items.isEmpty then shown type "<nil>"
  else .block s!"({type}) (len={items.length}) \x7b" (items.map fun item => ("", item)) "\x7d"

/-- A token. -/
def tokenPart (tok : Token) : Outline :=
  record "token.Token" [
    ("Type", shown "token.Type" tok.kind.name),
    ("Value", textPart tok.text),
    ("FileIndex", shown "int" (toString tok.file)),
    ("Line", shown "int" (toString tok.line)),
    ("Column", shown "int" (toString tok.column)),
    ("Len", shown "int" (toString tok.length))]

/-- A node, given its form, what is particular to that form, and its tag. -/
def nodePart (node : Node) (form : Form) (data : String) (parts : List (String × Outline))
    (tag : Ty) : Outline :=
  referenced "ast.Node" [
    ("Type", shown "ast.NodeType" form.label),
    ("Tok", tokenPart node.token),
    ("Pos", shown "ast.Pos" node.position.render),
    ("Data", record s!"ast.{data}" parts),
    ("Typ", shown "ast.Type" tag.name)]

mutual

/-- The outline of a node. -/
def node : Node → Outline
  | .missing => .line "(*ast.Node)(<nil>)"
  | n@(.integer _ tag value) =>
    nodePart n .integer "IntegerLitNode" [("Value", shown "int64" (toString value))] tag
  | n@(.boolean _ tag value) =>
    nodePart n .boolean "BooleanLitNode" [("Value", shown "bool" (toString value))] tag
  | n@(.character _ tag value) =>
    nodePart n .character "CharLitNode" [("Value", shown "int32" (toString value.toNat))] tag
  | n@(.name _ tag name) => nodePart n .name "IdentNode" [("Name", textPart name)] tag
  | n@(.call _ tag callee args) =>
    nodePart n .call "CallNode"
      [("Name", textPart callee), ("Args", listPart "[]*ast.Node" (nodes args))] tag
  | n@(.binary _ tag op left right) =>
    nodePart n .binary "BinaryOpNode"
      [("Op", shown "token.Type" op.name), ("Left", node left), ("Right", node right)] tag
  | n@(.unary _ tag op operand) =>
    nodePart n .unary "UnaryOpNode"
      [("Op", shown "token.Type" op.name), ("Operand", node operand)] tag
  | n@(.assign _ target value) =>
    nodePart n .assign "AssignNode" [("Target", node target), ("Value", node value)] .unknown
  | n@(.swap _ left right) =>
    nodePart n .swap "SwapNode" [("Left", node left), ("Right", node right)] .unknown
  | n@(.conditional _ condition thenBody elseBody) =>
    nodePart n .conditional "IfNode"
      [("Cond", node condition), ("Then", listPart "[]*ast.Node" (nodes thenBody)),
        ("Else", listPart "[]*ast.Node" (nodes elseBody))] .unknown
  | n@(.forLoop _ start condition step body) =>
    nodePart n .forLoop "ForNode"
      [("Init", node start), ("Cond", node condition), ("Step", node step),
        ("Body", listPart "[]*ast.Node" (nodes body))] .unknown
  | n@(.whileLoop _ condition body) =>
    nodePart n .whileLoop "WhileNode"
      [("Cond", node condition), ("Body", listPart "[]*ast.Node" (nodes body))] .unknown
  | n@(.repeatLoop _ body condition) =>
    nodePart n .repeatLoop "RepeatUntilNode"
      [("Body", listPart "[]*ast.Node" (nodes body)), ("Cond", node condition)] .unknown
  | n@(.caseOf _ selector clauses otherwise) =>
    nodePart n .caseOf "CaseNode"
      [("Selector", node selector), ("Clauses", listPart "[]ast.CaseClause" (clauseParts clauses)),
        ("Otherwise", listPart "[]*ast.Node" (nodes otherwise))] .unknown
  | n@(.returnOf _ value) => nodePart n .returnOf "ReturnNode" [("Value", node value)] .unknown

/-- The outlines of some nodes. -/
def nodes : List Node → List Outline
  | [] => []
  | first :: rest => node first :: nodes rest

/-- The outlines of some case clauses. -/
def clauseParts : List (Clause Node) → List Outline
  | [] => []
  | ⟨low, high, body⟩ :: rest =>
    record "ast.CaseClause" [
      ("Value", node low), ("High", node high), ("Body", listPart "[]*ast.Node" (nodes body))] ::
      clauseParts rest

end

/-- A declared variable. -/
def variablePart (declared : Variable) : Outline :=
  referenced "ast.Variable" [
    ("Name", textPart declared.name),
    ("Type", shown "ast.TypeRef" declared.type.render),
    ("Tok", tokenPart declared.tok),
    ("Pos", shown "ast.Pos" declared.tok.start.render),
    ("Scope", shown "ast.Scope" declared.visibility.name)]

/-- A declared type. -/
def typePart (definition : TypeDef) : Outline :=
  referenced "ast.UserTypeDef" [
    ("Name", textPart definition.name),
    ("Values", listPart "[]string" (definition.values.map textPart)),
    ("Tok", tokenPart definition.tok),
    ("Pos", shown "ast.Pos" definition.tok.start.render),
    ("Scope", shown "ast.Scope" definition.visibility.name)]

/-- Some declared variables. -/
def variableParts (declared : List Variable) : Outline :=
  listPart "[]*ast.Variable" (declared.map variablePart)

/-- Some declared types. -/
def typeParts (definitions : List TypeDef) : Outline :=
  listPart "[]*ast.UserTypeDef" (definitions.map typePart)

/-- A declared function. -/
def functionPart (function : Function) : Outline :=
  referenced "ast.Function" [
    ("Name", textPart function.name),
    ("ReturnType", shown "ast.TypeRef" function.result.render),
    ("Params", variableParts function.params),
    ("Types", typeParts function.types),
    ("Locals", variableParts function.locals),
    ("Body", listPart "[]*ast.Node" (nodes function.body)),
    ("Tok", tokenPart function.tok),
    ("Pos", shown "ast.Pos" function.tok.start.render)]

/-- A program. -/
def programPart (program : Program) : Outline :=
  referenced "ast.Program" [
    ("Name", textPart program.name),
    ("EndName", textPart program.endName),
    ("Types", typeParts program.types),
    ("Vars", variableParts program.vars),
    ("Functions", listPart "[]*ast.Function" (program.functions.map functionPart)),
    ("Body", listPart "[]*ast.Node" (nodes program.body)),
    ("Tok", tokenPart program.tok),
    ("Pos", shown "ast.Pos" program.tok.start.render)]

/-- The nodes of all bodies: those of the functions in order, then that of the program. -/
def bodyNodes (program : Program) : List Node :=
  Node.walkAll (fun _ => true) (program.functions.flatMap Function.body ++ program.body)

/-- The listing of a program; there may be none. -/
def tree : Option Program → String
  | none => "<nil program>\n"
  | some program =>
    s!"program {program.name}: {program.functions.length} functions, " ++
      s!"{(bodyNodes program).length} nodes\n" ++ (programPart program).render 0 ++ "\n"

end WinZig.Listing
