import WinZig.Checker.Program

/-!
# Trees with other names

Renaming a program changes every name that it declares or uses: variables, parameters, functions,
members of types, and the types themselves. Tokens and tags stay as they are, and so does the name of
the program, which nothing refers to.

The results of checking mention names too. A renamed complaint is of the same kind, stands at the same
place and holds the same tags; only the names in it are others.
-/

namespace WinZig

section Renamed

variable (rename : String → String)

namespace Node

mutual

/-- A node with other names. -/
def renamed : Node → Node
  | .missing => .missing
  | .integer tok tag value => .integer tok tag value
  | .boolean tok tag value => .boolean tok tag value
  | .character tok tag value => .character tok tag value
  | .name tok tag text => .name tok tag (rename text)
  | .call tok tag callee args => .call tok tag (rename callee) (renamedAll args)
  | .binary tok tag op left right => .binary tok tag op (renamed left) (renamed right)
  | .unary tok tag op operand => .unary tok tag op (renamed operand)
  | .assign tok target value => .assign tok (renamed target) (renamed value)
  | .swap tok left right => .swap tok (renamed left) (renamed right)
  | .conditional tok condition thenBody elseBody =>
    .conditional tok (renamed condition) (renamedAll thenBody) (renamedAll elseBody)
  | .forLoop tok start condition step body =>
    .forLoop tok (renamed start) (renamed condition) (renamed step) (renamedAll body)
  | .whileLoop tok condition body => .whileLoop tok (renamed condition) (renamedAll body)
  | .repeatLoop tok body condition => .repeatLoop tok (renamedAll body) (renamed condition)
  | .caseOf tok selector clauses otherwise =>
    .caseOf tok (renamed selector) (renamedClauses clauses) (renamedAll otherwise)
  | .returnOf tok value => .returnOf tok (renamed value)

/-- Some nodes with other names. -/
def renamedAll : List Node → List Node
  | [] => []
  | node :: rest => renamed node :: renamedAll rest

/-- Some clauses with other names. -/
def renamedClauses : List (Clause Node) → List (Clause Node)
  | [] => []
  | ⟨low, high, body⟩ :: rest =>
    ⟨renamed low, renamed high, renamedAll body⟩ :: renamedClauses rest

end

end Node

/-- A clause with other names. -/
def Clause.renamed (clause : Clause Node) : Clause Node where
  low := clause.low.renamed rename
  high := clause.high.renamed rename
  body := clause.body.map (Node.renamed rename)

/-- A reference to a type under its other name. -/
def TypeRef.renamed : TypeRef → TypeRef
  | plain tag => plain tag
  | named name => named (rename name)

/-- A declaration under another name. -/
def Variable.renamed (declared : Variable) : Variable :=
  { declared with name := rename declared.name, type := declared.type.renamed rename }

/-- The definition of a type with other names. -/
def TypeDef.renamed (definition : TypeDef) : TypeDef :=
  { definition with name := rename definition.name, values := definition.values.map rename }

/-- A function with other names. -/
def Function.renamed (function : Function) : Function where
  name := rename function.name
  result := function.result.renamed rename
  params := function.params.map (Variable.renamed rename)
  types := function.types.map (TypeDef.renamed rename)
  locals := function.locals.map (Variable.renamed rename)
  body := function.body.map (Node.renamed rename)
  tok := function.tok

/-- A program with other names. -/
def Program.renamed (program : Program) : Program :=
  { program with
    types := program.types.map (TypeDef.renamed rename)
    vars := program.vars.map (Variable.renamed rename)
    functions := program.functions.map (Function.renamed rename)
    body := program.body.map (Node.renamed rename) }

/-- A complaint with other names. -/
def Complaint.renamed : Complaint → Complaint
  | undeclaredVariable name => undeclaredVariable (rename name)
  | undeclaredFunction name => undeclaredFunction (rename name)
  | argumentCount callee => argumentCount (rename callee)
  | argumentType expected found callee => argumentType expected found (rename callee)
  | assignmentTypes left right => assignmentTypes left right
  | swapTypes left right => swapTypes left right
  | condition statement => condition statement
  | returnType found wanted function => returnType found wanted (rename function)
  | literalSelector => literalSelector
  | caseValueType found selector => caseValueType found selector
  | rangeStartType found selector => rangeStartType found selector
  | rangeEndType found selector => rangeEndType found selector
  | needsIntegers op => needsIntegers op
  | needsOrdered op => needsOrdered op
  | needsSame op => needsSame op
  | needsBooleans op => needsBooleans op
  | needsOperand op wanted => needsOperand op wanted
  | redeclaredGlobal name => redeclaredGlobal (rename name)
  | redeclaredLocal name => redeclaredLocal (rename name)

/-- A complaint with other names, at the same place. -/
def Diagnostic.renamed (diagnostic : Diagnostic) : Diagnostic :=
  { diagnostic with complaint := diagnostic.complaint.renamed rename }

/-- A remark on a declaration, with other names. Remarks on what was read hold no declared name. -/
def Remark.renamed : Remark → Remark
  | shadows name => shadows (rename name)
  | noReturn function => noReturn (rename function)
  | remark => remark

/-- A notice with other names, on the same token. -/
def Notice.renamed (notice : Notice) : Notice :=
  { notice with remark := notice.remark.renamed rename }

/-- A symbol under another name. -/
def Symbol.renamed (sym : Symbol) : Symbol :=
  { sym with name := rename sym.name, decl := sym.decl.renamed rename }

/-- The function around a point, under another name. -/
def Owner.renamed (owner : Owner) : Owner := { owner with name := rename owner.name }

/-- A scope with other names. -/
def Scope.renamed (scope : Scope) : Scope where
  globals := scope.globals.map (Symbol.renamed rename)
  locals := scope.locals.map (Symbol.renamed rename)
  owner := scope.owner.map (Owner.renamed rename)

/-- The state of checking with other names. -/
def Checker.renamed (checker : Checker) : Checker where
  scope := checker.scope.renamed rename
  diagnostics := checker.diagnostics.map (Diagnostic.renamed rename)
  shown := checker.shown
  notices := checker.notices.map (Notice.renamed rename)

/-- A visit with other names. -/
def Checker.Visited.renamed (visited : Checker.Visited) : Checker.Visited where
  node := visited.node.renamed rename
  tag := visited.tag
  diagnostics := visited.diagnostics.map (Diagnostic.renamed rename)

end Renamed

/-! ## Renamed trees -/

namespace Node

variable {rename : String → String}

/-- Nodes are renamed one by one. -/
theorem renamedAll_eq_map (nodes : List Node) :
    renamedAll rename nodes = nodes.map (renamed rename) := by
  induction nodes with
  | nil => rfl
  | cons node rest inductionHypothesis => rw [renamedAll, inductionHypothesis, List.map_cons]

/-- Clauses are renamed one by one. -/
theorem renamedClauses_eq_map (clauses : List (Clause Node)) :
    renamedClauses rename clauses = clauses.map (Clause.renamed rename) := by
  induction clauses with
  | nil => rfl
  | cons clause rest inductionHypothesis =>
    rw [renamedClauses, inductionHypothesis, List.map_cons, renamedAll_eq_map, Clause.renamed]

/-- Renaming leaves out no node. -/
@[simp] theorem isPresent_renamed (node : Node) :
    (node.renamed rename).isPresent = node.isPresent := by
  cases node <;> rfl

/-- Renaming keeps literals. -/
@[simp] theorem isLiteral_renamed (node : Node) :
    (node.renamed rename).isLiteral = node.isLiteral := by
  cases node <;> rfl

/-- Renaming keeps returns. -/
@[simp] theorem isReturn_renamed (node : Node) :
    (node.renamed rename).isReturn = node.isReturn := by
  cases node <;> rfl

/-- Renaming reaches the children. -/
theorem children_renamed (node : Node) :
    (node.renamed rename).children = node.children.map (renamed rename) := by
  cases node with
  | caseOf tok selector clauses otherwise =>
    simp [renamed, children, renamedAll_eq_map, renamedClauses_eq_map, Clause.renamed,
      List.flatMap_map, List.map_flatMap]
  | call | conditional | forLoop | whileLoop | repeatLoop =>
    simp [renamed, children, renamedAll_eq_map]
  | _ => rfl

/-- A complaint about a renamed node is the renamed complaint about the node: it stands at the same
place. -/
theorem complain_renamed (node : Node) (complaint : Complaint) :
    (node.renamed rename).complain (complaint.renamed rename) =
      (node.complain complaint).renamed rename := by
  cases node <;> rfl

end Node

/-- Renaming the name of a type keeps what it resolves to. -/
@[simp] theorem TypeRef.resolved_renamed (rename : String → String) (type : TypeRef) :
    (type.renamed rename).resolved = type.resolved := by
  cases type <;> rfl

end WinZig
