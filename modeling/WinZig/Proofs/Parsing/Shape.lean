import WinZig.Proofs.Parsing.Derivations

/-!
# Trees as they are read

A tree type that holds expressions and statements alike admits many trees that no source stands for.
The predicates here say which trees can be read: expressions stand where expressions belong,
statements where statements belong, nothing is missing except the upper bound of a case clause, and
no tag is written yet.

What may be spelled in a name, an integer or a character is left open. A lexicon settles it, so that
the same predicates serve trees read from arbitrary tokens and trees that can be written as text.

Every program that is derived has this shape, by induction over its derivation: whatever a lexicon
admits of the tokens it admits of the tree.
-/

namespace WinZig.Shape

open Grammar

/-- What the leaves of a tree may hold, and the names under which procedures are called. -/
structure Lexicon where
  name : String → Prop
  integer : Int → Prop
  character : Char → Prop
  output : String → Prop
  read : String → Prop

/-- The lexicon that admits everything. -/
def Lexicon.free : Lexicon :=
  ⟨fun _ => True, fun _ => True, fun _ => True, fun _ => True, fun _ => True⟩

/-- The prefix operators. -/
def prefixes : List Kind :=
  [.minus, .plus, .notWord, .succWord, .predWord, .chrWord, .ordWord]

section Bodies

variable (lexicon : Lexicon)

/-- The name of a variable. -/
inductive IsName : Node → Prop
  | name {tok text} (spelled : lexicon.name text) : IsName (.name tok .unknown text)

/-- Literals. -/
inductive IsLiteral : Node → Prop
  | integer {tok value} (fits : lexicon.integer value) : IsLiteral (.integer tok .unknown value)
  | character {tok value} (quoted : lexicon.character value) :
      IsLiteral (.character tok .unknown value)
  | boolean {tok value} : IsLiteral (.boolean tok .unknown value)

/-- Expressions. -/
inductive IsExpression : Node → Prop
  | literal {node} (written : IsLiteral lexicon node) : IsExpression node
  | name {node} (written : IsName lexicon node) : IsExpression node
  | call {tok callee args} (named : lexicon.name callee) (given : ∀ arg ∈ args, IsExpression arg) :
      IsExpression (.call tok .unknown callee args)
  | binary {tok op level left right} (binds : op ∈ operators level) (before : IsExpression left)
      (behind : IsExpression right) : IsExpression (.binary tok .unknown op left right)
  | unary {tok op operand} (applies : op ∈ prefixes) (only : IsExpression operand) :
      IsExpression (.unary tok .unknown op operand)

/-- The values of case clauses. -/
inductive IsCaseValue : Node → Prop
  | literal {node} (written : IsLiteral lexicon node) : IsCaseValue node
  | name {node} (written : IsName lexicon node) : IsCaseValue node

/-- Case values are expressions. -/
theorem IsCaseValue.expression {node : Node} (value : IsCaseValue lexicon node) :
    IsExpression lexicon node := by
  cases value with
  | literal written => exact .literal written
  | name written => exact .name written

/-- An expression stands for something. -/
theorem IsExpression.present {node : Node} (expression : IsExpression lexicon node) :
    node.isPresent = true := by
  cases expression with
  | literal written => cases written <;> rfl
  | name written => cases written; rfl
  | call | binary | unary => rfl

/-- Assignments. -/
inductive IsAssignment : Node → Prop
  | assign {tok target value} (named : IsName lexicon target) (written : IsExpression lexicon value) :
      IsAssignment (.assign tok target value)

/-- Statements. -/
inductive IsStatement : Node → Prop
  | assignment {node} (assigned : IsAssignment lexicon node) : IsStatement node
  | exchange {tok left right} (before : IsName lexicon left) (behind : IsName lexicon right) :
      IsStatement (.swap tok left right)
  | output {tok callee args} (named : lexicon.output callee) (some : args ≠ [])
      (given : ∀ arg ∈ args, IsExpression lexicon arg) : IsStatement (.call tok .unknown callee args)
  | read {tok callee args} (named : lexicon.read callee) (some : args ≠ [])
      (given : ∀ arg ∈ args, IsName lexicon arg) : IsStatement (.call tok .unknown callee args)
  | conditional {tok condition thenBody elseBody} (tested : IsExpression lexicon condition)
      (held : ∀ stmt ∈ thenBody, IsStatement stmt) (failed : ∀ stmt ∈ elseBody, IsStatement stmt) :
      IsStatement (.conditional tok condition thenBody elseBody)
  | forLoop {tok start condition step body} (begun : IsAssignment lexicon start)
      (tested : IsExpression lexicon condition) (stepped : IsAssignment lexicon step)
      (held : ∀ stmt ∈ body, IsStatement stmt) : IsStatement (.forLoop tok start condition step body)
  | whileLoop {tok condition body} (tested : IsExpression lexicon condition)
      (held : ∀ stmt ∈ body, IsStatement stmt) : IsStatement (.whileLoop tok condition body)
  | repeatLoop {tok body condition} (held : ∀ stmt ∈ body, IsStatement stmt)
      (tested : IsExpression lexicon condition) : IsStatement (.repeatLoop tok body condition)
  | caseOf {tok selector clauses otherwise} (selected : IsExpression lexicon selector)
      (lows : ∀ clause ∈ clauses, IsCaseValue lexicon (Clause.low clause))
      (highs : ∀ clause ∈ clauses,
        Clause.high clause = .missing ∨ IsCaseValue lexicon (Clause.high clause))
      (held : ∀ clause ∈ clauses, ∀ stmt ∈ Clause.body clause, IsStatement stmt)
      (remaining : ∀ stmt ∈ otherwise, IsStatement stmt) :
      IsStatement (.caseOf tok selector clauses otherwise)
  | returnOf {tok value} (given : IsExpression lexicon value) : IsStatement (.returnOf tok value)

/-- A clause of the shape that a case statement wants. -/
structure IsClause (clause : Clause Node) : Prop where
  low : IsCaseValue lexicon clause.low
  high : clause.high = .missing ∨ IsCaseValue lexicon clause.high
  held : ∀ stmt ∈ clause.body, IsStatement lexicon stmt

end Bodies

/-! ## Declarations -/

section Declarations

variable (lexicon : Lexicon) (known : List String)

/-- A reference to a predefined type, or to a known one. -/
inductive IsTypeRef : TypeRef → Prop
  | predefined {text tag} (found : (text, tag) ∈ primitives) : IsTypeRef (.plain tag)
  | declared {text} (other : ∀ tag, (text, tag) ∉ primitives) (listed : text ∈ known) :
      IsTypeRef (.named text)

/-- A declared variable or parameter, visible where its place says. -/
structure IsVariable (visibility : Visibility) (declared : Variable) : Prop where
  name : lexicon.name declared.name
  type : IsTypeRef known declared.type
  place : declared.visibility = visibility

/-- A declared type, which has at least one member and is visible where its place says. -/
structure IsTypeDef (visibility : Visibility) (definition : TypeDef) : Prop where
  name : lexicon.name definition.name
  some : definition.values ≠ []
  values : ∀ value ∈ definition.values, lexicon.name value
  place : definition.visibility = visibility

/-- A function. Its parameters and its result may name the types of the program, its variables those
of the function as well. -/
structure IsFunction (function : Function) : Prop where
  name : lexicon.name function.name
  result : IsTypeRef known function.result
  params : ∀ param ∈ function.params, IsVariable lexicon known .withinFunction param
  types : ∀ definition ∈ function.types, IsTypeDef lexicon .withinFunction definition
  locals : ∀ declared ∈ function.locals,
    IsVariable lexicon (function.types.map TypeDef.name ++ known) .withinFunction declared
  body : ∀ stmt ∈ function.body, IsStatement lexicon stmt

/-- A program. -/
structure IsProgram (program : Program) : Prop where
  name : lexicon.name program.name
  endName : lexicon.name program.endName
  types : ∀ definition ∈ program.types, IsTypeDef lexicon .everywhere definition
  vars : ∀ declared ∈ program.vars,
    IsVariable lexicon (program.types.map TypeDef.name) .everywhere declared
  functions : ∀ function ∈ program.functions,
    IsFunction lexicon (program.types.map TypeDef.name) function
  body : ∀ stmt ∈ program.body, IsStatement lexicon stmt

end Declarations

/-! ## Derived trees -/

/-- What a token holds, if it holds anything, a lexicon admits. -/
structure Lexicon.Admits (lexicon : Lexicon) (tok : Token) : Prop where
  name : tok.kind = .identifier → lexicon.name tok.text
  integer : tok.kind = .integer → ∀ value ∈ Text.int64? tok.text, lexicon.integer value
  character : tok.kind = .character → ∀ value ∈ tok.text.toList[1]?, lexicon.character value
  output : tok.kind = .outputWord → lexicon.output tok.text
  read : tok.kind = .readWord → lexicon.read tok.text

/-- The lexicon that admits everything admits every token. -/
theorem Lexicon.free_admits (tok : Token) : Lexicon.free.Admits tok :=
  ⟨fun _ => trivial, fun _ _ _ => trivial, fun _ _ _ => trivial, fun _ => trivial,
    fun _ => trivial⟩

/-- What holds of the values of tokens that a lexicon admits. -/
abbrev Spelled (lexicon : Lexicon) {α : Type} (holds : α → Prop) : Rule α :=
  fun tokens value => (∀ tok ∈ tokens, lexicon.Admits tok) → holds value

section Derived

variable {lexicon : Lexicon} {enabled : Feature → Bool} {known : List String}
  {visibility : Visibility} {tokens : List Token} {node : Node}

/-- What holds of the values of a list with marks. -/
theorem spelled_list {α : Type} {mark : Kind} {holds : α → Prop} {values : List α}
    (list : Separated mark (Spelled lexicon holds) tokens values)
    (admitted : ∀ tok ∈ tokens, lexicon.Admits tok) : ∀ value ∈ values, holds value := by
  intro value member
  obtain ⟨part, held, within⟩ := list.mem value member
  exact held fun tok among => admitted tok (within among)

/-- What holds of the values of a list without marks. -/
theorem spelled_repeated {α : Type} {holds : α → Prop} {values : List α}
    (list : Repeated (Spelled lexicon holds) tokens values)
    (admitted : ∀ tok ∈ tokens, lexicon.Admits tok) : ∀ value ∈ values, holds value := by
  intro value member
  obtain ⟨part, held, within⟩ := list.mem value member
  exact held fun tok among => admitted tok (within among)

/-- A derived name has the shape of one. -/
theorem name_shape (written : Name tokens node) : Spelled lexicon (IsName lexicon) tokens node := by
  intro admitted
  cases written with
  | name spelled => exact .name ((admitted _ (List.mem_singleton_self _)).name spelled)

/-- A derived literal has the shape of one. -/
theorem literal_shape (written : Literal tokens node) :
    Spelled lexicon (IsLiteral lexicon) tokens node := by
  intro admitted
  cases written with
  | integer spelled fits =>
    exact .integer ((admitted _ (List.mem_singleton_self _)).integer spelled _ fits)
  | character spelled quoted =>
    refine .character ((admitted _ (List.mem_singleton_self _)).character spelled _ ?_)
    rw [quoted]
    rfl
  | truth | falsity => exact .boolean

/-- A derived case value has the shape of one. -/
theorem caseValue_shape (derived : CaseValue tokens node) :
    Spelled lexicon (IsCaseValue lexicon) tokens node := by
  intro admitted
  cases derived with
  | literal written => exact .literal (literal_shape written admitted)
  | name written => exact .name (name_shape written admitted)

/-- The upper bound of a derived clause is missing or has the shape of a value. -/
theorem upperBound_shape (derived : UpperBound tokens node) :
    Spelled lexicon (fun node => node = .missing ∨ IsCaseValue lexicon node) tokens node := by
  intro admitted
  cases derived with
  | absent => exact .inl rfl
  | present ranged written =>
    exact .inr (caseValue_shape written (List.forall_mem_cons.mp admitted).2)

/-- An operator that is applied to an operand is one of the prefix operators. -/
theorem mem_prefixes_of_isUnary {kind : Kind} (applies : isUnary enabled kind = true) :
    kind ∈ prefixes := by
  cases kind <;> first | decide | cases applies

/-- The productions of expressions keep the shape. -/
theorem shape_keptByExpressions : KeptByExpressions enabled
    (Spelled lexicon (IsExpression lexicon)) where
  literal written admitted := .literal (literal_shape written admitted)
  endOfFile _ _ := .literal .boolean
  name written admitted := .name (name_shape written admitted)
  call named _ given _ admitted := by
    simp only [List.forall_mem_cons, List.forall_mem_append] at admitted
    obtain ⟨callee, -, args, -⟩ := admitted
    exact .call (callee.name named) fun arg member => spelled_list (given.mem member) args arg member
  group _ enclosed _ admitted := by
    simp only [List.forall_mem_cons, List.forall_mem_append] at admitted
    exact enclosed admitted.2.1
  unary applies only admitted :=
    .unary (mem_prefixes_of_isUnary applies) (only (List.forall_mem_cons.mp admitted).2)
  binary binds before behind admitted := by
    simp only [List.forall_mem_cons, List.forall_mem_append] at admitted
    exact .binary binds (before admitted.1) (behind admitted.2.2)

/-- The productions of statements keep the shape. -/
theorem shape_kept : Kept enabled (Spelled lexicon (IsExpression lexicon))
    (Spelled lexicon (IsAssignment lexicon))
    (Spelled lexicon fun nodes => ∀ node ∈ nodes, IsStatement lexicon node)
    (Spelled lexicon (IsClause lexicon)) where
  toKeptByExpressions := shape_keptByExpressions
  assignment named _ written admitted := by
    simp only [List.forall_mem_cons, List.forall_mem_append] at admitted
    exact .assign (name_shape named admitted.1) (written admitted.2.2)
  empty _ := List.forall_mem_nil _
  assigned assigned admitted := List.forall_mem_singleton.mpr (.assignment (assigned admitted))
  exchange before _ behind admitted := by
    simp only [List.forall_mem_cons, List.forall_mem_append] at admitted
    exact List.forall_mem_singleton.mpr
      (.exchange (name_shape before admitted.1) (name_shape behind admitted.2.2))
  output written _ given _ admitted := by
    simp only [List.forall_mem_cons, List.forall_mem_append] at admitted
    obtain ⟨word, -, args, -⟩ := admitted
    exact List.forall_mem_singleton.mpr
      (.output (word.output written) given.ne_nil (spelled_list given args))
  read written _ given _ admitted := by
    simp only [List.forall_mem_cons, List.forall_mem_append] at admitted
    obtain ⟨word, -, args, -⟩ := admitted
    exact List.forall_mem_singleton.mpr
      (.read (word.read written) given.ne_nil (spelled_list (given.imp fun _ _ => name_shape) args))
  ifThen _ tested _ held admitted := by
    simp only [List.forall_mem_cons, List.forall_mem_append] at admitted
    obtain ⟨-, condition, -, body⟩ := admitted
    exact List.forall_mem_singleton.mpr
      (.conditional (tested condition) (held body) (List.forall_mem_nil _))
  ifThenElse _ tested _ held _ failed admitted := by
    simp only [List.forall_mem_cons, List.forall_mem_append] at admitted
    obtain ⟨-, condition, -, body, -, other⟩ := admitted
    exact List.forall_mem_singleton.mpr
      (.conditional (tested condition) (held body) (failed other))
  whileLoop _ tested _ held admitted := by
    simp only [List.forall_mem_cons, List.forall_mem_append] at admitted
    obtain ⟨-, condition, -, body⟩ := admitted
    exact List.forall_mem_singleton.mpr (.whileLoop (tested condition) (held body))
  repeatLoop _ held _ tested admitted := by
    simp only [List.forall_mem_cons, List.forall_mem_append] at admitted
    obtain ⟨-, body, -, condition⟩ := admitted
    exact List.forall_mem_singleton.mpr (.repeatLoop
      (List.forall_mem_flatten.mpr (spelled_list held body)) (tested condition))
  forLoop _ _ begun _ tested _ stepped _ held admitted := by
    simp only [List.forall_mem_cons, List.forall_mem_append] at admitted
    obtain ⟨-, -, start, -, condition, -, step, -, body⟩ := admitted
    exact List.forall_mem_singleton.mpr
      (.forLoop (begun start) (tested condition) (stepped step) (held body))
  caseOf _ selected _ each remaining _ admitted := by
    simp only [List.forall_mem_cons, List.forall_mem_append] at admitted
    obtain ⟨-, selector, -, clauses, rest, -⟩ := admitted
    have shaped := spelled_repeated each clauses
    exact List.forall_mem_singleton.mpr (.caseOf (selected selector)
      (fun clause member => (shaped clause member).low)
      (fun clause member => (shaped clause member).high)
      (fun clause member => (shaped clause member).held)
      fun stmt member => remaining.mem member rest stmt member)
  returnOf _ given admitted :=
    List.forall_mem_singleton.mpr (.returnOf (given (List.forall_mem_cons.mp admitted).2))
  compound _ held _ admitted := by
    simp only [List.forall_mem_cons, List.forall_mem_append] at admitted
    exact List.forall_mem_flatten.mpr (spelled_list held admitted.2.1)
  clause value upper _ held _ admitted := by
    simp only [List.forall_mem_cons, List.forall_mem_append] at admitted
    obtain ⟨low, bound, -, body, -⟩ := admitted
    exact ⟨caseValue_shape value low, upperBound_shape upper bound, held body⟩
  otherwise _ held admitted := held (List.forall_mem_cons.mp admitted).2
  ended held _ admitted := held (List.forall_mem_append.mp admitted).1

/-- A derived type reference has the shape of one. -/
theorem typeName_shape {type : TypeRef} (derived : TypeName known tokens type) :
    IsTypeRef known type := by
  cases derived with
  | predefined spelled found => exact .predefined found
  | declared spelled other listed => exact .declared other listed

/-- Derived declarations have the shape of such. -/
theorem declaration_shape {vars : List Variable}
    (derived : Declaration visibility known tokens vars) :
    Spelled lexicon (∀ declared ∈ ·, IsVariable lexicon known visibility declared) tokens vars := by
  intro admitted
  cases derived with
  | typed listed divided named =>
    intro declared member
    obtain ⟨tok, among, rfl⟩ := List.mem_map.mp member
    obtain ⟨part, ⟨spelled⟩, within⟩ := listed.mem tok among
    have here : lexicon.Admits tok :=
      admitted tok (List.mem_append_left _ (within (List.mem_singleton_self tok)))
    exact ⟨here.name spelled, typeName_shape named, rfl⟩

/-- The variables of a derived section have the shape of such. -/
theorem variables_shape {vars : List Variable} (derived : Variables visibility known tokens vars) :
    Spelled lexicon (∀ declared ∈ ·, IsVariable lexicon known visibility declared) tokens vars := by
  have closed {tokens : List Token} {vars : List Variable}
      (derived : DeclarationLine visibility known tokens vars) : Spelled lexicon
        (∀ declared ∈ ·, IsVariable lexicon known visibility declared) tokens vars := by
    intro admitted
    cases derived with
    | line declared ended => exact declaration_shape declared (List.forall_mem_append.mp admitted).1
  intro admitted
  cases derived with
  | listed written line lines =>
    simp only [List.forall_mem_cons, List.forall_mem_append] at admitted
    obtain ⟨-, first, rest⟩ := admitted
    exact List.forall_mem_append.mpr ⟨closed line first,
      List.forall_mem_flatten.mpr (spelled_repeated (lines.imp fun _ _ => closed) rest)⟩

/-- A derived type definition has the shape of one. -/
theorem typeDefinition_shape {definition : TypeDef}
    (derived : TypeDefinition visibility tokens definition) :
    Spelled lexicon (IsTypeDef lexicon visibility) tokens definition := by
  intro admitted
  cases derived with
  | enumerated named signed opened listed closed ended =>
    simp only [List.forall_mem_cons, List.forall_mem_append] at admitted
    obtain ⟨name, -, -, values, -⟩ := admitted
    refine ⟨name.name named, fun none => listed.ne_nil (List.map_eq_nil_iff.mp none), ?_, rfl⟩
    intro value member
    obtain ⟨tok, among, rfl⟩ := List.mem_map.mp member
    obtain ⟨part, ⟨spelled⟩, within⟩ := listed.mem tok among
    exact (values tok (within (List.mem_singleton_self tok))).name spelled

/-- The types of a derived section have the shape of such. -/
theorem types_shape {definitions : List TypeDef} (derived : Types visibility tokens definitions) :
    Spelled lexicon (∀ definition ∈ ·, IsTypeDef lexicon visibility definition) tokens
      definitions := by
  intro admitted
  cases derived with
  | listed written definition others =>
    simp only [List.forall_mem_cons, List.forall_mem_append] at admitted
    obtain ⟨-, first, rest⟩ := admitted
    exact List.forall_mem_cons.mpr ⟨typeDefinition_shape definition first,
      spelled_repeated (others.imp fun _ _ => typeDefinition_shape) rest⟩

/-- A derived function has the shape of one. -/
theorem function_shape {function : Function}
    (derived : FunctionDefinition enabled known tokens function) :
    Spelled lexicon (IsFunction lexicon known) tokens function := by
  intro admitted
  cases derived with
  | function written named opened declared closed divided resulting headed defined listed
      performed =>
    simp only [List.forall_mem_cons, List.forall_mem_append] at admitted
    obtain ⟨-, name, -, params, -, -, -, -, types, vars, body, -⟩ := admitted
    constructor
    case name => exact name.name named
    case result => exact typeName_shape resulting
    case params =>
      exact List.forall_mem_flatten.mpr fun vars member =>
        spelled_list ((declared.mem member).imp fun _ _ => declaration_shape) params vars member
    case types =>
      exact fun definition member => types_shape (defined.mem member) types definition member
    case locals =>
      exact fun declared member => variables_shape (listed.mem member) vars declared member
    case body => exact shape_kept.body performed body

/-- A derived program has the shape of trees as they are read, and its leaves hold what a lexicon
admits of its tokens. -/
theorem program_shape {program : Program} (derived : ProgramText enabled tokens program)
    (admitted : ∀ tok ∈ tokens, lexicon.Admits tok) : IsProgram lexicon program := by
  cases derived with
  | program written named divided defined listed declared performed closedAs =>
    simp only [List.forall_mem_cons, List.forall_mem_append] at admitted
    obtain ⟨-, name, -, types, vars, functions, body, endName, -⟩ := admitted
    constructor
    case name => exact name.name named
    case endName => exact endName.name closedAs
    case types =>
      exact fun definition member => types_shape (defined.mem member) types definition member
    case vars =>
      exact fun declared member => variables_shape (listed.mem member) vars declared member
    case functions => exact spelled_repeated (declared.imp fun _ _ => function_shape) functions
    case body => exact shape_kept.body performed body

end Derived

end WinZig.Shape
