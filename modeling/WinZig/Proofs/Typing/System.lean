import WinZig.Tree.Program

/-!
# The type system

What it means for a program to be well typed, said without a checker: there is no order of visits, no
table that grows, no tag that is still empty, and no complaint. Names are bound in the order in which
they are declared, and the last binding of a name is the one that counts.

Members of enumerated types are integers, and a variable of such a type is one too. The two
procedures take any arguments of any types. A function may be called from its own body on, and its
own name is a variable inside it.
-/

namespace WinZig.Typing

/-- What can be called. -/
inductive Callable where
  /-- A procedure, which takes any arguments. -/
  | procedure (result : Ty)
  | function (params : List Ty) (result : Ty)
deriving DecidableEq, Repr

/-- The type of a call. -/
def Callable.result : Callable → Ty
  | procedure result | function _ result => result

/-- What is declared around a statement, each list in the order of declaration. -/
structure Context where
  vars : List (String × Ty)
  callables : List (String × Callable)
  /-- The type of the values to be returned, inside a function. -/
  result : Option Ty := none

/-- The last binding of a name gives it its meaning. -/
def Means {α : Type} (bindings : List (String × α)) (name : String) (meaning : α) : Prop :=
  ∃ before behind, bindings = before ++ (name, meaning) :: behind ∧
    ∀ binding ∈ behind, binding.1 ≠ name

/-! ## Expressions -/

/-- The types of binary operations: the operands, then the result. -/
inductive Binary : Kind → Ty → Ty → Ty → Prop
  | arithmetic {op} (applied : op ∈ [Kind.plus, .minus, .star, .slash, .modWord]) :
      Binary op .integer .integer .integer
  | ordered {op type} (applied : op ∈ [Kind.less, .lessEqual, .greater, .greaterEqual])
      (orderly : type ∈ [Ty.integer, .char]) : Binary op type type .boolean
  | equality {op type} (applied : op ∈ [Kind.equal, .notEqual]) : Binary op type type .boolean
  | logical {op} (applied : op ∈ [Kind.andWord, .orWord]) : Binary op .boolean .boolean .boolean

/-- The types of prefix operations: the operand, then the result. -/
inductive Unary : Kind → Ty → Ty → Prop
  | arithmetic {op} (applied : op ∈ [Kind.minus, .plus, .succWord, .predWord]) :
      Unary op .integer .integer
  | negation : Unary .notWord .boolean .boolean
  | ordinal : Unary .ordWord .char .integer
  | character : Unary .chrWord .integer .char

/-- The type of an expression. Tags that are written in the expression do not matter. -/
inductive HasType (context : Context) : Node → Ty → Prop
  | integer {tok tag value} : HasType context (.integer tok tag value) .integer
  | boolean {tok tag value} : HasType context (.boolean tok tag value) .boolean
  | character {tok tag value} : HasType context (.character tok tag value) .char
  | name {tok tag name type} (bound : Means context.vars name type) :
      HasType context (.name tok tag name) type
  | procedure {tok tag callee args types result}
      (bound : Means context.callables callee (.procedure result))
      (count : args.length = types.length)
      (given : ∀ pair ∈ args.zip types, HasType context pair.1 pair.2) :
      HasType context (.call tok tag callee args) result
  | function {tok tag callee args params result}
      (bound : Means context.callables callee (.function params result))
      (count : args.length = params.length)
      (given : ∀ pair ∈ args.zip params, HasType context pair.1 pair.2) :
      HasType context (.call tok tag callee args) result
  | binary {tok tag op left leftType right rightType type} (before : HasType context left leftType)
      (behind : HasType context right rightType) (rule : Binary op leftType rightType type) :
      HasType context (.binary tok tag op left right) type
  | unary {tok tag op operand operandType type} (only : HasType context operand operandType)
      (rule : Unary op operandType type) : HasType context (.unary tok tag op operand) type

/-! ## Statements -/

/-- The statements in which nothing is wrong. -/
inductive IsValid (context : Context) : Node → Prop
  | assign {tok target value type} (before : HasType context target type)
      (behind : HasType context value type) : IsValid context (.assign tok target value)
  | swap {tok left right type} (before : HasType context left type)
      (behind : HasType context right type) : IsValid context (.swap tok left right)
  | call {tok tag callee args type} (called : HasType context (.call tok tag callee args) type) :
      IsValid context (.call tok tag callee args)
  | conditional {tok condition thenBody elseBody} (tested : HasType context condition .boolean)
      (held : ∀ stmt ∈ thenBody, IsValid context stmt)
      (failed : ∀ stmt ∈ elseBody, IsValid context stmt) :
      IsValid context (.conditional tok condition thenBody elseBody)
  | forLoop {tok start condition step body} (begun : IsValid context start)
      (tested : HasType context condition .boolean) (stepped : IsValid context step)
      (held : ∀ stmt ∈ body, IsValid context stmt) :
      IsValid context (.forLoop tok start condition step body)
  | whileLoop {tok condition body} (tested : HasType context condition .boolean)
      (held : ∀ stmt ∈ body, IsValid context stmt) : IsValid context (.whileLoop tok condition body)
  | repeatLoop {tok body condition} (held : ∀ stmt ∈ body, IsValid context stmt)
      (tested : HasType context condition .boolean) : IsValid context (.repeatLoop tok body condition)
  | caseOf {tok selector clauses otherwise type} (selected : HasType context selector type)
      (computed : selector.isLiteral = false)
      (lows : ∀ clause ∈ clauses, HasType context (Clause.low clause) type)
      (highs : ∀ clause ∈ clauses,
        Clause.high clause = .missing ∨ HasType context (Clause.high clause) type)
      (held : ∀ clause ∈ clauses, ∀ stmt ∈ Clause.body clause, IsValid context stmt)
      (remaining : ∀ stmt ∈ otherwise, IsValid context stmt) :
      IsValid context (.caseOf tok selector clauses otherwise)
  | returnOf {tok value type} (given : HasType context value type)
      (wanted : ∀ result ∈ context.result, type = result) : IsValid context (.returnOf tok value)

/-! ## Declarations -/

/-- The names of the members of some types. -/
def memberNames (types : List TypeDef) : List String := types.flatMap TypeDef.values

/-- What some types declare. -/
def members (types : List TypeDef) : List (String × Ty) :=
  (memberNames types).map fun name => (name, .integer)

/-- What some variables declare. -/
def bindings (vars : List Variable) : List (String × Ty) :=
  vars.map fun declared => (declared.name, declared.type.resolved)

/-- What a function declares to its callers. -/
def signature (function : Function) : String × Callable :=
  (function.name,
    .function (function.params.map fun param => param.type.resolved) function.result.resolved)

/-- The variables of a program that are declared: `d` is there already. -/
def declaredVars (program : Program) : List Variable :=
  program.vars.filter fun declared => declared.name ≠ "d"

/-- The variables around every body. -/
def globals (program : Program) : List (String × Ty) :=
  ("d", .integer) :: (members program.types ++ bindings (declaredVars program))

/-- The procedures that need no declaration. -/
def procedures : List (String × Callable) :=
  [("read", .procedure .void), ("output", .procedure .void)]

/-- What the body of a program sees. -/
def programContext (program : Program) : Context where
  vars := globals program
  callables := procedures ++ program.functions.map signature

/-- What the body of a function sees, given the functions before it. -/
def functionContext (program : Program) (before : List Function) (function : Function) : Context where
  vars := globals program ++ (function.name, function.result.resolved) ::
    (bindings function.params ++ (members function.types ++ bindings function.locals))
  callables := procedures ++ (before ++ [function]).map signature
  result := some function.result.resolved

/-- No variable repeats one of the names taken, or the name of an earlier variable. -/
def Fresh (taken : List String) (vars : List Variable) : Prop :=
  ∀ earlier declared later, vars = earlier ++ declared :: later →
    declared.name ∉ taken ∧ declared.name ∉ earlier.map Variable.name

/-- The functions in which nothing is wrong. -/
structure FunctionIsValid (program : Program) (before : List Function) (function : Function) :
    Prop where
  params : Fresh [function.name] function.params
  locals : Fresh
    (function.name :: (function.params.map Variable.name ++ memberNames function.types))
    function.locals
  body : ∀ stmt ∈ function.body, IsValid (functionContext program before function) stmt

/-- The programs in which nothing is wrong. -/
structure ProgramIsValid (program : Program) : Prop where
  vars : Fresh (memberNames program.types) (declaredVars program)
  functions : ∀ before function behind, program.functions = before ++ function :: behind →
    FunctionIsValid program before function
  body : ∀ stmt ∈ program.body, IsValid (programContext program) stmt

/-! ## Meanings -/

section Meanings

variable {α : Type} {bindings : List (String × α)} {name : String} {meaning : α}

/-- Nothing has a meaning where nothing is bound. -/
theorem not_means_nil : ¬ Means [] name meaning := by
  rintro ⟨before, behind, same, -⟩
  simp at same

/-- A further binding decides about its own name and about no other. -/
theorem means_concat {binding : String × α} :
    Means (bindings ++ [binding]) name meaning ↔
      if binding.1 = name then binding.2 = meaning else Means bindings name meaning := by
  constructor
  · rintro ⟨before, behind, same, others⟩
    rcases List.eq_nil_or_concat behind with rfl | ⟨others', last, rfl⟩
    · obtain ⟨-, last⟩ := List.append_inj' same rfl
      obtain rfl := List.singleton_inj.mp last
      simp
    · have same : bindings ++ [binding] = (before ++ (name, meaning) :: others') ++ [last] := by
        simpa using same
      obtain ⟨rfl, last⟩ := List.append_inj' same rfl
      obtain rfl := List.singleton_inj.mp last
      have different : binding.1 ≠ name := others binding (by simp)
      rw [if_neg different]
      exact ⟨before, others', rfl, fun other member => others other (by simp [member])⟩
  · intro means
    split at means
    · next same =>
      obtain rfl := same
      obtain rfl := means
      exact ⟨bindings, [], rfl, fun _ member => nomatch member⟩
    · next different =>
      obtain ⟨before, behind, rfl, others⟩ := means
      refine ⟨before, behind ++ [binding], by simp, ?_⟩
      rw [List.forall_mem_append, List.forall_mem_singleton]
      exact ⟨others, different⟩

end Meanings

end WinZig.Typing
