import WinZig.Checker.Body
import WinZig.Proofs.Parsing.Shape
import WinZig.Proofs.Typing.System

/-!
# Visiting expressions decides their types

A visit stays silent exactly if the expression has a type, and then the tag is that type. One
direction follows the derivation of the type. The other follows the shape of the expression: where
a tag is empty something has been complained about, so a silent visit leaves none.
-/

namespace WinZig.Typing

open Checker

/-- What a symbol is to its callers. -/
def callableOf (sym : Symbol) : Callable :=
  if sym.role = .builtin then .procedure sym.type else .function sym.params sym.type

/-- What the symbols that cannot be called declare. -/
def variablesOf (symbols : List Symbol) : List (String × Ty) :=
  (symbols.filter fun sym => sym.role.isCallable == false).map fun sym => (sym.name, sym.type)

/-- What the symbols that can be called declare. -/
def callablesOf (symbols : List Symbol) : List (String × Callable) :=
  (symbols.filter fun sym => sym.role.isCallable == true).map fun sym => (sym.name, callableOf sym)

/-- What a scope declares, in the order of declaration. -/
def contextOf (scope : Scope) : Context where
  vars := variablesOf (scope.locals ++ scope.globals).reverse
  callables := callablesOf (scope.locals ++ scope.globals).reverse
  result := scope.owner.map Owner.result

/-! ## Meanings of names -/

/-- The most recent symbol of a list is the last one in the order of declaration. -/
theorem means_iff_find? {α : Type} (meaning : Symbol → α) (callable : Bool) (name : String)
    (value : α) (symbols : List Symbol) :
    Means ((symbols.reverse.filter fun sym => sym.role.isCallable == callable).map
      fun sym => (sym.name, meaning sym)) name value ↔
      ∃ sym, symbols.find? (Scope.isNamed callable name) = some sym ∧ meaning sym = value := by
  induction symbols with
  | nil => simp [not_means_nil]
  | cons sym symbols ih =>
    simp only [List.reverse_cons, List.filter_append, List.map_append]
    by_cases role : sym.role.isCallable = callable
    · simp only [role, BEq.rfl, List.filter_cons_of_pos, List.filter_nil, List.map_cons,
        List.map_nil, means_concat, ih]
      by_cases same : sym.name = name
      · simp [Scope.isNamed, same, role]
      · simp [Scope.isNamed, same, role]
    · have skipped : [sym].filter (fun sym => sym.role.isCallable == callable) = [] := by simp [role]
      rw [skipped, List.map_nil, List.append_nil, ih, List.find?_cons_of_neg]
      simp [Scope.isNamed, role]

/-- A name means a type exactly when the variable it finds has it. -/
theorem means_variable {scope : Scope} {name : String} {type : Ty} :
    Means (contextOf scope).vars name type ↔
      ∃ sym, scope.findVariable? name = some sym ∧ sym.type = type :=
  means_iff_find? Symbol.type false name type (scope.locals ++ scope.globals)

/-- A callee means what the function it finds is. -/
theorem means_callable {scope : Scope} {name : String} {callable : Callable} :
    Means (contextOf scope).callables name callable ↔
      ∃ sym, scope.findFunction? name = some sym ∧ callableOf sym = callable :=
  means_iff_find? callableOf true name callable (scope.locals ++ scope.globals)

/-- No symbol of the scope has the empty tag. -/
def Known (scope : Scope) : Prop := ∀ sym ∈ scope.locals ++ scope.globals, sym.type ≠ .unknown

/-- In a scope without unknown types the variables have types. -/
theorem Known.variable {scope : Scope} {name : String} {sym : Symbol} (known : Known scope)
    (found : scope.findVariable? name = some sym) : sym.type ≠ .unknown :=
  known sym (List.mem_of_find?_eq_some found)

/-- In a scope without unknown types the functions give types. -/
theorem Known.callable {scope : Scope} {name : String} {callable : Callable} (known : Known scope)
    (bound : Means (contextOf scope).callables name callable) : callable.result ≠ .unknown := by
  obtain ⟨sym, found, rfl⟩ := means_callable.mp bound
  have type : sym.type ≠ .unknown := known sym (List.mem_of_find?_eq_some found)
  unfold callableOf
  split <;> exact type

/-! ## Lists of visits -/

/-- Nodes are visited one by one. -/
theorem visitAll_eq_map (scope : Scope) (nodes : List Node) :
    visitAll scope nodes = nodes.map (visit scope) := by
  induction nodes with
  | nil => rfl
  | cons node nodes ih => rw [visitAll_cons, ih, List.map_cons]

/-- The visited nodes are those of each visit. -/
theorem nodesOf_visitAll {scope : Scope} (nodes : List Node) :
    nodesOf (visitAll scope nodes) = nodes.map fun node => (visit scope node).node := by
  rw [nodesOf, visitAll_eq_map, List.map_map]
  rfl

/-- The complaints about nodes are those of each visit. -/
theorem diagnosticsOf_visitAll {scope : Scope} (nodes : List Node) :
    diagnosticsOf (visitAll scope nodes) =
      nodes.flatMap fun node => (visit scope node).diagnostics := by
  rw [diagnosticsOf, visitAll_eq_map, List.flatMap_map]

/-- Visiting some nodes stays silent if visiting each of them does. -/
theorem diagnosticsOf_eq_nil {scope : Scope} {nodes : List Node} :
    diagnosticsOf (visitAll scope nodes) = [] ↔
      ∀ node ∈ nodes, (visit scope node).diagnostics = [] := by
  rw [diagnosticsOf_visitAll, List.flatMap_eq_nil_iff]

/-- There is no complaint exactly when there is no reason for one. -/
theorem complainIf_eq_nil {condition : Bool} {diagnostic : Diagnostic} :
    complainIf condition diagnostic = [] ↔ condition = false := by
  cases condition <;> simp [complainIf]

/-- Lists of one length pair every member of the first with one of the second. -/
theorem exists_mem_zip {args : List Node} {types : List Ty} (count : args.length = types.length)
    {arg : Node} (member : arg ∈ args) : ∃ type, (arg, type) ∈ args.zip types := by
  obtain ⟨index, inside, rfl⟩ := List.getElem_of_mem member
  refine ⟨types[index], ?_⟩
  rw [← List.getElem_zip (h := by simp [← count, inside])]
  exact List.getElem_mem _

/-- Arguments are not complained about if each has the tag of its parameter, or an empty one. -/
theorem argumentComplaints_eq_nil {scope : Scope} {callee : String} {args : List Node}
    {params : List Ty} :
    argumentComplaints callee params args (visitAll scope args) = [] ↔
      ∀ pair ∈ args.zip params,
        (visit scope pair.1).tag = .unknown ∨ (visit scope pair.1).tag = pair.2 := by
  induction args generalizing params with
  | nil => cases params <;> simp [argumentComplaints]
  | cons arg args ih =>
    cases params with
    | nil => simp [argumentComplaints]
    | cons wanted params =>
      rw [visitAll_cons, argumentComplaints, List.append_eq_nil_iff, argumentComplaint,
        complainIf_eq_nil, ih, List.zip_cons_cons, List.forall_mem_cons]
      by_cases empty : (visit scope arg).tag = .unknown <;> simp [empty]

/-! ## Rules -/

section Calls

variable {scope : Scope} {callee : String} {count : Nat} {params : List Ty} {result : Ty}

/-- A procedure takes any arguments. -/
theorem callRule_of_procedure (bound : Means (contextOf scope).callables callee (.procedure result)) :
    callRule scope callee count = .anyArguments result := by
  obtain ⟨sym, found, same⟩ := means_callable.mp bound
  unfold callableOf at same
  split at same
  · next builtin =>
    rw [callRule, found]
    simpa [builtin] using same
  · exact nomatch same

/-- A function takes as many arguments as it has parameters. -/
theorem callRule_of_function
    (bound : Means (contextOf scope).callables callee (.function params result))
    (fits : params.length = count) : callRule scope callee count = .matched result params := by
  obtain ⟨sym, found, same⟩ := means_callable.mp bound
  unfold callableOf at same
  split at same
  · exact nomatch same
  · next declared =>
    obtain ⟨rfl, rfl⟩ := Callable.function.inj same
    simp [callRule, found, declared, fits]

/-- Any arguments are taken by procedures only. -/
theorem means_of_anyArguments (rule : callRule scope callee count = .anyArguments result) :
    Means (contextOf scope).callables callee (.procedure result) := by
  unfold callRule at rule
  split at rule
  · exact nomatch rule
  · next sym found =>
    split at rule
    · next builtin =>
      exact means_callable.mpr
        ⟨sym, found, by simp [callableOf, builtin, CallRule.anyArguments.inj rule]⟩
    · split at rule <;> exact nomatch rule

/-- Arguments are matched by functions with as many parameters. -/
theorem means_of_matched (rule : callRule scope callee count = .matched result params) :
    Means (contextOf scope).callables callee (.function params result) ∧ params.length = count := by
  unfold callRule at rule
  split at rule
  · exact nomatch rule
  · next sym found =>
    split at rule
    · exact nomatch rule
    · next declared =>
      split at rule
      · next fits =>
        obtain ⟨rfl, rfl⟩ := CallRule.matched.inj rule
        exact ⟨means_callable.mpr ⟨sym, found, by simp [callableOf, declared]⟩, fits⟩
      · exact nomatch rule

end Calls

/-- The checker's rule for a binary operator follows the typing rule. -/
theorem binaryRule_of_binary {op : Kind} {left right type : Ty} (rule : Binary op left right type) :
    binaryRule op left right = (type, none) := by
  cases rule with
  | arithmetic applied | equality applied | logical applied =>
    simp only [List.mem_cons, List.not_mem_nil, or_false] at applied
    rcases applied with rfl | rfl | rfl | rfl | rfl <;> simp [binaryRule]
  | ordered applied orderly =>
    simp only [List.mem_cons, List.not_mem_nil, or_false] at applied orderly
    rcases applied with rfl | rfl | rfl | rfl <;> simp [binaryRule, orderly]

/-- A silent operation with a binary operator is one of those the type system has. -/
theorem binary_of_binaryRule {op : Kind} {level : Nat} {left right : Ty}
    (binds : op ∈ Grammar.operators level) (silent : (binaryRule op left right).2 = none) :
    Binary op left right (binaryRule op left right).1 := by
  cases op with
  | plus | minus | star | slash | modWord =>
    simp only [binaryRule, ite_eq_left_iff, reduceCtorEq, imp_false, Decidable.not_not] at silent
    obtain ⟨rfl, rfl⟩ := silent
    exact .arithmetic (by decide)
  | less | lessEqual | greater | greaterEqual =>
    simp only [binaryRule, ite_eq_left_iff, reduceCtorEq, imp_false, Decidable.not_not] at silent
    obtain ⟨rfl, orderly⟩ := silent
    exact .ordered (by decide) (by simpa using orderly)
  | equal | notEqual =>
    simp only [binaryRule, ite_eq_left_iff, reduceCtorEq, imp_false, Decidable.not_not] at silent
    exact silent ▸ .equality (by decide)
  | andWord | orWord =>
    simp only [binaryRule, ite_eq_left_iff, reduceCtorEq, imp_false, Decidable.not_not] at silent
    obtain ⟨rfl, rfl⟩ := silent
    exact .logical (by decide)
  | _ => exact nomatch Grammar.mem_operators.mp binds

/-- The checker's rule for a unary operator follows the typing rule. -/
theorem unaryRule_of_unary {op : Kind} {operand type : Ty} (rule : Unary op operand type) :
    unaryRule op operand = (type, none) := by
  cases rule with
  | arithmetic applied =>
    simp only [List.mem_cons, List.not_mem_nil, or_false] at applied
    rcases applied with rfl | rfl | rfl | rfl <;> rfl
  | negation | ordinal | character => rfl

/-- A silent operation with a prefix operator is one of those the type system has. -/
theorem unary_of_unaryRule {op : Kind} {operand : Ty} (applies : op ∈ Shape.prefixes)
    (silent : (unaryRule op operand).2 = none) : Unary op operand (unaryRule op operand).1 := by
  simp only [Shape.prefixes, List.mem_cons, List.not_mem_nil, or_false] at applies
  rcases applies with rfl | rfl | rfl | rfl | rfl | rfl | rfl <;>
    simp only [unaryRule, unaryRule?, ite_eq_left_iff, reduceCtorEq, imp_false,
      Decidable.not_not] at silent <;> subst silent
  · exact .arithmetic (by decide)
  · exact .arithmetic (by decide)
  · exact .negation
  · exact .arithmetic (by decide)
  · exact .arithmetic (by decide)
  · exact .character
  · exact .ordinal

/-- No operation gives the empty tag. -/
theorem Binary.known {op : Kind} {left right type : Ty} (rule : Binary op left right type) :
    type ≠ .unknown := by
  cases rule <;> decide

/-- A unary operator gives a known type. -/
theorem Unary.known {op : Kind} {operand type : Ty} (rule : Unary op operand type) :
    type ≠ .unknown := by
  cases rule <;> decide

/-! ## Visits -/

section Visits

variable {scope : Scope} (known : Known scope)

include known

/-- An expression with a type is visited in silence, and gets its type as its tag. -/
theorem visit_of_hasType {node : Node} {type : Ty} (typed : HasType (contextOf scope) node type) :
    (visit scope node).diagnostics = [] ∧ (visit scope node).tag = type ∧ type ≠ .unknown := by
  induction typed with
  | integer | boolean | character => exact ⟨rfl, rfl, by decide⟩
  | name bound =>
    obtain ⟨sym, found, rfl⟩ := means_variable.mp bound
    simp [visit_name, found, known.variable found]
  | @procedure tok tag callee args types result bound count given ih =>
    have silent : ∀ arg ∈ args, (visit scope arg).diagnostics = [] := by
      intro arg member
      obtain ⟨type, paired⟩ := exists_mem_zip count member
      exact (ih _ paired).1
    have result : result ≠ .unknown := known.callable bound
    simpa [visit_call, callRule_of_procedure bound, diagnosticsOf_eq_nil, result] using silent
  | @function tok tag callee args params result bound count given ih =>
    have silent : ∀ arg ∈ args, (visit scope arg).diagnostics = [] := by
      intro arg member
      obtain ⟨type, paired⟩ := exists_mem_zip count member
      exact (ih _ paired).1
    have matched : argumentComplaints callee params args (visitAll scope args) = [] :=
      argumentComplaints_eq_nil.mpr fun pair member => .inr (ih pair member).2.1
    have result : result ≠ .unknown := known.callable bound
    simpa [visit_call, callRule_of_function bound count.symm, diagnosticsOf_eq_nil, matched, result]
      using silent
  | binary before behind rule ihBefore ihBehind =>
    obtain ⟨silentLeft, tagLeft, knownLeft⟩ := ihBefore
    obtain ⟨silentRight, tagRight, knownRight⟩ := ihBehind
    simp [visit_binary, silentLeft, silentRight, tagLeft, tagRight, knownLeft, knownRight,
      binaryRule_of_binary rule, rule.known]
  | unary only rule ih =>
    obtain ⟨silent, tag, knownOperand⟩ := ih
    simp [visit_unary, silent, tag, knownOperand, unaryRule_of_unary rule, rule.known]

/-- A call that is visited in silence, if every argument that is visited in silence has a type. -/
theorem hasType_of_visit_call {tok : Token} {tag : Ty} {callee : String} {args : List Node}
    (each : ∀ arg ∈ args, (visit scope arg).diagnostics = [] →
      HasType (contextOf scope) arg (visit scope arg).tag)
    (silent : (visit scope (.call tok tag callee args)).diagnostics = []) :
    HasType (contextOf scope) (.call tok tag callee args)
      (visit scope (.call tok tag callee args)).tag := by
  rw [visit_call] at silent ⊢
  cases rule : callRule scope callee args.length with
  | undeclared | wrongCount => simp [rule] at silent
  | anyArguments result =>
    simp only [rule, diagnosticsOf_eq_nil] at silent ⊢
    have types : ∀ pair ∈ args.zip (args.map fun arg => (visit scope arg).tag),
        HasType (contextOf scope) pair.1 pair.2 := by
      intro pair member
      have paired : (args.map id).zip (args.map fun arg => (visit scope arg).tag) =
          args.map fun arg => (arg, (visit scope arg).tag) := List.zip_map'
      rw [List.map_id] at paired
      rw [paired, List.mem_map] at member
      obtain ⟨arg, inside, rfl⟩ := member
      exact each arg inside (silent arg inside)
    exact .procedure (means_of_anyArguments rule) (by simp) types
  | matched result params =>
    simp only [rule, List.append_eq_nil_iff, diagnosticsOf_eq_nil, argumentComplaints_eq_nil] at silent ⊢
    obtain ⟨bound, count⟩ := means_of_matched rule
    refine .function bound count.symm fun pair member => ?_
    have inside : pair.1 ∈ args := (List.of_mem_zip member).1
    have typed := each pair.1 inside (silent.1 pair.1 inside)
    have present : (visit scope pair.1).tag ≠ .unknown := (visit_of_hasType known typed).2.2
    rwa [(silent.2 pair member).resolve_left present] at typed

/-- An expression that is visited in silence has its tag as its type. -/
theorem hasType_of_visit {lexicon : Shape.Lexicon} {node : Node}
    (shape : Shape.IsExpression lexicon node) (silent : (visit scope node).diagnostics = []) :
    HasType (contextOf scope) node (visit scope node).tag := by
  induction shape with
  | literal written =>
    cases written with
    | integer => exact .integer
    | character => exact .character
    | boolean => exact .boolean
  | name written =>
    obtain ⟨-⟩ := written
    rw [visit_name] at silent ⊢
    split at silent
    · next sym found => exact .name (means_variable.mpr ⟨sym, found, rfl⟩)
    · exact absurd silent (List.cons_ne_nil _ _)
  | call named given ih => exact hasType_of_visit_call known ih silent
  | binary binds before behind ihBefore ihBehind =>
    simp only [visit_binary, List.append_eq_nil_iff] at silent ⊢
    obtain ⟨⟨silentLeft, silentRight⟩, rule⟩ := silent
    have left := ihBefore silentLeft
    have right := ihBehind silentRight
    have knownLeft := (visit_of_hasType known left).2.2
    have knownRight := (visit_of_hasType known right).2.2
    simp only [knownLeft, knownRight, or_self, ↓reduceIte, Option.toList_eq_nil_iff,
      Option.map_eq_none_iff] at rule ⊢
    exact .binary left right (binary_of_binaryRule binds rule)
  | unary applies only ih =>
    simp only [visit_unary, List.append_eq_nil_iff] at silent ⊢
    obtain ⟨silentOperand, rule⟩ := silent
    have operand := ih silentOperand
    have knownOperand := (visit_of_hasType known operand).2.2
    simp only [knownOperand, ↓reduceIte, Option.toList_eq_nil_iff, Option.map_eq_none_iff] at rule ⊢
    exact .unary operand (unary_of_unaryRule applies rule)

end Visits

end WinZig.Typing
