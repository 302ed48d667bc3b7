import WinZig.Proofs.Parsing.Exactness
import WinZig.Proofs.Typing.Comparisons
import WinZig.Proofs.Typing.Frames
import WinZig.Token.Stream

/-!
# Where empty tags come from

An expression that nothing can be made of gets the empty tag, and what it is an operand of stays
silent. That is sound only if the empty tag never arises for another reason. In a program that was read
it does not: every declared type is known and every operator has a rule, so an empty tag goes back,
from operand to operand, to a name that means nothing, and this name has been complained about.

The complaints of a visit stand together among all complaints, since a visit only adds to them.
-/

namespace WinZig.Typing

open Checker

/-- Nothing can be made of an expression by itself: a name or a called name means nothing, or an operand
has the empty tag. -/
def Undetermined (resolution : Resolution) : Node → Prop
  | .name _ _ name => resolution.value name = none
  | .call _ _ callee _ => resolution.callee callee = none
  | .binary _ _ _ left right => left.tag = .unknown ∨ right.tag = .unknown
  | .unary _ _ _ operand => operand.tag = .unknown
  | _ => False

/-- A complaint stands where a node is reported, and is about the token of the node. -/
def AnchoredAt (node : Node) (diagnostic : Diagnostic) : Prop :=
  diagnostic.position = node.position ∧ diagnostic.token = node.token

/-! ## Complaints stand together -/

section Infixes

variable {scope : Scope}

/-- What is said about one of some nodes is said about all of them, in one piece. -/
theorem infix_diagnosticsOf {nodes : List Node} {node : Node} (member : node ∈ nodes) :
    (visit scope node).diagnostics <:+: diagnosticsOf (visitAll scope nodes) := by
  rw [diagnosticsOf_visitAll, List.flatMap_def]
  exact List.infix_of_mem_flatten (List.mem_map_of_mem member)

/-- What is said about a node in a clause is said about all clauses, in one piece. -/
theorem infix_visitClauses (selector : Ty) {clauses : List (Clause Node)} {node : Node}
    (member : node ∈ clauses.flatMap fun clause => clause.low :: clause.high :: clause.body) :
    (visit scope node).diagnostics <:+: (visitClauses scope selector clauses).flatMap Prod.snd := by
  induction clauses with
  | nil => exact absurd member List.not_mem_nil
  | cons clause clauses inductionHypothesis =>
    obtain ⟨low, high, body⟩ := clause
    simp only [List.flatMap_cons, List.cons_append, List.mem_cons, List.mem_append] at member
    simp only [visitClauses_cons, List.flatMap_cons]
    rcases member with rfl | rfl | held | others
    · simp only [List.append_assoc]
      exact (List.prefix_append _ _).isInfix
    · apply List.infix_append_of_infix_left
      apply List.infix_append_of_infix_left
      exact List.infix_append _ _ _
    · apply List.infix_append_of_infix_left
      exact List.infix_append_of_infix_right (infix_diagnosticsOf held)
    · exact List.infix_append_of_infix_right (inductionHypothesis others)

variable {resolution : Resolution} (gives : Gives scope resolution)

include gives

/-- The complaints of the visit of a part stand together among those of the visit of the whole. -/
theorem infix_visit {node child : Node} (entered : enters resolution node = true)
    (member : child ∈ node.children) :
    (visit scope child).diagnostics <:+: (visit scope node).diagnostics := by
  cases node with
  | missing | integer | boolean | character | name => exact absurd member List.not_mem_nil
  | call tok tag callee args =>
    rw [enters_call gives] at entered
    rw [visit_call]
    cases rule : callRule scope callee args.length with
    | undeclared | wrongCount => simp [rule] at entered
    | anyArguments result => exact infix_diagnosticsOf member
    | matched result params => exact List.infix_append_of_infix_left (infix_diagnosticsOf member)
  | binary tok tag op left right | swap tok left right | assign tok left right =>
    simp only [Node.children, List.mem_cons, List.not_mem_nil, or_false] at member
    simp only [visit_binary, visit_swap, visit_assign]
    apply List.infix_append_of_infix_left
    rcases member with rfl | rfl
    · exact (List.prefix_append _ _).isInfix
    · exact (List.suffix_append _ _).isInfix
  | unary tok tag op operand | returnOf tok operand =>
    obtain rfl : child = operand := by simpa [Node.children] using member
    exact (List.prefix_append _ _).isInfix
  | conditional tok condition thenBody elseBody =>
    simp only [Node.children, List.cons_append, List.mem_cons, List.mem_append] at member
    rw [visit_conditional]
    rcases member with rfl | held | failed
    · simp only [List.append_assoc]
      exact (List.prefix_append _ _).isInfix
    · exact (infix_diagnosticsOf held).trans (List.infix_append _ _ _)
    · exact List.infix_append_of_infix_right (infix_diagnosticsOf failed)
  | forLoop tok start condition step body =>
    simp only [Node.children, List.mem_cons] at member
    rw [visit_forLoop]
    rcases member with rfl | rfl | rfl | held
    · simp only [List.append_assoc]
      exact (List.prefix_append _ _).isInfix
    · simp only [List.append_assoc]
      exact List.infix_append' _ _ _
    · exact List.infix_append _ _ _
    · exact List.infix_append_of_infix_right (infix_diagnosticsOf held)
  | whileLoop tok condition body =>
    simp only [Node.children, List.mem_cons] at member
    rw [visit_whileLoop]
    rcases member with rfl | held
    · simp only [List.append_assoc]
      exact (List.prefix_append _ _).isInfix
    · exact List.infix_append_of_infix_right (infix_diagnosticsOf held)
  | repeatLoop tok body condition =>
    simp only [Node.children, List.mem_append, List.mem_singleton] at member
    rw [visit_repeatLoop]
    rcases member with held | rfl
    · simp only [List.append_assoc]
      exact List.infix_append_of_infix_left (infix_diagnosticsOf held)
    · exact List.infix_append _ _ _
  | caseOf tok selector clauses otherwise =>
    simp only [Node.children, List.cons_append, List.mem_cons, List.mem_append] at member
    rw [visit_caseOf]
    rcases member with rfl | within | held
    · simp only [List.append_assoc]
      exact List.infix_append' _ _ _
    · exact (infix_visitClauses _ within).trans (List.infix_append _ _ _)
    · exact List.infix_append_of_infix_right (infix_diagnosticsOf held)

/-- The complaints of every visit stand together among those of the visit that it is a part of. -/
theorem infix_walk {node inner : Node} (member : inner ∈ Node.walk (enters resolution) node) :
    (visit scope inner).diagnostics <:+: (visit scope node).diagnostics := by
  have step : ∀ whole, enters resolution whole = true →
      (visit scope whole).diagnostics <:+: (visit scope node).diagnostics → ∀ child ∈ whole.children,
        (visit scope child).diagnostics <:+: (visit scope node).diagnostics :=
    fun whole entered within child listed => (infix_visit gives entered listed).trans within
  exact Node.walk_forall step List.infix_rfl inner member

/-- What is said about a node that is reached is said about the body, in one piece. -/
theorem infix_visitedIn {body : List Node} {node : Node} (member : node ∈ visitedIn resolution body) :
    (visit scope node).diagnostics <:+: diagnosticsOf (visitAll scope body) := by
  rw [visitedIn, Node.walkAll_eq_flatMap, List.mem_flatMap] at member
  obtain ⟨stmt, listed, within⟩ := member
  exact (infix_walk gives within).trans (infix_diagnosticsOf listed)

end Infixes

/-! ## Expressions in bodies that were read -/

section Placed

/-- A node where a statement or an expression belongs, or where nothing has to stand. -/
def Placed (node : Node) : Prop :=
  Shape.IsStatement .free node ∨ Shape.IsExpression .free node ∨ node = .missing

/-- A name stands where an expression may. -/
theorem placed_of_name {node : Node} (named : Shape.IsName .free node) : Placed node :=
  .inr (.inl (.name named))

/-- The parts of an assignment stand where they may. -/
theorem assignment_parts_placed {node : Node} (assigned : Shape.IsAssignment .free node) :
    ∀ child ∈ node.children, Placed child := by
  obtain ⟨named, written⟩ := assigned
  simp only [Node.children, List.forall_mem_cons, List.not_mem_nil, false_implies, implies_true,
    and_true]
  exact ⟨placed_of_name named, .inr (.inl written)⟩

/-- The parts of an expression stand where they may. -/
theorem expression_parts_placed {node : Node} (shape : Shape.IsExpression .free node) :
    ∀ child ∈ node.children, Placed child := by
  cases shape with
  | literal written => cases written <;> exact fun _ member => absurd member List.not_mem_nil
  | name written =>
    cases written
    exact fun _ member => absurd member List.not_mem_nil
  | call named given => exact fun arg member => .inr (.inl (given arg member))
  | binary binds before behind =>
    simp only [Node.children, List.forall_mem_cons, List.not_mem_nil, false_implies, implies_true,
      and_true]
    exact ⟨.inr (.inl before), .inr (.inl behind)⟩
  | unary applies only =>
    rw [Node.children, List.forall_mem_singleton]
    exact .inr (.inl only)

/-- The parts of a statement stand where they may. -/
theorem statement_parts_placed {node : Node} (shape : Shape.IsStatement .free node) :
    ∀ child ∈ node.children, Placed child := by
  cases shape with
  | assignment assigned => exact assignment_parts_placed assigned
  | exchange before behind =>
    simp only [Node.children, List.forall_mem_cons, List.not_mem_nil, false_implies, implies_true,
      and_true]
    exact ⟨placed_of_name before, placed_of_name behind⟩
  | output named some given => exact fun arg member => .inr (.inl (given arg member))
  | read named some given => exact fun arg member => placed_of_name (given arg member)
  | conditional tested held failed =>
    simp only [Node.children, List.cons_append, List.forall_mem_cons, List.forall_mem_append]
    exact ⟨.inr (.inl tested), fun stmt member => .inl (held stmt member),
      fun stmt member => .inl (failed stmt member)⟩
  | forLoop begun tested stepped held =>
    simp only [Node.children, List.forall_mem_cons]
    exact ⟨.inl (.assignment begun), .inr (.inl tested), .inl (.assignment stepped),
      fun stmt member => .inl (held stmt member)⟩
  | whileLoop tested held =>
    simp only [Node.children, List.forall_mem_cons]
    exact ⟨.inr (.inl tested), fun stmt member => .inl (held stmt member)⟩
  | repeatLoop held tested =>
    simp only [Node.children, List.forall_mem_append, List.forall_mem_singleton]
    exact ⟨fun stmt member => .inl (held stmt member), .inr (.inl tested)⟩
  | caseOf selected lows highs held remaining =>
    simp only [Node.children, List.cons_append, List.forall_mem_cons, List.forall_mem_append]
    refine ⟨.inr (.inl selected), ?_, fun stmt member => .inl (remaining stmt member)⟩
    intro child member
    obtain ⟨clause, listed, within⟩ := List.mem_flatMap.mp member
    simp only [List.mem_cons] at within
    rcases within with rfl | rfl | within
    · exact .inr (.inl (lows clause listed).expression)
    · rcases highs clause listed with missing | bounded
      · exact .inr (.inr missing)
      · exact .inr (.inl bounded.expression)
    · exact .inl (held clause listed child within)
  | returnOf given =>
    rw [Node.children, List.forall_mem_singleton]
    exact .inr (.inl given)

/-- Wherever a body that was read holds an expression, it is one that can be read. -/
theorem expression_of_placed {node : Node} (placed : Placed node)
    (expression : node.isExpression = true) : Shape.IsExpression .free node := by
  rcases placed with statement | shape | rfl
  · cases statement with
    | assignment assigned =>
      cases assigned
      exact absurd expression Bool.false_ne_true
    | output named some given => exact .call trivial given
    | read named some given => exact .call trivial fun arg member => .name (given arg member)
    | _ => exact absurd expression Bool.false_ne_true
  · exact shape
  · exact absurd expression Bool.false_ne_true

/-- An expression that is reached in statements is one of the grammar. -/
theorem expression_of_visitedIn {resolution : Resolution} {body : List Node} {node : Node}
    (shape : ∀ stmt ∈ body, Shape.IsStatement .free stmt) (member : node ∈ visitedIn resolution body)
    (expression : node.isExpression = true) : Shape.IsExpression .free node := by
  rw [visitedIn, Node.walkAll_eq_flatMap, List.mem_flatMap] at member
  obtain ⟨stmt, listed, within⟩ := member
  have placed : Placed node := by
    refine Node.walk_forall (fun whole _ placed => ?_) (.inl (shape stmt listed)) node within
    rcases placed with statement | shape | rfl
    · exact statement_parts_placed statement
    · exact expression_parts_placed shape
    · exact fun _ member => absurd member List.not_mem_nil
  exact expression_of_placed placed expression

end Placed

/-! ## Complaints about what is inside -/

/-- Checking a node has complained about a node inside it. -/
def IsBlamed (scope : Scope) (node : Node) : Prop :=
  ∃ diagnostic ∈ (visit scope node).diagnostics,
    ∃ inner ∈ Node.walk (fun _ => true) node, AnchoredAt inner diagnostic

section Blamed

variable {scope : Scope} {resolution : Resolution}

/-- A node that is complained about is blamed. -/
theorem isBlamed_itself {node : Node} (present : node.isPresent = true) (complaint : Complaint)
    (emitted : node.complain complaint ∈ (visit scope node).diagnostics) : IsBlamed scope node := by
  refine ⟨_, emitted, node, ?_, rfl, rfl⟩
  rw [Node.walk_eq _ _ present]
  exact List.mem_cons_self

/-- What is inside a part is inside the whole. -/
theorem isBlamed_of_child {node child : Node} (gives : Gives scope resolution)
    (entered : enters resolution node = true) (present : node.isPresent = true)
    (part : child ∈ node.children) (blamed : IsBlamed scope child) : IsBlamed scope node := by
  obtain ⟨diagnostic, emitted, inner, within, anchored⟩ := blamed
  refine ⟨diagnostic, (infix_visit gives entered part).subset emitted, inner, ?_, anchored⟩
  rw [Node.walk_eq _ _ present, if_pos rfl]
  exact List.mem_cons_of_mem _ (List.mem_flatMap.mpr ⟨child, part, within⟩)

end Blamed

/-! ## Empty tags -/

section Empty

/-- Every operator that can be read has a rule, which gives a tag whatever the operands are. -/
theorem binaryRule_known {op : Kind} {level : Nat} (binds : op ∈ Grammar.operators level)
    (left right : Ty) : (binaryRule op left right).1 ≠ .unknown := by
  cases op with
  | plus | minus | star | slash | modWord | less | lessEqual | greater | greaterEqual | equal
  | notEqual | andWord | orWord => simp [binaryRule]
  | _ => exact absurd (Grammar.mem_operators.mp binds) (by simp [Kind.level?])

/-- A prefix operator gives a type, whatever its operand. -/
theorem unaryRule_known {op : Kind} (applies : op ∈ Shape.prefixes) (operand : Ty) :
    (unaryRule op operand).1 ≠ .unknown := by
  simp only [Shape.prefixes, List.mem_cons, List.not_mem_nil, or_false] at applies
  rcases applies with rfl | rfl | rfl | rfl | rfl | rfl | rfl <;> simp [unaryRule, unaryRule?]

variable {scope : Scope} {resolution : Resolution} (gives : Gives scope resolution)
  (known : Known scope)

include gives known

/-- A name has no type exactly when it is not resolved. -/
theorem typeOf_value (name : String) :
    typeOf (resolution.value name) = .unknown ↔ resolution.value name = none := by
  rw [← (gives name).1]
  cases found : scope.findVariable? name with
  | none => simp [typeOf]
  | some sym => simp [typeOf, known.variable found]

/-- A callee has no type exactly when it is not resolved. -/
theorem typeOf_callee (name : String) :
    typeOf (resolution.callee name) = .unknown ↔ resolution.callee name = none := by
  rw [← (gives name).2]
  cases found : scope.findFunction? name with
  | none => simp [typeOf]
  | some sym => simp [typeOf, known sym (List.mem_of_find?_eq_some found)]

/-- An expression has the empty tag exactly if nothing can be made of it by itself. -/
theorem unknown_iff {node : Node} (shape : Shape.IsExpression .free node) :
    (visit scope node).node.tag = .unknown ↔ Undetermined resolution (visit scope node).node := by
  cases shape with
  | literal written =>
    cases written <;>
      simp [visit_integer, visit_boolean, visit_character, Node.tag, Undetermined]
  | name written =>
    obtain @⟨tok, text, -⟩ := written
    have tagged : (visit scope (.name tok .unknown text)).node =
        .name tok (typeOf (resolution.value text)) text :=
      taggedBy_visit gives (.name tok .unknown text)
    rw [tagged]
    exact typeOf_value gives known text
  | @call tok callee args named given =>
    obtain ⟨args, tagged⟩ := taggedBy_visit gives (.call tok .unknown callee args)
    rw [tagged]
    exact typeOf_callee gives known callee
  | @binary tok op level left right binds before behind =>
    rw [tag_visit]
    simp only [visit_binary, Undetermined, tag_visit]
    split
    · next empty => simp [empty]
    · next empty => simp [empty, binaryRule_known binds]
  | @unary tok op operand applies only =>
    rw [tag_visit]
    simp only [visit_unary, Undetermined, tag_visit]
    split
    · next empty => simp [empty]
    · next empty => simp [empty, unaryRule_known applies]

/-- Something inside an expression with the empty tag has been complained about, by induction on the
expression: an operator has the tag from an operand, and a name has been complained about itself. -/
theorem isBlamed_of_unknown {node : Node} (shape : Shape.IsExpression .free node)
    (empty : (visit scope node).node.tag = .unknown) : IsBlamed scope node := by
  induction shape with
  | literal written => cases written <;> cases empty
  | name written =>
    obtain @⟨tok, text, spelled⟩ := written
    have undetermined := (unknown_iff gives known (.name (.name spelled))).mp empty
    have tagged : (visit scope (.name tok .unknown text)).node =
        .name tok (typeOf (resolution.value text)) text :=
      taggedBy_visit gives (.name tok .unknown text)
    rw [tagged] at undetermined
    have nothing : scope.findVariable? text = none := (gives text).1.trans undetermined
    apply isBlamed_itself rfl (.undeclaredVariable text)
    rw [visit_name, nothing]
    exact List.mem_singleton_self _
  | @call tok callee args named given =>
    have undetermined := (unknown_iff gives known (.call named given)).mp empty
    obtain ⟨written, tagged⟩ := taggedBy_visit gives (.call tok .unknown callee args)
    rw [tagged] at undetermined
    have nothing : scope.findFunction? callee = none := (gives callee).2.trans undetermined
    apply isBlamed_itself rfl (.undeclaredFunction callee)
    rw [visit_call, callRule, nothing]
    exact List.mem_singleton_self _
  | binary binds before behind first second =>
    have undetermined := (unknown_iff gives known (.binary binds before behind)).mp empty
    rcases undetermined with empty | empty
    · exact isBlamed_of_child gives rfl rfl (List.mem_cons_self ..) (first empty)
    · exact isBlamed_of_child gives rfl rfl (by simp [Node.children]) (second empty)
  | unary applies only inductionHypothesis =>
    have undetermined := (unknown_iff gives known (.unary applies only)).mp empty
    exact isBlamed_of_child gives rfl rfl (List.mem_cons_self ..) (inductionHypothesis undetermined)

end Empty

/-! ## Programs -/

/-- How the tags that are written into a body and the complaints about it hang together, where the
body is visited in a scope that gives names the meaning of a resolution. -/
structure Explained (diagnostics : List Diagnostic) (scope : Scope) (resolution : Resolution)
    (body checked : List Node) : Prop where
  gives : Gives scope resolution
  written : checked = nodesOf (visitAll scope body)
  /-- The visited nodes, with their tags, are what the visits of nodes give. -/
  visits : visitedIn resolution checked =
    (visitedIn resolution body).map fun node => (visit scope node).node
  /-- An expression gets the empty tag exactly if nothing can be made of it by itself. -/
  empty : ∀ node ∈ visitedIn resolution body, node.isExpression = true →
    ((visit scope node).node.tag = .unknown ↔ Undetermined resolution (visit scope node).node)
  /-- Visiting an expression that gets the empty tag complains about something inside it. -/
  blamed : ∀ node ∈ visitedIn resolution body, node.isExpression = true →
    (visit scope node).node.tag = .unknown → IsBlamed scope node
  /-- What a visit complains about stands together among the complaints about the program. -/
  emitted : ∀ node ∈ visitedIn resolution body, (visit scope node).diagnostics <:+: diagnostics
  /-- A visit complains about its node and its parts, and about the node itself only for what its name
  means, for a literal that is made to select, and for comparisons that fail though no operand has the
  empty tag. -/
  accounted : ∀ node ∈ visitedIn resolution body, (visit scope node).diagnostics.Perm
    (ownComplaints resolution scope.owner (visit scope node).node ++
      if enters resolution node then
        node.children.flatMap fun child => (visit scope child).diagnostics
      else [])

section Programs

/-- In statements of the grammar every type that is not known is explained by a complaint. -/
theorem explained_visitAll {diagnostics : List Diagnostic} {scope : Scope} {resolution : Resolution}
    {body : List Node} (gives : Gives scope resolution) (known : Known scope)
    (shape : ∀ stmt ∈ body, Shape.IsStatement .free stmt)
    (within : diagnosticsOf (visitAll scope body) <:+: diagnostics) :
    Explained diagnostics scope resolution body (nodesOf (visitAll scope body)) where
  gives := gives
  written := rfl
  visits := visitedIn_visitAll gives body
  empty _ member expression :=
    unknown_iff gives known (expression_of_visitedIn shape member expression)
  blamed _ member expression :=
    isBlamed_of_unknown gives known (expression_of_visitedIn shape member expression)
  emitted _ member := (infix_visitedIn gives member).trans within
  accounted node _ := visit_accounted gives node

/-- No type is the empty tag, so no tag that is exact is empty. -/
theorem tag_known {scope : Scope} (known : Known scope) {body : List Node}
    (exact : TagsExact (contextOf scope) body) :
    ∀ node ∈ Node.walkAll (fun _ => true) body, node.isExpression = true → node.tag ≠ .unknown := by
  intro node member expression
  have typed : HasType (contextOf scope) node node.tag := (exact node member expression _).mpr rfl
  exact (visit_of_hasType known typed).2.2

/-- A list is cut at an index. -/
theorem cut_at {functions : List Function} {index : Nat} {function : Function}
    (found : functions[index]? = some function) :
    functions = functions.take index ++ function :: functions.drop (index + 1) ∧
      (functions.take index).length = index := by
  obtain ⟨inside, rfl⟩ := List.getElem?_eq_some_iff.mp found
  constructor
  · simp
  · exact List.length_take_of_le (Nat.le_of_lt inside)

variable {program : Program} (shape : Shape.IsProgram .free program) (checker : Checker)

include shape

/-- The body of a function, with its complaints among those of the program. -/
theorem check_function_explained {earlier later : List Function} {function : Function}
    (cut : program.functions = earlier ++ function :: later) :
    Explained (checker.check program).2.diagnostics
      (scopeWithin (scopeBehind program earlier) function)
      (resolutionWithin program earlier.length function) function.body
      (tagged (scopeBehind program earlier) function).body := by
  have listed : function ∈ program.functions := by simp [cut]
  apply explained_visitAll (gives_scopeWithin cut) (known_within shape cut)
    (shape.functions function listed).body
  rw [check_diagnostics_cut cut, functionComplaints, checkFunction_diagnostics]
  apply List.infix_append_of_infix_left
  apply List.infix_append_of_infix_right
  exact (List.suffix_append _ _).isInfix

/-- In the body of a program every type that is not known is explained. -/
theorem check_body_explained :
    Explained (checker.check program).2.diagnostics (scopeBehind program program.functions)
      (resolutionOutside program) program.body (checker.check program).1.body := by
  rw [check_body]
  apply explained_visitAll (gives_scopeBehind program)
    (known_scopeBehind shape fun _ member => member) shape.body
  rw [check_diagnostics]
  exact (List.suffix_append _ _).isInfix

/-- A program without complaints has no unknown type in its functions. -/
theorem check_functions_known (silent : (checker.check program).2.diagnostics = []) :
    ∀ checked ∈ (checker.check program).1.functions,
      ∀ node ∈ Node.walkAll (fun _ => true) checked.body,
        node.isExpression = true → node.tag ≠ .unknown := by
  have valid := (check_eq_nil checker shape).mp silent
  intro checked member
  obtain ⟨index, inside, rfl⟩ := List.getElem_of_mem member
  rw [check_functions, length_checkFunctions] at inside
  obtain ⟨cut, length⟩ := cut_at (List.getElem?_eq_getElem inside)
  obtain ⟨checked, found, exact⟩ := check_functions_tagsExact checker shape valid _ _ _ cut
  rw [length] at found
  obtain ⟨_, rfl⟩ := List.getElem?_eq_some_iff.mp found
  rw [← contextOf_scopeWithin] at exact
  exact tag_known (known_within shape cut) exact

/-- A program without complaints has no unknown type in its body. -/
theorem check_body_known (silent : (checker.check program).2.diagnostics = []) :
    ∀ node ∈ Node.walkAll (fun _ => true) (checker.check program).1.body,
      node.isExpression = true → node.tag ≠ .unknown := by
  have valid := (check_eq_nil checker shape).mp silent
  have exact := check_body_tagsExact checker shape valid
  rw [← contextOf_scopeBehind] at exact
  exact tag_known (known_scopeBehind shape fun _ member => member) exact

end Programs

/-- No tag is empty without a complaint, and no complaint comes from an empty tag. In every body of a
program that was read, an expression gets the empty tag exactly if it is a name or a call that means
nothing, or an operator with an operand of the empty tag; visiting it has then complained about
something inside it, and these complaints stand together among all complaints; and every complaint is
accounted for, none of them by a comparison with the empty tag. Where there is no complaint at all, no
expression is left without a tag. -/
theorem empty_tags_explained {settings : Settings} {tokens : List Token} {program : Program}
    {cursor : Cursor} (run : Program.ofTokens settings tokens = .ok program cursor)
    (checker : Checker) :
    let checked := (checker.check program).1
    let diagnostics := (checker.check program).2.diagnostics
    (∀ index function, program.functions[index]? = some function →
      ∃ tagged, checked.functions[index]? = some tagged ∧
        Explained diagnostics
          (scopeWithin (scopeBehind program (program.functions.take index)) function)
          (resolutionWithin program index function) function.body tagged.body) ∧
    Explained diagnostics (scopeBehind program program.functions) (resolutionOutside program)
      program.body checked.body ∧
    (diagnostics = [] → ∀ body ∈ checked.body :: checked.functions.map Function.body,
      ∀ node ∈ Node.walkAll (fun _ => true) body, node.isExpression = true →
        node.tag ≠ .unknown) := by
  intro checked diagnostics
  have shape := Program.shape_of_read (fun tok _ => Shape.Lexicon.free_admits tok) run
  refine ⟨?_, check_body_explained shape checker, ?_⟩
  · intro index function found
    obtain ⟨cut, length⟩ := cut_at found
    have written := checkFunctions_tagged (declared_scope checker program) _ _ _ cut
    have explained := check_function_explained shape checker cut
    rw [length] at written explained
    exact ⟨_, written, explained⟩
  · intro silent body member
    rcases List.mem_cons.mp member with rfl | member
    · exact check_body_known shape checker silent
    · obtain ⟨function, listed, rfl⟩ := List.mem_map.mp member
      exact check_functions_known shape checker silent function listed

/-- A source with a call and a name that mean nothing, both operands of one operator, and with an
assignment that does not fit. -/
def strayNames : Scanner where
  rest := "program p: begin d := f(x) + y; d := true end p.".toList

/-- What is complained about when a source is read and checked. -/
def complaintsOnReading (scanner : Scanner) : Option (List Complaint) :=
  match Program.ofTokens { feature := fun _ => true } scanner.tokens with
  | .ok program _ => some ((Checker.check {} program).2.diagnostics.map Diagnostic.complaint)
  | .failed .. | .crashed .. => none

/-- The first assignment is silent, as its value has the empty tag; the argument of the call that means
nothing is not visited. -/
theorem empty_tags_explained_strayNames :
    ∃ program cursor, Program.ofTokens { feature := fun _ => true } strayNames.tokens = .ok program cursor ∧
      (Checker.check {} program).2.diagnostics.map Diagnostic.complaint =
        [.undeclaredFunction "f", .undeclaredVariable "y", .assignmentTypes .integer .boolean] ∧
      Explained (Checker.check {} program).2.diagnostics (scopeBehind program program.functions)
        (resolutionOutside program) program.body (Checker.check {} program).1.body := by
  have complaints : complaintsOnReading strayNames =
      some [.undeclaredFunction "f", .undeclaredVariable "y", .assignmentTypes .integer .boolean] := by
    cbv
  unfold complaintsOnReading at complaints
  cases run : Program.ofTokens { feature := fun _ => true } strayNames.tokens with
  | ok program cursor =>
    rw [run] at complaints
    obtain ⟨-, explained, -⟩ := empty_tags_explained run {}
    exact ⟨program, cursor, rfl, Option.some.inj complaints, explained⟩
  | failed | crashed =>
    rw [run] at complaints
    exact absurd complaints (by simp)

end WinZig.Typing
