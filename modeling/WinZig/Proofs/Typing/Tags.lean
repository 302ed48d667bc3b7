import WinZig.Proofs.Relabelling
import WinZig.Proofs.Typing.Statements

/-!
# The tags that visits write

Visiting a body writes tags and changes nothing else. If nothing is wrong with the body, the tag of
every expression in it is the type of the expression, and there is no other.
-/

namespace WinZig

/-- Whether a node is an expression. -/
def Node.isExpression : Node → Bool
  | integer .. | boolean .. | character .. | name .. | call .. | binary .. | unary .. => true
  | _ => false

namespace Typing

open Checker

variable {scope : Scope}

/-! ## Nothing but tags changes -/

section Untagged

variable {onToken : Token → Token} {blank : Ty}

mutual

/-- Visiting a node changes types only. -/
theorem relabel_visit (node : Node) :
    Node.relabel onToken (fun _ => blank) (visit scope node).node =
      Node.relabel onToken (fun _ => blank) node := by
  cases node with
  | missing | integer | boolean | character => rfl
  | name tok tag name =>
    rw [visit_name]
    split <;> rfl
  | call tok tag callee args =>
    have given := relabelAll_visitAll args
    rw [visit_call]
    cases callRule scope callee args.length with
    | undeclared | wrongCount => rfl
    | anyArguments | matched => simp only [Node.relabel, given]
  | binary tok tag op left right =>
    simp only [visit_binary, Node.relabel, relabel_visit left, relabel_visit right]
  | unary tok tag op operand => simp only [visit_unary, Node.relabel, relabel_visit operand]
  | assign tok target value =>
    simp only [visit_assign, Node.relabel, relabel_visit target, relabel_visit value]
  | swap tok left right =>
    simp only [visit_swap, Node.relabel, relabel_visit left, relabel_visit right]
  | conditional tok condition thenBody elseBody =>
    simp only [visit_conditional, Node.relabel, relabel_visit condition,
      relabelAll_visitAll thenBody, relabelAll_visitAll elseBody]
  | forLoop tok start condition step body =>
    simp only [visit_forLoop, Node.relabel, relabel_visit start, relabel_visit condition,
      relabel_visit step, relabelAll_visitAll body]
  | whileLoop tok condition body =>
    simp only [visit_whileLoop, Node.relabel, relabel_visit condition, relabelAll_visitAll body]
  | repeatLoop tok body condition =>
    simp only [visit_repeatLoop, Node.relabel, relabel_visit condition, relabelAll_visitAll body]
  | caseOf tok selector clauses otherwise =>
    simp only [visit_caseOf, Node.relabel, relabel_visit selector,
      relabelClauses_visitClauses clauses, relabelAll_visitAll otherwise]
  | returnOf tok value => simp only [visit_returnOf, Node.relabel, relabel_visit value]

/-- Visiting nodes changes types only. -/
theorem relabelAll_visitAll (nodes : List Node) :
    Node.relabelAll onToken (fun _ => blank) (nodesOf (visitAll scope nodes)) =
      Node.relabelAll onToken (fun _ => blank) nodes := by
  cases nodes with
  | nil => rfl
  | cons node rest =>
    rw [Node.relabelAll, ← relabelAll_visitAll rest, ← relabel_visit node]
    rfl

/-- Visiting clauses changes types only. -/
theorem relabelClauses_visitClauses {selector : Ty} (clauses : List (Clause Node)) :
    Node.relabelClauses onToken (fun _ => blank)
        ((visitClauses scope selector clauses).map Prod.fst) =
      Node.relabelClauses onToken (fun _ => blank) clauses := by
  cases clauses with
  | nil => rfl
  | cons clause rest =>
    obtain ⟨low, high, body⟩ := clause
    simp only [visitClauses_cons, List.map_cons, Node.relabelClauses, relabel_visit low,
      relabel_visit high, relabelAll_visitAll body, relabelClauses_visitClauses rest]

end

end Untagged

/-- A complaint about a node does not depend on tags. -/
theorem complain_relabel {onTag : Ty → Ty} (node : Node) (complaint : Complaint) :
    (Node.relabel id onTag node).complain complaint = node.complain complaint := by
  cases node <;> rfl

/-- A visited node without types is the node without types. -/
theorem visit_untagged (node : Node) : (visit scope node).node.untagged = node.untagged :=
  relabel_visit node

/-- Visited nodes without types are the nodes without types. -/
theorem visitAll_untagged (body : List Node) :
    (nodesOf (visitAll scope body)).map Node.untagged = body.map Node.untagged := by
  simp only [nodesOf_visitAll, List.map_map, Function.comp_def, visit_untagged]

/-! A visit changes tags only, so it neither moves a node nor makes it another one. -/

/-- Complaints about a visited node are those about the node. -/
theorem complain_visit (node : Node) (complaint : Complaint) :
    (visit scope node).node.complain complaint = node.complain complaint := by
  have same : (visit scope node).node.untagged.complain complaint =
      node.untagged.complain complaint := by rw [visit_untagged]
  rwa [Node.untagged, complain_relabel, complain_relabel] at same

/-- A visited node is present exactly when the node was. -/
theorem isPresent_visit (node : Node) : (visit scope node).node.isPresent = node.isPresent := by
  have same : (visit scope node).node.untagged.isPresent = node.untagged.isPresent := by
    rw [visit_untagged]
  rwa [Node.untagged, Node.isPresent_relabel, Node.isPresent_relabel] at same

/-- A visited node is a literal exactly when the node was. -/
theorem isLiteral_visit (node : Node) : (visit scope node).node.isLiteral = node.isLiteral := by
  have same : (visit scope node).node.untagged.isLiteral = node.untagged.isLiteral := by
    rw [visit_untagged]
  rwa [Node.untagged, Node.isLiteral_relabel, Node.isLiteral_relabel] at same

/-! ## Trees as they are read carry no tags -/

section Shape

variable {lexicon : Shape.Lexicon}

/-- Nodes without types are relabelled to themselves. -/
theorem untaggedAll_eq_self {nodes : List Node} (each : ∀ node ∈ nodes, node.untagged = node) :
    Node.relabelAll id (fun _ => .unknown) nodes = nodes := by
  rw [Node.relabelAll_eq_map]
  exact (List.map_congr_left each).trans (List.map_id' nodes)

/-- Names of the grammar have no types yet. -/
theorem name_untagged {node : Node} (shape : Shape.IsName lexicon node) : node.untagged = node := by
  cases shape
  rfl

/-- Expressions of the grammar have no types yet. -/
theorem expression_untagged {node : Node} (shape : Shape.IsExpression lexicon node) :
    node.untagged = node := by
  induction shape with
  | literal written => cases written <;> rfl
  | name written => exact name_untagged written
  | call named given ih =>
    exact congrArg (Node.call _ _ _) (untaggedAll_eq_self ih)
  | binary binds before behind ihBefore ihBehind =>
    simp only [Node.untagged] at ihBefore ihBehind
    simp only [Node.untagged, Node.relabel, id_eq, ihBefore, ihBehind]
  | unary applies only ih => exact congrArg (Node.unary _ _ _) ih

/-- Assignments of the grammar have no types yet. -/
theorem assignment_untagged {node : Node} (shape : Shape.IsAssignment lexicon node) :
    node.untagged = node := by
  obtain ⟨named, written⟩ := shape
  have before := name_untagged named
  have behind := expression_untagged written
  simp only [Node.untagged] at before behind
  simp only [Node.untagged, Node.relabel, id_eq, before, behind]

/-- Statements of the grammar have no types yet. -/
theorem statement_untagged {stmt : Node} (shape : Shape.IsStatement lexicon stmt) :
    stmt.untagged = stmt := by
  have value {node : Node} (written : Shape.IsExpression lexicon node) :
      Node.relabel id (fun _ => .unknown) node = node := expression_untagged written
  have assigned {node : Node} (written : Shape.IsAssignment lexicon node) :
      Node.relabel id (fun _ => .unknown) node = node := assignment_untagged written
  induction shape with
  | assignment written => exact assigned written
  | exchange before behind =>
    simp only [Node.untagged, Node.relabel, id_eq, value (.name before), value (.name behind)]
  | output named some given =>
    exact congrArg (Node.call _ _ _)
      (untaggedAll_eq_self fun arg member => value (given arg member))
  | read named some given =>
    exact congrArg (Node.call _ _ _)
      (untaggedAll_eq_self fun arg member => name_untagged (given arg member))
  | conditional tested held failed ihHeld ihFailed =>
    simp only [Node.untagged, Node.relabel, id_eq, value tested, untaggedAll_eq_self ihHeld,
      untaggedAll_eq_self ihFailed]
  | forLoop begun tested stepped held ihHeld =>
    simp only [Node.untagged, Node.relabel, id_eq, assigned begun, value tested, assigned stepped,
      untaggedAll_eq_self ihHeld]
  | whileLoop tested held ihHeld =>
    simp only [Node.untagged, Node.relabel, id_eq, value tested, untaggedAll_eq_self ihHeld]
  | repeatLoop held tested ihHeld =>
    simp only [Node.untagged, Node.relabel, id_eq, value tested, untaggedAll_eq_self ihHeld]
  | @caseOf tok selector clauses otherwise selected lows highs held remaining ihHeld ihRemaining =>
    have clauses : Node.relabelClauses id (fun _ => .unknown) clauses = clauses := by
      rw [Node.relabelClauses_eq_map]
      refine (List.map_congr_left fun clause member => ?_).trans (List.map_id' clauses)
      have high : Node.relabel id (fun _ => .unknown) clause.high = clause.high := by
        rcases highs clause member with missing | written
        · rw [missing, Node.relabel]
        · exact value written.expression
      rw [value (lows clause member).expression, high, ← Node.relabelAll_eq_map,
        untaggedAll_eq_self (ihHeld clause member)]
    simp only [Node.untagged, Node.relabel, id_eq, value selected, clauses,
      untaggedAll_eq_self ihRemaining]
  | returnOf given => exact congrArg (Node.returnOf _) (value given)

/-- A body that was read carries no tags. -/
theorem body_untagged {body : List Node} (shape : ∀ stmt ∈ body, Shape.IsStatement lexicon stmt) :
    body.map Node.untagged = body := by
  refine (List.map_congr_left fun stmt member => ?_).trans (List.map_id' body)
  exact statement_untagged (shape stmt member)

end Shape

/-! ## Expressions carry their types -/

section Tagged

variable {context : Context}

/-- Every expression in a tree is of the type of its tag. -/
def Tagged (context : Context) (node : Node) : Prop :=
  ∀ inner ∈ node.walk fun _ => true, inner.isExpression = true → HasType context inner inner.tag

/-- A node is tagged if it has its own type and its children are tagged. -/
theorem tagged_of_children {node : Node}
    (own : node.isExpression = true → HasType context node node.tag)
    (below : ∀ child ∈ node.children, Tagged context child) : Tagged context node := by
  intro inner member
  by_cases present : node.isPresent = true
  · rw [Node.walk_eq _ _ present, if_pos rfl, List.mem_cons, List.mem_flatMap] at member
    rcases member with rfl | ⟨child, isChild, member⟩
    · exact own
    · exact below child isChild inner member
  · cases node with
    | missing => exact nomatch member
    | _ => exact absurd rfl present

/-- What is no expression is tagged if its parts are. -/
theorem tagged_of_parts {node : Node} (other : node.isExpression = false)
    (below : ∀ child ∈ node.children, Tagged context child) : Tagged context node := by
  refine tagged_of_children (fun expression => ?_) below
  exact absurd (other.symm.trans expression) Bool.false_ne_true

/-- The arguments of a call keep their types when they are visited. -/
theorem hasType_visitAll {args : List Node} {types : List Ty}
    (each : ∀ pair ∈ args.zip types, HasType context (visit scope pair.1).node pair.2) :
    ∀ pair ∈ (nodesOf (visitAll scope args)).zip types, HasType context pair.1 pair.2 := by
  intro pair member
  rw [nodesOf, visitAll_eq_map, List.map_map, List.zip_map_left, List.mem_map] at member
  obtain ⟨⟨arg, type⟩, paired, rfl⟩ := member
  exact each _ paired

/-- Visited nodes are tagged if each of them is. -/
theorem tagged_visitAll {nodes : List Node}
    (each : ∀ node ∈ nodes, Tagged context (visit scope node).node) :
    ∀ child ∈ nodesOf (visitAll scope nodes), Tagged context child := by
  intro child member
  rw [nodesOf, visitAll_eq_map, List.map_map, List.mem_map] at member
  obtain ⟨node, listed, rfl⟩ := member
  exact each node listed

/-- Visited clauses are tagged if everything in them is. -/
theorem tagged_visitClauses {selector : Ty} {clauses : List (Clause Node)}
    (each : ∀ clause ∈ clauses, Tagged context (visit scope clause.low).node ∧
      Tagged context (visit scope clause.high).node ∧
      ∀ stmt ∈ clause.body, Tagged context (visit scope stmt).node) :
    ∀ child ∈ ((visitClauses scope selector clauses).map Prod.fst).flatMap
        (fun clause => clause.low :: clause.high :: clause.body), Tagged context child := by
  induction clauses with
  | nil => exact fun _ => nofun
  | cons clause clauses ih =>
    obtain ⟨⟨low, high, held⟩, others⟩ := List.forall_mem_cons.mp each
    simp only [visitClauses_cons, List.map_cons, List.flatMap_cons, List.cons_append,
      List.forall_mem_cons, List.forall_mem_append]
    exact ⟨low, high, tagged_visitAll held, ih others⟩

variable (known : Known scope)

include known

/-- What a visit makes of an expression has the type of the expression, and every expression in it
carries its own. -/
theorem tagged_of_hasType {node : Node} {type : Ty} (typed : HasType (contextOf scope) node type) :
    HasType (contextOf scope) (visit scope node).node type ∧
      (visit scope node).node.tag = type ∧
      Tagged (contextOf scope) (visit scope node).node := by
  induction typed with
  | integer => exact ⟨.integer, rfl, tagged_of_children (fun _ => .integer) (fun _ => nofun)⟩
  | boolean => exact ⟨.boolean, rfl, tagged_of_children (fun _ => .boolean) (fun _ => nofun)⟩
  | character => exact ⟨.character, rfl, tagged_of_children (fun _ => .character) (fun _ => nofun)⟩
  | name bound =>
    obtain ⟨sym, found, rfl⟩ := means_variable.mp bound
    rw [visit_name, found]
    exact ⟨.name bound, rfl, tagged_of_children (fun _ => .name bound) (fun _ => nofun)⟩
  | @procedure tok tag callee args types result bound count given ih =>
    rw [visit_call, callRule_of_procedure bound]
    have typed : HasType (contextOf scope)
        (.call tok result callee (nodesOf (visitAll scope args))) result :=
      .procedure bound (by simpa [nodesOf, visitAll_eq_map] using count)
        (hasType_visitAll fun pair member => (ih pair member).1)
    refine ⟨typed, rfl, tagged_of_children (fun _ => typed) (tagged_visitAll fun arg member => ?_)⟩
    obtain ⟨type, paired⟩ := exists_mem_zip count member
    exact (ih _ paired).2.2
  | @function tok tag callee args params result bound count given ih =>
    rw [visit_call, callRule_of_function bound count.symm]
    have typed : HasType (contextOf scope)
        (.call tok result callee (nodesOf (visitAll scope args))) result :=
      .function bound (by simpa [nodesOf, visitAll_eq_map] using count)
        (hasType_visitAll fun pair member => (ih pair member).1)
    refine ⟨typed, rfl, tagged_of_children (fun _ => typed) (tagged_visitAll fun arg member => ?_)⟩
    obtain ⟨type, paired⟩ := exists_mem_zip count member
    exact (ih _ paired).2.2
  | @binary tok tag op left leftType right rightType type before behind rule ihBefore ihBehind =>
    obtain ⟨-, tagLeft, knownLeft⟩ := visit_of_hasType known before
    obtain ⟨-, tagRight, knownRight⟩ := visit_of_hasType known behind
    have visited : (visit scope (.binary tok tag op left right)).node =
        .binary tok type op (visit scope left).node (visit scope right).node := by
      simp [visit_binary, tagLeft, tagRight, knownLeft, knownRight, binaryRule_of_binary rule]
    have typed : HasType (contextOf scope)
        (.binary tok type op (visit scope left).node (visit scope right).node) type :=
      .binary ihBefore.1 ihBehind.1 rule
    rw [visited]
    refine ⟨typed, rfl, tagged_of_children (fun _ => typed) ?_⟩
    simpa [Node.children] using ⟨ihBefore.2.2, ihBehind.2.2⟩
  | @unary tok tag op operand operandType type only rule ih =>
    obtain ⟨-, tagOnly, knownOnly⟩ := visit_of_hasType known only
    have visited : (visit scope (.unary tok tag op operand)).node =
        .unary tok type op (visit scope operand).node := by
      simp [visit_unary, tagOnly, knownOnly, unaryRule_of_unary rule]
    rw [visited]
    refine ⟨.unary ih.1 rule, rfl, tagged_of_children (fun _ => .unary ih.1 rule) ?_⟩
    simpa [Node.children] using ih.2.2

/-- Every expression in what a visit makes of a valid statement carries its type. -/
theorem tagged_of_isValid {stmt : Node} (valid : IsValid (contextOf scope) stmt) :
    Tagged (contextOf scope) (visit scope stmt).node := by
  have value {node : Node} {type : Ty} (typed : HasType (contextOf scope) node type) :
      Tagged (contextOf scope) (visit scope node).node := (tagged_of_hasType known typed).2.2
  induction valid with
  | assign before behind | swap before behind =>
    refine tagged_of_parts rfl ?_
    simpa [visit_assign, visit_swap, Node.children] using ⟨value before, value behind⟩
  | call called => exact value called
  | conditional tested held failed ihHeld ihFailed =>
    refine tagged_of_parts rfl ?_
    simp only [visit_conditional, Node.children, List.forall_mem_cons, List.cons_append,
      List.forall_mem_append]
    exact ⟨value tested, tagged_visitAll ihHeld, tagged_visitAll ihFailed⟩
  | forLoop begun tested stepped held ihBegun ihStepped ihHeld =>
    refine tagged_of_parts rfl ?_
    simp only [visit_forLoop, Node.children, List.forall_mem_cons]
    exact ⟨ihBegun, value tested, ihStepped, tagged_visitAll ihHeld⟩
  | whileLoop tested held ihHeld =>
    refine tagged_of_parts rfl ?_
    simp only [visit_whileLoop, Node.children, List.forall_mem_cons]
    exact ⟨value tested, tagged_visitAll ihHeld⟩
  | repeatLoop held tested ihHeld =>
    refine tagged_of_parts rfl ?_
    simp only [visit_repeatLoop, Node.children, List.forall_mem_append, List.forall_mem_singleton]
    exact ⟨tagged_visitAll ihHeld, value tested⟩
  | @caseOf tok selector clauses otherwise type selected computed lows highs held remaining ihHeld
      ihRemaining =>
    refine tagged_of_parts rfl ?_
    simp only [visit_caseOf, Node.children, List.forall_mem_cons, List.cons_append,
      List.forall_mem_append]
    refine ⟨value selected, tagged_visitClauses fun clause member => ⟨value (lows clause member), ?_,
      ihHeld clause member⟩, tagged_visitAll ihRemaining⟩
    rcases highs clause member with missing | typed
    · rw [missing]
      exact fun _ member => absurd member List.not_mem_nil
    · exact value typed
  | returnOf given wanted =>
    refine tagged_of_parts rfl ?_
    simpa [visit_returnOf, Node.children] using value given

/-- An expression has at most one type. -/
theorem hasType_unique {node : Node} {type type' : Ty} (typed : HasType (contextOf scope) node type)
    (typed' : HasType (contextOf scope) node type') : type = type' :=
  (visit_of_hasType known typed).2.1.symm.trans (visit_of_hasType known typed').2.1

/-- Every expression in some statements has its tag as its type, and no other. -/
def TagsExact (context : Context) (body : List Node) : Prop :=
  ∀ node ∈ Node.walkAll (fun _ => true) body, node.isExpression = true →
    ∀ type, HasType context node type ↔ type = node.tag

/-- The tags that are written into a valid body are exact. -/
theorem tagsExact_of_isValid {body : List Node}
    (valid : ∀ stmt ∈ body, IsValid (contextOf scope) stmt) :
    TagsExact (contextOf scope) (nodesOf (visitAll scope body)) := by
  intro node member expression type
  rw [Node.walkAll_eq_flatMap, List.mem_flatMap] at member
  obtain ⟨stmt, listed, member⟩ := member
  have tagged : Tagged (contextOf scope) stmt :=
    tagged_visitAll (fun stmt inside => tagged_of_isValid known (valid stmt inside)) stmt listed
  have typed := tagged node member expression
  constructor
  · exact fun other => hasType_unique known other typed
  · rintro rfl
    exact typed

end Tagged

end Typing

end WinZig
