import WinZig.Proofs.Typing.Resolution

/-!
# Complaints that come from comparing tags

A complaint about a node comes from what its name means, from a literal that is made to select, or from
tags that do not fit together: those of operands, of the two sides of an assignment, of a condition, an
argument, a returned value or the value of a case clause. Here the comparisons that a node asks for are
read off the tags that have been written into its parts. One rule stands above them all: where one of
the compared tags is empty, there is nothing to complain about.

The complaints of a visit are then accounted for. They are those of the node itself, and those of the
visits of its parts.
-/

namespace WinZig.Typing

open Checker

/-- A comparison of the tags of some operands, and the complaint if they do not fit. -/
structure Comparison where
  operands : List Ty
  complaint : Option Diagnostic

namespace Comparison

/-- Whether no operand has the empty tag. -/
def isDetermined (comparison : Comparison) : Bool := comparison.operands.all (· != .unknown)

/-- Two tags that should be the same. -/
def between (left right : Ty) (diagnostic : Diagnostic) : Comparison where
  operands := [left, right]
  complaint := if left = right then none else some diagnostic

/-- A tag that should be a given one. -/
def against (wanted found : Ty) (diagnostic : Diagnostic) : Comparison where
  operands := [found]
  complaint := if found = wanted then none else some diagnostic

end Comparison

/-- The comparisons of arguments with parameters. -/
def argumentComparisons (callee : String) (params : List Ty) (args : List Node) : List Comparison :=
  params.zipWith (fun wanted arg =>
    .against wanted arg.tag (arg.complain (.argumentType wanted arg.tag callee))) args

/-- The comparison of a condition. -/
def conditionComparison (stmt : Node) (kind : Conditioned) (condition : Node) : Comparison :=
  .against .boolean condition.tag (stmt.complain (.condition kind))

/-- The comparison of a value of a clause with the selector. -/
def valueComparison (selector : Ty) (complaint : Ty → Ty → Complaint) (value : Node) : Comparison :=
  .between value.tag selector (value.complain (complaint value.tag selector))

/-- The comparisons of the bounds of a clause, or of its only value, with the selector. -/
def clauseComparisons (selector : Ty) (clause : Clause Node) : List Comparison :=
  if clause.high.isPresent then
    [valueComparison selector .rangeStartType clause.low,
      valueComparison selector .rangeEndType clause.high]
  else [valueComparison selector .caseValueType clause.low]

/-- The comparisons that a node asks for, whose parts carry their tags already. -/
def comparisons (resolution : Resolution) (owner : Option Owner) (node : Node) : List Comparison :=
  match node with
  | .call _ _ callee args =>
    match resolution.callee callee with
    | none => []
    | some sym =>
      if sym.role ≠ .builtin ∧ sym.params.length = args.length then
        argumentComparisons callee sym.params args
      else []
  | .binary _ _ op left right =>
    [⟨[left.tag, right.tag], (binaryRule op left.tag right.tag).2.map node.complain⟩]
  | .unary _ _ op operand => [⟨[operand.tag], (unaryRule op operand.tag).2.map node.complain⟩]
  | .assign _ target value =>
    [.between target.tag value.tag (node.complain (.assignmentTypes target.tag value.tag))]
  | .swap _ left right =>
    [.between left.tag right.tag (node.complain (.swapTypes left.tag right.tag))]
  | .conditional _ condition _ _ => [conditionComparison node .ifStatement condition]
  | .forLoop _ _ condition _ _ => [conditionComparison node .forStatement condition]
  | .whileLoop _ condition _ => [conditionComparison node .whileStatement condition]
  | .repeatLoop _ _ condition => [conditionComparison node .repeatStatement condition]
  | .caseOf _ selector clauses _ => clauses.flatMap (clauseComparisons selector.tag)
  | .returnOf _ value =>
    match owner with
    | none => []
    | some owner =>
      [.against owner.result value.tag
        (node.complain (.returnType value.tag owner.result owner.name))]
  | _ => []

/-- The complaints of the comparisons that fail; one with an empty tag does not fail. -/
def failures (comparisons : List Comparison) : List Diagnostic :=
  (comparisons.filter Comparison.isDetermined).filterMap Comparison.complaint

/-- The complaint about a literal that is made to select. -/
def selectorComplaints : Node → List Diagnostic
  | .caseOf _ selector _ _ => complainIf selector.isLiteral (selector.complain .literalSelector)
  | _ => []

/-- The complaints of a node itself. -/
def ownComplaints (resolution : Resolution) (owner : Option Owner) (node : Node) : List Diagnostic :=
  complaintsAbout resolution node ++ selectorComplaints node ++
    failures (comparisons resolution owner node)

/-! ## Failures -/

/-- Failures of two lists of comparisons are those of each. -/
theorem failures_append (first second : List Comparison) :
    failures (first ++ second) = failures first ++ failures second := by
  simp [failures]

/-- Failures begin with those of the first comparison. -/
theorem failures_cons (first : Comparison) (others : List Comparison) :
    failures (first :: others) = failures [first] ++ failures others :=
  failures_append [first] others

/-- Comparing two types fails exactly when they disagree. -/
theorem failures_between (left right : Ty) (diagnostic : Diagnostic) :
    failures [.between left right diagnostic] = complainIf (disagree left right) diagnostic := by
  by_cases first : left = .unknown
  · simp [failures, Comparison.isDetermined, Comparison.between, complainIf, disagree, first]
  · by_cases second : right = .unknown
    · simp [failures, Comparison.isDetermined, Comparison.between, complainIf, disagree, second]
    · by_cases same : left = right
      · simp [failures, Comparison.between, complainIf, disagree, same]
      · simp [failures, Comparison.isDetermined, Comparison.between, complainIf, disagree, first,
          second, same]

/-- Comparing with a wanted type fails exactly when the other one is known and different. -/
theorem failures_against (wanted found : Ty) (diagnostic : Diagnostic) :
    failures [.against wanted found diagnostic] =
      complainIf (found != .unknown && found != wanted) diagnostic := by
  by_cases empty : found = .unknown
  · simp [failures, Comparison.isDetermined, Comparison.against, complainIf, empty]
  · by_cases same : found = wanted
    · simp [failures, Comparison.against, complainIf, same]
    · simp [failures, Comparison.isDetermined, Comparison.against, complainIf, empty, same]

/-- A comparison of operands complains as an operator does that has been found to be applicable. -/
theorem failures_operands {operands : List Ty} {complaint : Option Diagnostic} :
    failures [⟨operands, complaint⟩] =
      if operands.all (· != .unknown) then complaint.toList else [] := by
  cases known : operands.all (· != .unknown) with
  | false => simp [failures, Comparison.isDetermined, known]
  | true => cases complaint <;> simp [failures, Comparison.isDetermined, known]

/-! ## Visits -/

section Visits

variable {scope : Scope} {resolution : Resolution}

/-- Complaints about arguments, by induction on the parameters they are held against. -/
theorem failures_arguments (callee : String) (params : List Ty) (args : List Node) :
    failures (argumentComparisons callee params (nodesOf (visitAll scope args))) =
      argumentComplaints callee params args (visitAll scope args) := by
  induction params generalizing args with
  | nil => rfl
  | cons wanted params inductionHypothesis =>
    cases args with
    | nil => rfl
    | cons arg args =>
      have others := inductionHypothesis args
      rw [argumentComparisons, nodesOf] at others
      rw [argumentComparisons, nodesOf, visitAll_cons, List.map_cons, List.zipWith_cons_cons,
        failures_cons, failures_against, others, tag_visit, complain_visit, argumentComplaints,
        argumentComplaint]

/-- A condition fails its comparison exactly when it is complained about. -/
theorem failures_condition (stmt : Node) (kind : Conditioned) (condition : Node) :
    failures [conditionComparison stmt kind (visit scope condition).node] =
      conditionComplaint stmt kind (visit scope condition) := by
  have known : (Ty.boolean != .unknown) = true := rfl
  rw [conditionComparison, failures_against, tag_visit, conditionComplaint, disagree, known,
    Bool.and_true]

/-- A value of a case fails its comparison exactly when it is complained about. -/
theorem failures_value (selector : Ty) (complaint : Ty → Ty → Complaint) (value : Node) :
    failures [valueComparison selector complaint (visit scope value).node] =
      caseComplaint selector value (visit scope value) complaint := by
  rw [valueComparison, failures_between, tag_visit, complain_visit]
  rfl

/-- Complaints about clauses: those of the comparisons, and those of the visits of their parts. -/
theorem clauses_accounted (scope : Scope) (selector : Ty) (clauses : List (Clause Node)) :
    ((visitClauses scope selector clauses).flatMap Prod.snd).Perm
      (failures (((visitClauses scope selector clauses).map Prod.fst).flatMap
          (clauseComparisons selector)) ++
        (clauses.flatMap fun clause => clause.low :: clause.high :: clause.body).flatMap
          fun child => (visit scope child).diagnostics) := by
  induction clauses with
  | nil => rfl
  | cons clause clauses inductionHypothesis =>
    obtain ⟨low, high, body⟩ := clause
    have others := List.perm_iff_count.mp inductionHypothesis
    rw [List.perm_iff_count]
    intro diagnostic
    simp only [visitClauses_cons, List.flatMap_cons, List.map_cons, failures_append,
      clauseComparisons, isPresent_visit, List.count_append, List.flatMap_append, List.cons_append,
      others, diagnosticsOf_visitAll]
    cases high with
    | missing =>
      have silent : caseComplaint selector .missing { node := .missing } .rangeEndType = [] := rfl
      simp only [Node.isPresent, Bool.false_eq_true, if_false, failures_value, visit_missing,
        silent, List.count_nil]
      omega
    | _ =>
      simp only [Node.isPresent, if_true, failures_cons (valueComparison _ _ _) [_],
        failures_value, List.count_append]
      omega

variable (gives : Gives scope resolution)

include gives

/-- A call, by what its name means. -/
theorem call_accounted (tok : Token) (tag : Ty) (callee : String) (args : List Node) :
    (visit scope (.call tok tag callee args)).diagnostics.Perm
      (ownComplaints resolution scope.owner (visit scope (.call tok tag callee args)).node ++
        if enters resolution (.call tok tag callee args) then
          args.flatMap fun child => (visit scope child).diagnostics
        else []) := by
  have count : (nodesOf (visitAll scope args)).length = args.length := by
    simp [nodesOf_visitAll]
  cases found : resolution.callee callee with
  | none =>
    have rule : callRule scope callee args.length = .undeclared := by
      rw [callRule, (gives callee).2, found]
    simp only [visit_call, rule, ownComplaints, complaintsAbout, selectorComplaints, comparisons,
      enters, found, Option.isNone_none, Option.any_none, Bool.false_eq_true, if_true, if_false]
    rfl
  | some sym =>
    by_cases builtin : sym.role = .builtin
    · have rule : callRule scope callee args.length = .anyArguments sym.type := by
        rw [callRule, (gives callee).2, found]
        simp [builtin]
      simp [visit_call, rule, ownComplaints, complaintsAbout, selectorComplaints, comparisons,
        enters, found, builtin, diagnosticsOf_visitAll, failures]
    · by_cases fits : sym.params.length = args.length
      · have rule : callRule scope callee args.length = .matched sym.type sym.params := by
          rw [callRule, (gives callee).2, found]
          simp [builtin, fits]
        simp [visit_call, rule, ownComplaints, complaintsAbout, selectorComplaints, comparisons,
          enters, found, builtin, fits, count, diagnosticsOf_visitAll, failures_arguments]
        exact List.perm_append_comm
      · have rule : callRule scope callee args.length = .wrongCount sym.type := by
          rw [callRule, (gives callee).2, found]
          simp [builtin, fits]
        simp [visit_call, rule, ownComplaints, complaintsAbout, selectorComplaints, comparisons,
          enters, found, builtin, fits, failures]
        rfl

omit gives in
/-- The complaint about operands, if their tags are known. -/
theorem own_binary (tok : Token) (tag : Ty) (op : Kind) (left right : Node) :
    ownComplaints resolution scope.owner (visit scope (.binary tok tag op left right)).node =
      ((if (visit scope left).tag = .unknown ∨ (visit scope right).tag = .unknown then (.unknown, none)
        else binaryRule op (visit scope left).tag (visit scope right).tag).2.map
          (Node.binary tok tag op left right).complain).toList := by
  simp only [visit_binary, ownComplaints, complaintsAbout, selectorComplaints, comparisons,
    failures_operands, tag_visit, List.nil_append]
  by_cases empty : (visit scope left).tag = .unknown ∨ (visit scope right).tag = .unknown
  · rcases empty with empty | empty <;> simp [empty]
  · obtain ⟨first, second⟩ := not_or.mp empty
    simp [first, second]
    rfl

omit gives in
/-- The complaint about a unary operation is the one its operator makes. -/
theorem own_unary (tok : Token) (tag : Ty) (op : Kind) (operand : Node) :
    ownComplaints resolution scope.owner (visit scope (.unary tok tag op operand)).node =
      ((if (visit scope operand).tag = .unknown then (.unknown, none)
        else unaryRule op (visit scope operand).tag).2.map
          (Node.unary tok tag op operand).complain).toList := by
  simp only [visit_unary, ownComplaints, complaintsAbout, selectorComplaints, comparisons,
    failures_operands, tag_visit, List.nil_append]
  by_cases empty : (visit scope operand).tag = .unknown
  · simp [empty]
  · simp [empty]
    rfl

/-- The complaints of a visit are those of the node itself, and those of the visits of its parts. -/
theorem visit_accounted (node : Node) :
    (visit scope node).diagnostics.Perm
      (ownComplaints resolution scope.owner (visit scope node).node ++
        if enters resolution node then
          node.children.flatMap fun child => (visit scope child).diagnostics
        else []) := by
  cases node with
  | missing | integer | boolean | character => rfl
  | name tok tag name =>
    simp only [visit_name, (gives name).1]
    cases found : resolution.value name with
    | none =>
      simp [ownComplaints, complaintsAbout, selectorComplaints, comparisons, failures, found, enters,
        Node.children, Node.complain, Node.position, Node.token]
    | some sym =>
      simp [ownComplaints, complaintsAbout, selectorComplaints, comparisons, failures, found, enters,
        Node.children]
  | call tok tag callee args => exact call_accounted gives tok tag callee args
  | binary tok tag op left right =>
    rw [own_binary]
    simp only [visit_binary, enters, Node.children, List.flatMap_cons, List.flatMap_nil,
      List.append_nil, if_true]
    exact List.perm_append_comm
  | unary tok tag op operand =>
    rw [own_unary]
    simp only [visit_unary, enters, Node.children, List.flatMap_cons, List.flatMap_nil,
      List.append_nil, if_true]
    exact List.perm_append_comm
  | assign tok target value =>
    simp only [visit_assign, ownComplaints, complaintsAbout, selectorComplaints, comparisons,
      failures_between, tag_visit, enters, Node.children, List.flatMap_cons, List.flatMap_nil,
      List.append_nil, List.nil_append, if_true]
    exact List.perm_append_comm
  | swap tok left right =>
    simp only [visit_swap, ownComplaints, complaintsAbout, selectorComplaints, comparisons,
      failures_between, tag_visit, enters, Node.children, List.flatMap_cons, List.flatMap_nil,
      List.append_nil, List.nil_append, if_true]
    exact List.perm_append_comm
  | conditional tok condition thenBody elseBody =>
    have own : ownComplaints resolution scope.owner
          (visit scope (.conditional tok condition thenBody elseBody)).node =
        conditionComplaint (.conditional tok condition thenBody elseBody) .ifStatement
          (visit scope condition) := failures_condition _ _ _
    rw [own, List.perm_iff_count]
    intro diagnostic
    simp only [visit_conditional, diagnosticsOf_visitAll, enters, Node.children, List.flatMap_cons,
      List.flatMap_append, List.cons_append, if_true, List.count_append]
    omega
  | forLoop tok start condition step body =>
    have own : ownComplaints resolution scope.owner
          (visit scope (.forLoop tok start condition step body)).node =
        conditionComplaint (.forLoop tok start condition step body) .forStatement
          (visit scope condition) := failures_condition _ _ _
    rw [own, List.perm_iff_count]
    intro diagnostic
    simp only [visit_forLoop, diagnosticsOf_visitAll, enters, Node.children, List.flatMap_cons,
      if_true, List.count_append]
    omega
  | whileLoop tok condition body =>
    have own : ownComplaints resolution scope.owner (visit scope (.whileLoop tok condition body)).node =
        conditionComplaint (.whileLoop tok condition body) .whileStatement (visit scope condition) :=
      failures_condition _ _ _
    rw [own, List.perm_iff_count]
    intro diagnostic
    simp only [visit_whileLoop, diagnosticsOf_visitAll, enters, Node.children, List.flatMap_cons,
      if_true, List.count_append]
    omega
  | repeatLoop tok body condition =>
    have own : ownComplaints resolution scope.owner (visit scope (.repeatLoop tok body condition)).node =
        conditionComplaint (.repeatLoop tok body condition) .repeatStatement (visit scope condition) :=
      failures_condition _ _ _
    rw [own, List.perm_iff_count]
    intro diagnostic
    simp only [visit_repeatLoop, diagnosticsOf_visitAll, enters, Node.children, List.flatMap_cons,
      List.flatMap_append, List.flatMap_nil, List.append_nil, if_true, List.count_append]
    omega
  | caseOf tok selector clauses otherwise =>
    have parts := List.perm_iff_count.mp (clauses_accounted scope (visit scope selector).tag clauses)
    rw [List.perm_iff_count]
    intro diagnostic
    simp only [visit_caseOf, ownComplaints, complaintsAbout, selectorComplaints, comparisons,
      tag_visit, diagnosticsOf_visitAll, enters, Node.children, List.flatMap_cons,
      List.flatMap_append, List.cons_append, if_true, List.count_append, List.count_nil, parts,
      isLiteral_visit, complain_visit]
    omega
  | returnOf tok value =>
    have own : ownComplaints resolution scope.owner (visit scope (.returnOf tok value)).node =
        returnComplaint scope (.returnOf tok value) (visit scope value) := by
      simp only [visit_returnOf, ownComplaints, complaintsAbout, selectorComplaints, comparisons,
        returnComplaint, List.nil_append]
      cases scope.owner with
      | none => rfl
      | some owner =>
        simp only [failures_against, tag_visit]
        rfl
    rw [own]
    simp only [visit_returnOf, enters, Node.children, List.flatMap_cons, List.flatMap_nil,
      List.append_nil, if_true]
    exact List.perm_append_comm

end Visits

end WinZig.Typing
