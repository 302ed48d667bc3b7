import WinZig.Proofs.Typing.Frames

/-!
# Checking again

The tree that is checked carries tags already when it has been checked before, and the checker that
checks it has a past. Neither matters. No tag is read before it is written, so complaints, notices and
symbols are those of a fresh checker on the tree without tags. What is written the second time is what
was written the first time: where a call is not entered, it is not entered again.
-/

namespace WinZig.Typing

open Checker

/-- What a visit finds out about a node: its tag, and the complaints. -/
def findings (visited : Visited) : Ty × List Diagnostic := (visited.tag, visited.diagnostics)

variable {scope : Scope}

/-! ## Findings do not depend on tags -/

section Findings

variable {onTag : Ty → Ty}

/-- Visits with the same findings make the same complaints. -/
theorem diagnosticsOf_congr {visits visits' : List Visited}
    (same : visits.map findings = visits'.map findings) :
    diagnosticsOf visits = diagnosticsOf visits' := by
  have read (visits : List Visited) :
      diagnosticsOf visits = (visits.map findings).flatMap Prod.snd := by
    rw [diagnosticsOf, List.flatMap_map]
    rfl
  rw [read, read, same]

/-- Complaints about arguments, by induction on the parameters they are held against. -/
theorem argumentComplaints_relabel (callee : String) (params : List Ty) (args : List Node)
    {visits visits' : List Visited} (same : visits.map findings = visits'.map findings) :
    argumentComplaints callee params (Node.relabelAll id onTag args) visits =
      argumentComplaints callee params args visits' := by
  induction params generalizing args visits visits' with
  | nil => rfl
  | cons wanted params inductionHypothesis =>
    cases args with
    | nil => rfl
    | cons arg args =>
      cases visits with
      | nil =>
        cases visits' with
        | nil => rfl
        | cons => simp at same
      | cons visit visits =>
        cases visits' with
        | nil => simp at same
        | cons visit' visits' =>
          simp only [List.map_cons, List.cons.injEq, findings, Prod.mk.injEq] at same
          obtain ⟨⟨tag, -⟩, others⟩ := same
          simp only [Node.relabelAll, argumentComplaints, argumentComplaint, complain_relabel, tag,
            inductionHypothesis args others]

mutual

/-- What is found out about a node does not depend on the tags in it. -/
theorem findings_relabel (node : Node) :
    findings (visit scope (Node.relabel id onTag node)) = findings (visit scope node) := by
  cases node with
  | missing | integer | boolean | character => rfl
  | name tok tag name =>
    simp only [Node.relabel, visit_name, id_eq]
    cases scope.findVariable? name <;> rfl
  | call tok tag callee args =>
    have given := findings_relabelAll args
    have count : (Node.relabelAll id onTag args).length = args.length := by
      rw [Node.relabelAll_eq_map, List.length_map]
    simp only [Node.relabel, visit_call, id_eq, count]
    cases callRule scope callee args.length with
    | undeclared | wrongCount => rfl
    | anyArguments result => simp only [findings, diagnosticsOf_congr given]
    | matched result params =>
      simp only [findings, diagnosticsOf_congr given,
        argumentComplaints_relabel callee params args given]
  | binary tok tag op left right =>
    obtain ⟨leftTag, leftComplaints⟩ := Prod.mk.inj (findings_relabel left)
    obtain ⟨rightTag, rightComplaints⟩ := Prod.mk.inj (findings_relabel right)
    simp only [findings, Node.relabel, visit_binary, leftTag, rightTag, leftComplaints,
      rightComplaints]
    rfl
  | unary tok tag op operand =>
    obtain ⟨operandTag, complaints⟩ := Prod.mk.inj (findings_relabel operand)
    simp only [findings, Node.relabel, visit_unary, operandTag, complaints]
    rfl
  | assign tok target value =>
    obtain ⟨targetTag, targetComplaints⟩ := Prod.mk.inj (findings_relabel target)
    obtain ⟨valueTag, valueComplaints⟩ := Prod.mk.inj (findings_relabel value)
    simp only [findings, Node.relabel, visit_assign, targetTag, valueTag, targetComplaints,
      valueComplaints]
    rfl
  | swap tok left right =>
    obtain ⟨leftTag, leftComplaints⟩ := Prod.mk.inj (findings_relabel left)
    obtain ⟨rightTag, rightComplaints⟩ := Prod.mk.inj (findings_relabel right)
    simp only [findings, Node.relabel, visit_swap, leftTag, rightTag, leftComplaints,
      rightComplaints]
    rfl
  | conditional tok condition thenBody elseBody =>
    obtain ⟨tested, complaints⟩ := Prod.mk.inj (findings_relabel condition)
    simp only [findings, Node.relabel, visit_conditional, conditionComplaint, tested, complaints,
      diagnosticsOf_congr (findings_relabelAll thenBody),
      diagnosticsOf_congr (findings_relabelAll elseBody)]
    rfl
  | forLoop tok start condition step body =>
    obtain ⟨-, startComplaints⟩ := Prod.mk.inj (findings_relabel start)
    obtain ⟨tested, complaints⟩ := Prod.mk.inj (findings_relabel condition)
    obtain ⟨-, stepComplaints⟩ := Prod.mk.inj (findings_relabel step)
    simp only [findings, Node.relabel, visit_forLoop, conditionComplaint, tested, complaints,
      startComplaints, stepComplaints, diagnosticsOf_congr (findings_relabelAll body)]
    rfl
  | whileLoop tok condition body =>
    obtain ⟨tested, complaints⟩ := Prod.mk.inj (findings_relabel condition)
    simp only [findings, Node.relabel, visit_whileLoop, conditionComplaint, tested, complaints,
      diagnosticsOf_congr (findings_relabelAll body)]
    rfl
  | repeatLoop tok body condition =>
    obtain ⟨tested, complaints⟩ := Prod.mk.inj (findings_relabel condition)
    simp only [findings, Node.relabel, visit_repeatLoop, conditionComplaint, tested, complaints,
      diagnosticsOf_congr (findings_relabelAll body)]
    rfl
  | caseOf tok selector clauses otherwise =>
    obtain ⟨chosen, complaints⟩ := Prod.mk.inj (findings_relabel selector)
    simp only [findings, Node.relabel, visit_caseOf, Node.isLiteral_relabel, complain_relabel,
      chosen, complaints, complaints_relabelClauses,
      diagnosticsOf_congr (findings_relabelAll otherwise)]
  | returnOf tok value =>
    obtain ⟨given, complaints⟩ := Prod.mk.inj (findings_relabel value)
    simp only [findings, Node.relabel, visit_returnOf, returnComplaint, given, complaints]
    rfl

/-- Types that stand in nodes already do not change what is found in them. -/
theorem findings_relabelAll (nodes : List Node) :
    (visitAll scope (Node.relabelAll id onTag nodes)).map findings =
      (visitAll scope nodes).map findings := by
  cases nodes with
  | nil => rfl
  | cons node rest =>
    simp only [Node.relabelAll, visitAll_cons, List.map_cons, findings_relabel node,
      findings_relabelAll rest]

/-- Types that stand in clauses already do not change the complaints about them. -/
theorem complaints_relabelClauses (selector : Ty) (clauses : List (Clause Node)) :
    (visitClauses scope selector (Node.relabelClauses id onTag clauses)).flatMap Prod.snd =
      (visitClauses scope selector clauses).flatMap Prod.snd := by
  cases clauses with
  | nil => rfl
  | cons clause rest =>
    obtain ⟨low, high, body⟩ := clause
    obtain ⟨lowTag, lowComplaints⟩ := Prod.mk.inj (findings_relabel low)
    obtain ⟨highTag, highComplaints⟩ := Prod.mk.inj (findings_relabel high)
    simp only [Node.relabelClauses, visitClauses_cons, List.flatMap_cons, caseComplaint,
      complain_relabel, Node.isPresent_relabel, lowTag, lowComplaints, highTag, highComplaints,
      diagnosticsOf_congr (findings_relabelAll body), complaints_relabelClauses selector rest]

end

/-- Two nodes that differ in their tags only: the same is found out about them. -/
theorem findings_congr {node other : Node} (same : node.untagged = other.untagged) :
    findings (visit scope node) = findings (visit scope other) := by
  calc findings (visit scope node)
      = findings (visit scope node.untagged) := (findings_relabel node).symm
    _ = findings (visit scope other.untagged) := by rw [same]
    _ = findings (visit scope other) := findings_relabel other

/-- The tag that is written is the tag that is found again. -/
theorem tag_again (node : Node) :
    (visit scope (visit scope node).node).tag = (visit scope node).tag :=
  congrArg Prod.fst (findings_congr (visit_untagged node))

end Findings

/-! ## What is written is written again -/

section Again

mutual

/-- A node that was visited stays as it is when visited again. -/
theorem visit_again (node : Node) :
    (visit scope (visit scope node).node).node = (visit scope node).node := by
  cases node with
  | missing | integer | boolean | character => rfl
  | name tok tag name =>
    simp only [visit_name]
    cases found : scope.findVariable? name <;> simp only [visit_name, found]
  | call tok tag callee args =>
    have count : (nodesOf (visitAll scope args)).length = args.length := by
      rw [nodesOf, visitAll_eq_map, List.length_map, List.length_map]
    simp only [visit_call]
    cases rule : callRule scope callee args.length with
    | undeclared | wrongCount => simp only [visit_call, rule]
    | anyArguments | matched => simp only [visit_call, count, rule, visitAll_again args]
  | binary tok tag op left right =>
    simp only [visit_binary, visit_again left, visit_again right, tag_again left, tag_again right]
  | unary tok tag op operand => simp only [visit_unary, visit_again operand, tag_again operand]
  | assign tok target value => simp only [visit_assign, visit_again target, visit_again value]
  | swap tok left right => simp only [visit_swap, visit_again left, visit_again right]
  | conditional tok condition thenBody elseBody =>
    simp only [visit_conditional, visit_again condition, visitAll_again thenBody,
      visitAll_again elseBody]
  | forLoop tok start condition step body =>
    simp only [visit_forLoop, visit_again start, visit_again condition, visit_again step,
      visitAll_again body]
  | whileLoop tok condition body =>
    simp only [visit_whileLoop, visit_again condition, visitAll_again body]
  | repeatLoop tok body condition =>
    simp only [visit_repeatLoop, visit_again condition, visitAll_again body]
  | caseOf tok selector clauses otherwise =>
    simp only [visit_caseOf, visit_again selector, visitClauses_again clauses,
      visitAll_again otherwise]
  | returnOf tok value => simp only [visit_returnOf, visit_again value]

/-- Nodes that were visited stay as they are when visited again. -/
theorem visitAll_again (nodes : List Node) :
    nodesOf (visitAll scope (nodesOf (visitAll scope nodes))) = nodesOf (visitAll scope nodes) := by
  cases nodes with
  | nil => rfl
  | cons node rest =>
    have others := visitAll_again rest
    simp only [nodesOf] at others
    simp only [nodesOf, visitAll_cons, List.map_cons, visit_again node, others]

/-- The tags in clauses do not depend on the tag of the selector. -/
theorem visitClauses_again {selector selector' : Ty} (clauses : List (Clause Node)) :
    (visitClauses scope selector' ((visitClauses scope selector clauses).map Prod.fst)).map Prod.fst =
      (visitClauses scope selector clauses).map Prod.fst := by
  cases clauses with
  | nil => rfl
  | cons clause rest =>
    obtain ⟨low, high, body⟩ := clause
    simp only [visitClauses_cons, List.map_cons, visit_again low, visit_again high,
      visitAll_again body, visitClauses_again rest]

end

end Again

/-! ## Programs -/

section Programs

/-- The complaints about a body do not depend on the tags in it. -/
theorem complaints_untagged (body : List Node) :
    diagnosticsOf (visitAll scope (body.map Node.untagged)) = diagnosticsOf (visitAll scope body) := by
  have same : (visitAll scope (Node.relabelAll id (fun _ => .unknown) body)).map findings =
      (visitAll scope body).map findings := findings_relabelAll body
  rw [Node.relabelAll_eq_map] at same
  exact diagnosticsOf_congr same

variable (checker : Checker)

/-- Checking a body does not see the types that stand in it. -/
theorem checkBody_untagged (body : List Node) :
    (checker.checkBody (body.map Node.untagged)).2 = (checker.checkBody body).2 := by
  simp only [checkBody_eq, complaints_untagged]

/-- Checking a function does not see the types that stand in it. -/
theorem checkFunction_untagged (function : Function) :
    (checker.checkFunction function.untagged).2 = (checker.checkFunction function).2 := by
  have entering : entered checker function.untagged = entered checker function := rfl
  have body : function.untagged.body = function.body.map Node.untagged := rfl
  have returns : hasReturn (function.body.map Node.untagged) = hasReturn function.body :=
    hasReturn_relabel function.body
  simp only [checkFunction_eq, entering, body, returns, checkBody_untagged]
  rfl

/-- The whole run over the functions, by induction on those that are left. -/
theorem checkFunctions_ignoresTags (functions : List Function) :
    (checker.checkFunctions (functions.map Function.untagged)).2 =
      (checker.checkFunctions functions).2 := by
  induction functions generalizing checker with
  | nil => rfl
  | cons function functions inductionHypothesis =>
    simp only [List.map_cons, checkFunctions_cons, checkFunction_untagged, inductionHypothesis]

/-- Checking a program does not see the types that stand in it. -/
theorem check_ignoresTags (program : Program) :
    (checker.check program.untagged).2 = (checker.check program).2 := by
  have functions : program.untagged.functions = program.functions.map Function.untagged := rfl
  have body : program.untagged.body = program.body.map Node.untagged := rfl
  have declarations : declared checker program.untagged = declared checker program := rfl
  simp only [check_eq, functions, body, declarations, checkBody_untagged,
    checkFunctions_ignoresTags]

/-- A function that is checked again, in the same scope, keeps its tags. -/
theorem tagged_again (scope : Scope) (function : Function) :
    tagged scope (tagged scope function) = tagged scope function :=
  congrArg (fun body => { function with body }) (visitAll_again function.body)

/-- Functions that are checked again keep their tags: the checker comes to each of them with the same
symbols, and leaves the last one with the same symbols. -/
theorem checkFunctions_again {checker checker' : Checker} (place : checker'.scope = checker.scope)
    (functions : List Function) :
    let first := checker.checkFunctions functions
    let second := checker'.checkFunctions first.1
    second.1 = first.1 ∧ second.2.scope = first.2.scope := by
  induction functions generalizing checker checker' with
  | nil => exact ⟨rfl, place⟩
  | cons function functions inductionHypothesis =>
    have own : (checker'.checkFunction (checker.checkFunction function).1).1 =
        (checker.checkFunction function).1 := by
      rw [checkFunction_fst, checkFunction_fst, place, tagged_again]
    have next : (checker'.checkFunction (checker.checkFunction function).1).2.scope =
        (checker.checkFunction function).2.scope := by
      rw [checkFunction_scope, checkFunction_scope, place, checkFunction_fst]
      rfl
    obtain ⟨others, last⟩ := inductionHypothesis next
    exact ⟨congrArg₂ List.cons own others, last⟩

/-- A checked program that is checked again keeps its tags. -/
theorem check_again (checker checker' : Checker) (program : Program) :
    (checker'.check (checker.check program).1).1 = (checker.check program).1 := by
  have place : (declared checker' program).scope = (declared checker program).scope := by
    rw [declared_scope, declared_scope]
  obtain ⟨functions, last⟩ := checkFunctions_again place program.functions
  have declarations : declared checker' (checker.check program).1 = declared checker' program := rfl
  rw [check_eq checker', declarations]
  simp only [check_eq, functions, checkBody_eq, last, visitAll_again]

end Programs

/-- A checker after some programs have been checked with it. -/
def after (shown : Warning → Bool) (history : List Program) : Checker :=
  history.foldl (fun checker earlier => (checker.check earlier).2) { shown }

/-- Checking does not depend on the tags that a tree carries, nor on what was checked before: whichever
warnings are on, it gives the complaints, the symbols and the notices of a fresh checker. Checking the
result again changes no tag and gives the same once more.

Proof: a checker is reset before it checks, and what a visit finds out does not depend on tags. A tag
that is written depends on what visits find out, so it is written again; the parts of a call that are
skipped are skipped again, since that depends on names only. -/
theorem check_stable (shown : Warning → Bool) (history : List Program) {program other : Program}
    (same : other.untagged = program.untagged) :
    let fresh := (Checker.check { shown } program).2
    let first := (after shown history).check other
    let second := first.2.check first.1
    first.2.diagnostics = fresh.diagnostics ∧ first.2.symbols = fresh.symbols ∧
      first.2.notices = fresh.notices ∧
      second.1 = first.1 ∧ second.2.diagnostics = fresh.diagnostics ∧
      second.2.symbols = fresh.symbols ∧ second.2.notices = fresh.notices := by
  intro fresh first second
  have state {checker : Checker} {relabelled : Program} (warnings : checker.shown = shown)
      (alike : relabelled.untagged = program.untagged) : (checker.check relabelled).2 = fresh := by
    have start : checker.reset = ({ shown } : Checker).reset := by rw [reset, warnings, reset]
    rw [← check_ignoresTags, alike, check_ignoresTags, check_eq, declared, start]
    rfl
  have kept : (after shown history).shown = shown :=
    foldl_shown (fun checker earlier => check_shown checker earlier) history { shown }
  have one : first.2 = fresh := state kept same
  have two : second.2 = fresh := state ((check_shown (after shown history) other).trans kept)
    ((check_keeps (after shown history)).trans same)
  rw [one, two]
  exact ⟨rfl, rfl, rfl, check_again _ _ other, rfl, rfl, rfl⟩

/-- A tree with a call that is not entered: the argument keeps whatever tag it carries. -/
def skipped (tag : Ty) : Program where
  name := "p"
  endName := "p"
  vars := [⟨"x", .plain .char, {}, .everywhere⟩]
  body := [.assign {} (.name {} tag "x") (.call {} tag "f" [.name {} tag "y"]), .returnOf {} .missing]
  tok := {}

/-- Trees with different tags in them, after a program has been checked that declares the function which
they call. -/
theorem check_stable_skipped :
    let helper := { skipped .char with
      functions := [{ name := "f", result := .plain .integer, tok := {} }] }
    let first := (after Warning.initial [helper]).check (skipped .boolean)
    (skipped .boolean).untagged = (skipped .char).untagged ∧
      first.2.diagnostics.map Diagnostic.complaint = [.undeclaredFunction "f"] ∧
      (first.2.check first.1).1 = first.1 := by
  intro helper first
  have same : (skipped .boolean).untagged = (skipped .char).untagged := rfl
  obtain ⟨complaints, -, -, tags, -⟩ := check_stable Warning.initial [helper] same
  refine ⟨same, ?_, tags⟩
  rw [complaints]
  decide

end WinZig.Typing
