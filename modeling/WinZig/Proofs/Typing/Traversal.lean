import WinZig.Proofs.Typing.Moving
import WinZig.Proofs.Typing.Resolution

/-!
# The walk of the checker

A visit gives a tree and some complaints, and does not tell which nodes were looked at on the way.
Here visits are followed by an observer that keeps a journal. A node is written down when it is
entered, and once more, with its tag, when the tag is written. Nothing can be asked of a missing
node: who enters one, writes into one or complains about one gets no result at all.

Keeping a journal changes nothing of what checking gives, so there always is a result, and no
missing node is ever asked for anything. And the journal says what the walk of the checker is: the
walk over all bodies in source order, which passes by what is below a call that goes nowhere.
-/

namespace WinZig.Typing

open Checker

/-! ## Journals -/

/-- What happened to nodes, in order: those that were entered, and the tags that were written. -/
structure Journal where
  entered : List Node := []
  tagged : List (Node × Ty) := []

/-- Computations that keep a journal, and that may come to nothing. -/
abbrev Recorder := StateT Journal Option

/-- Asks for what a node holds. -/
def demand (node : Node) : Recorder Unit := if node.isPresent then pure () else failure

/-- Keeps a journal of the nodes that are entered and of the tags that are written. -/
def recorder : Observer Recorder where
  enter node := do
    demand node
    modify fun journal => { journal with entered := journal.entered ++ [node] }
  blame node complaints := if complaints.isEmpty then return () else demand node
  write node tag := do
    demand node
    modify fun journal => { journal with tagged := journal.tagged ++ [(node, tag)] }

example : recorder.enter .missing {} = none := rfl

/-- A computation comes to a value and adds to the journal, whatever is in it. -/
structure Records {α : Type} (computation : Recorder α) (value : α) (entered : List Node)
    (tagged : List (Node × Ty)) : Prop where
  run : ∀ journal, computation.run journal =
    some (value, ⟨journal.entered ++ entered, journal.tagged ++ tagged⟩)

namespace Records

variable {α β : Type}

/-- Giving a value records nothing. -/
theorem pure (value : α) : Records (pure value) value [] [] where
  run journal := by
    rw [List.append_nil, List.append_nil]
    rfl

/-- What is recorded in turn is one record. -/
theorem bind {first : Recorder α} {second : α → Recorder β} {value : α} {result : β}
    {entered entered' : List Node} {tagged tagged' : List (Node × Ty)}
    (before : Records first value entered tagged)
    (behind : Records (second value) result entered' tagged') :
    Records (first >>= second) result (entered ++ entered') (tagged ++ tagged') where
  run journal := by
    rw [StateT.run_bind, before.run]
    change (second value).run _ = _
    rw [behind.run, List.append_assoc, List.append_assoc]

/-- A result that is made in the end. -/
theorem map {first : Recorder α} {value : α} {entered : List Node} {tagged : List (Node × Ty)}
    (before : Records first value entered tagged) (change : α → β) :
    Records (first >>= fun value => Pure.pure (change value)) (change value) entered tagged := by
  have whole : Records (first >>= fun value => Pure.pure (change value)) (change value)
      (entered ++ []) (tagged ++ []) := before.bind (pure (change value))
  rwa [List.append_nil, List.append_nil] at whole

/-- Behind something that leaves no trace. -/
theorem after {first : Recorder α} {second : α → Recorder β} {value : α} {result : β}
    {entered : List Node} {tagged : List (Node × Ty)} (before : Records first value [] [])
    (behind : Records (second value) result entered tagged) :
    Records (first >>= second) result entered tagged := before.bind behind

/-- A node that is demanded must be present, and nothing is recorded. -/
theorem demand {node : Node} (present : node.isPresent = true) :
    Records (demand node) () [] [] := by
  rw [Typing.demand, if_pos present]
  exact pure ()

/-- A node that is entered is recorded. -/
theorem enter {node : Node} (present : node.isPresent = true) :
    Records (recorder.enter node) () [node] [] :=
  (demand present).after ⟨fun journal => by rw [List.append_nil]; rfl⟩

/-- A type that is written is recorded with its node. -/
theorem write {node : Node} (present : node.isPresent = true) (tag : Ty) :
    Records (recorder.write node tag) () [] [(node, tag)] :=
  (demand present).after ⟨fun journal => by rw [List.append_nil]; rfl⟩

/-- Only a node that is complained about is demanded. -/
theorem blame {node : Node} {complaints : List Diagnostic}
    (present : complaints ≠ [] → node.isPresent = true) :
    Records (recorder.blame node complaints) () [] [] := by
  cases complaints with
  | nil => exact pure ()
  | cons first others => exact demand (present (List.cons_ne_nil _ _))

/-- A node that may be complained about for one reason. -/
theorem blameIf {condition : Bool} {node : Node} {diagnostic : Diagnostic}
    (present : condition = true → node.isPresent = true) :
    Records (recorder.blame node (complainIf condition diagnostic)) () [] [] := by
  refine blame fun some => present ?_
  rw [Ne, complainIf_eq_nil] at some
  simpa using some

section Complaints

variable {scope : Scope}

/-- Only arguments with a known tag are complained about, and these are present. -/
theorem blameArguments (callee : String) (params : List Ty) (args : List Node) :
    Records (Checker.blameArguments recorder callee params args (visitAll scope args)) ()
      [] [] := by
  induction params generalizing args with
  | nil => exact pure ()
  | cons wanted params inductionHypothesis =>
    cases args with
    | nil => exact pure ()
    | cons arg args =>
      have present : ((visit scope arg).tag != .unknown && (visit scope arg).tag != wanted) = true →
          arg.isPresent = true := by
        intro known
        rw [Bool.and_eq_true, bne_iff_ne] at known
        exact isPresent_of_tag known.1
      exact (blameIf present).after (inductionHypothesis args)

/-- Only values with a known tag are complained about. -/
theorem blameCase (selector : Ty) (value : Node) (complaint : Ty → Ty → Complaint) :
    Records (recorder.blame value (caseComplaint selector value (visit scope value) complaint)) ()
      [] [] := by
  apply blameIf
  intro differs
  simp only [disagree, Bool.and_eq_true, bne_iff_ne] at differs
  exact isPresent_of_tag differs.1.1

end Complaints

end Records

/-! ## Visits -/

/-- The tags that visits give to the expressions among some nodes. -/
def tagsOf (scope : Scope) (nodes : List Node) : List (Node × Ty) :=
  (nodes.filter Node.isExpression).map fun node => (node, (visit scope node).tag)

/-- A computation comes to a value and enters some nodes. It writes the tags of the expressions
among them, each once, and besides those that are due. -/
def Traces {α : Type} (scope : Scope) (due : List (Node × Ty)) (computation : Recorder α) (value : α)
    (entered : List Node) : Prop :=
  ∃ tagged, Records computation value entered tagged ∧ tagged.Perm (due ++ tagsOf scope entered)

namespace Traces

variable {α β : Type} {scope : Scope} {due : List (Node × Ty)} {first : Recorder α}
  {second : α → Recorder β} {value : α} {result : β} {entered entered' : List Node}

/-- Giving a value leaves no trace. -/
theorem pure (value : α) : Traces scope [] (pure value) value [] := ⟨[], .pure value, .nil⟩

/-- What is traced in turn is one trace. -/
theorem bind (before : Traces scope [] first value entered)
    (behind : Traces scope due (second value) result entered') :
    Traces scope due (first >>= second) result (entered ++ entered') := by
  obtain ⟨tagged, records, tags⟩ := before
  obtain ⟨tagged', records', tags'⟩ := behind
  have split :
      tagsOf scope (entered ++ entered') = tagsOf scope entered ++ tagsOf scope entered' := by
    simp only [tagsOf, List.filter_append, List.map_append]
  refine ⟨tagged ++ tagged', records.bind records', ?_⟩
  rw [split]
  exact (tags.append tags').trans (List.perm_append_comm_assoc _ _ _)

/-- Behind something that leaves no trace. -/
theorem after (before : Records first value [] [])
    (behind : Traces scope due (second value) result entered) :
    Traces scope due (first >>= second) result entered := by
  obtain ⟨tagged, records, tags⟩ := behind
  exact ⟨tagged, before.after records, tags⟩

/-- In front of something that enters no node. -/
theorem finish (before : Traces scope [] first value entered)
    (behind : Traces scope due (second value) result []) :
    Traces scope due (first >>= second) result entered := by
  have whole := before.bind behind
  rwa [List.append_nil] at whole

/-- The tag that is due is written in the end. -/
theorem write {node : Node} (present : node.isPresent = true) (tag : Ty) (value : α) :
    Traces scope [(node, tag)] (recorder.write node tag >>= fun _ => Pure.pure value) value [] :=
  ⟨_, (Records.write present tag).bind (.pure value), .refl _⟩

/-- A statement is entered and has no type to write. -/
theorem statement {node : Node} {rest : Recorder α} (present : node.isPresent = true)
    (is : node.isExpression = false) (behind : Traces scope [] rest value entered) :
    Traces scope [] (recorder.enter node >>= fun _ => rest) value (node :: entered) := by
  obtain ⟨tagged, records, tags⟩ := behind
  refine ⟨tagged, (Records.enter present).bind records, ?_⟩
  rwa [tagsOf, List.filter_cons_of_neg (by simp [is])]

/-- An expression is entered, and its type is due. -/
theorem expression {node : Node} {rest : Recorder α} (present : node.isPresent = true)
    (is : node.isExpression = true)
    (behind : Traces scope [(node, (visit scope node).tag)] rest value entered) :
    Traces scope [] (recorder.enter node >>= fun _ => rest) value (node :: entered) := by
  obtain ⟨tagged, records, tags⟩ := behind
  refine ⟨tagged, (Records.enter present).bind records, ?_⟩
  rwa [tagsOf, List.filter_cons_of_pos is]

end Traces

section Visits

variable {scope : Scope} {resolution : Resolution}

/-- A visit of which a journal is kept gives what a visit gives, and the nodes that are entered are
those that a walk meets. -/
def Follows (scope : Scope) (resolution : Resolution) (node : Node) : Prop :=
  Traces scope [] (visitWith recorder scope node) (visit scope node)
    (Node.walk (enters resolution) node)

/-- Nodes are traced if each of them is. -/
theorem visitAll_traces {nodes : List Node} (each : ∀ node ∈ nodes, Follows scope resolution node) :
    Traces scope [] (visitAllWith recorder scope nodes) (visitAll scope nodes)
      (Node.walkAll (enters resolution) nodes) := by
  induction nodes with
  | nil => exact .pure []
  | cons node rest inductionHypothesis =>
    obtain ⟨here, behind⟩ := List.forall_mem_cons.mp each
    exact here.bind ((inductionHypothesis behind).finish (.pure _))

/-- Clauses are traced if everything in them is. -/
theorem visitClauses_traces (selector : Ty) {clauses : List (Clause Node)}
    (each : ∀ node ∈ clauses.flatMap fun clause => clause.low :: clause.high :: clause.body,
      Follows scope resolution node) :
    Traces scope [] (visitClausesWith recorder scope selector clauses)
      (visitClauses scope selector clauses) (Node.walkClauses (enters resolution) clauses) := by
  induction clauses with
  | nil => exact .pure []
  | cons clause rest inductionHypothesis =>
    simp only [List.flatMap_cons, List.cons_append, List.forall_mem_cons, List.forall_mem_append]
      at each
    obtain ⟨start, finish, ⟨held, others⟩⟩ := each
    rw [Node.walkClauses, List.append_assoc, List.append_assoc]
    exact start.bind (.after (.blameCase selector clause.low _) (finish.bind (.after
      (.blameCase selector clause.high _) ((visitAll_traces held).bind
        ((inductionHypothesis others).finish (.pure _))))))

variable (gives : Gives scope resolution)

include gives

/-- Every node is traced: by induction on it. -/
theorem visit_follows (node : Node) : Follows scope resolution node := by
  induction node using Node.children_induction with
  | step node inductionHypothesis =>
    cases node with
    | missing => exact .pure _
    | integer tok tag value => exact .expression rfl rfl (.write rfl _ _)
    | boolean tok tag value => exact .expression rfl rfl (.write rfl _ _)
    | character tok tag value => exact .expression rfl rfl (.write rfl _ _)
    | name tok tag name =>
      apply Traces.expression rfl rfl
      rw [visit_name]
      cases scope.findVariable? name with
      | some sym => exact .write rfl _ _
      | none => exact .after (.blame fun _ => rfl) (.write rfl _ _)
    | binary tok tag op left right =>
      simp only [Node.children, List.forall_mem_cons] at inductionHypothesis
      obtain ⟨before, behind, -⟩ := inductionHypothesis
      exact .expression rfl rfl (before.bind (behind.finish
        (.after (.blame fun _ => rfl) (.write rfl _ _))))
    | call tok tag callee args =>
      have entered := enters_call gives tok tag callee args
      have given := visitAll_traces inductionHypothesis
      rw [Follows, visitWith, Node.walk, entered]
      apply Traces.expression rfl rfl
      rw [visit_call]
      cases callRule scope callee args.length with
      | undeclared => exact .after (.blame fun _ => rfl) (.write rfl _ _)
      | wrongCount => exact .after (.blame fun _ => rfl) (.write rfl _ _)
      | anyArguments => exact given.finish (.write rfl _ _)
      | matched result params =>
        exact given.finish (.after (.blameArguments callee params args) (.write rfl _ _))
    | unary tok tag op operand =>
      simp only [Node.children, List.forall_mem_singleton] at inductionHypothesis
      exact .expression rfl rfl (inductionHypothesis.finish
        (.after (.blame fun _ => rfl) (.write rfl _ _)))
    | assign tok target value =>
      simp only [Node.children, List.forall_mem_cons] at inductionHypothesis
      obtain ⟨before, behind, -⟩ := inductionHypothesis
      exact .statement rfl rfl (before.bind (behind.finish
        (.after (.blame fun _ => rfl) (.pure _))))
    | swap tok left right =>
      simp only [Node.children, List.forall_mem_cons] at inductionHypothesis
      obtain ⟨before, behind, -⟩ := inductionHypothesis
      exact .statement rfl rfl (before.bind (behind.finish
        (.after (.blame fun _ => rfl) (.pure _))))
    | conditional tok condition thenBody elseBody =>
      simp only [Node.children, List.cons_append, List.forall_mem_cons, List.forall_mem_append]
        at inductionHypothesis
      obtain ⟨tested, chosen, other⟩ := inductionHypothesis
      rw [Follows, Node.walk, List.append_assoc]
      exact .statement rfl rfl (tested.bind (.after (.blame fun _ => rfl)
        ((visitAll_traces chosen).bind ((visitAll_traces other).finish (.pure _)))))
    | forLoop tok start condition step body =>
      simp only [Node.children, List.forall_mem_cons] at inductionHypothesis
      obtain ⟨begun, tested, stepped, held⟩ := inductionHypothesis
      rw [Follows, Node.walk, List.append_assoc, List.append_assoc]
      exact .statement rfl rfl (begun.bind (tested.bind (.after (.blame fun _ => rfl)
        (stepped.bind ((visitAll_traces held).finish (.pure _))))))
    | whileLoop tok condition body =>
      simp only [Node.children, List.forall_mem_cons] at inductionHypothesis
      obtain ⟨tested, held⟩ := inductionHypothesis
      exact .statement rfl rfl (tested.bind (.after (.blame fun _ => rfl)
        ((visitAll_traces held).finish (.pure _))))
    | repeatLoop tok body condition =>
      simp only [Node.children, List.forall_mem_append, List.forall_mem_singleton]
        at inductionHypothesis
      obtain ⟨held, tested⟩ := inductionHypothesis
      exact .statement rfl rfl ((visitAll_traces held).bind (tested.finish
        (.after (.blame fun _ => rfl) (.pure _))))
    | caseOf tok selector clauses otherwise =>
      simp only [Node.children, List.cons_append, List.forall_mem_cons, List.forall_mem_append]
        at inductionHypothesis
      obtain ⟨selected, within, remaining⟩ := inductionHypothesis
      have literal : selector.isLiteral = true → selector.isPresent = true := by
        cases selector <;> simp [Node.isLiteral, Node.isPresent]
      rw [Follows, Node.walk, List.append_assoc]
      exact .statement rfl rfl (.after (.blameIf literal) (selected.bind
        ((visitClauses_traces _ within).bind ((visitAll_traces remaining).finish (.pure _)))))
    | returnOf tok value =>
      simp only [Node.children, List.forall_mem_singleton] at inductionHypothesis
      exact .statement rfl rfl (inductionHypothesis.finish (.after (.blame fun _ => rfl) (.pure _)))

end Visits

/-! ## Programs -/

/-- Checks a program and keeps a journal. -/
def watchProgram (checker : Checker) (program : Program) : Recorder (Program × Checker) :=
  checkWith recorder checker program

/-- The nodes of all bodies that are visited, those of the functions first, with names as they are
declared in a program. -/
def visitedOf (program tree : Program) : List Node :=
  (tree.functions.mapIdx fun index function =>
    visitedIn (resolutionWithin program index function) function.body).flatten ++
    visitedIn (resolutionOutside program) tree.body

/-- The expressions among some nodes, each with the tag of the node that has come in its place. -/
def tagsBetween (before after : List Node) : List (Node × Ty) :=
  ((before.zip after).filter fun pair => pair.1.isExpression).map fun pair => (pair.1, pair.2.tag)

/-- A computation enters some nodes, and writes the tags that are found in the nodes that come in
their place. -/
structure Walks {α : Type} (computation : Recorder α) (value : α) (before after : List Node) :
    Prop where
  records : ∃ tagged, Records computation value before tagged ∧
    tagged.Perm (tagsBetween before after)
  length : before.length = after.length

namespace Walks

variable {α β : Type} {first : Recorder α} {second : α → Recorder β} {value : α} {result : β}
  {before before' after after' : List Node}

/-- Giving a value walks nowhere. -/
theorem pure (value : α) : Walks (pure value) value [] [] := ⟨⟨[], .pure value, .nil⟩, rfl⟩

/-- What is walked in turn is one walk. -/
theorem bind (front : Walks first value before after)
    (behind : Walks (second value) result before' after') :
    Walks (first >>= second) result (before ++ before') (after ++ after') where
  records := by
    obtain ⟨tagged, records, tags⟩ := front.records
    obtain ⟨tagged', records', tags'⟩ := behind.records
    have split : tagsBetween (before ++ before') (after ++ after') =
        tagsBetween before after ++ tagsBetween before' after' := by
      simp only [tagsBetween, List.zip_append front.length, List.filter_append, List.map_append]
    exact ⟨tagged ++ tagged', records.bind records', split ▸ tags.append tags'⟩
  length := by rw [List.length_append, List.length_append, front.length, behind.length]

/-- A change of the result is no part of the walk. -/
theorem map (front : Walks first value before after) (change : α → β) :
    Walks (first >>= fun value => Pure.pure (change value)) (change value) before after where
  records := by
    obtain ⟨tagged, records, tags⟩ := front.records
    exact ⟨tagged, records.map change, tags⟩
  length := front.length

end Walks

section Programs

variable {checker : Checker} {program : Program} {before : List Function}

/-- Checking a body, where names mean what a resolution says. -/
theorem checkBody_walks {resolution : Resolution} (gives : Gives checker.scope resolution)
    (body : List Node) :
    Walks (checkBodyWith recorder checker body) (checker.checkBody body) (visitedIn resolution body)
      (visitedIn resolution (checker.checkBody body).1) := by
  have replaced : visitedIn resolution (checker.checkBody body).1 =
      (visitedIn resolution body).map fun node => (visit checker.scope node).node :=
    visitedIn_visitAll gives body
  obtain ⟨tagged, records, tags⟩ := visitAll_traces fun node _ => visit_follows gives node
  have found : tagsBetween (visitedIn resolution body)
      (visitedIn resolution (checker.checkBody body).1) =
        tagsOf checker.scope (visitedIn resolution body) := by
    have paired : ((visitedIn resolution body).map id).zip
        ((visitedIn resolution body).map fun node => (visit checker.scope node).node) = _ :=
      List.zip_map'
    rw [List.map_id] at paired
    rw [replaced, tagsBetween, tagsOf, paired, List.filter_map, List.map_map]
    simp only [Function.comp_def, id_eq, tag_visit]
  refine ⟨⟨tagged, records.map _, found ▸ tags⟩, ?_⟩
  rw [replaced, List.length_map]

/-- One step: a function, behind those in front of it. -/
theorem checkFunction_walks {function : Function} {behind : List Function}
    (cut : program.functions = before ++ function :: behind)
    (place : checker.scope = scopeBehind program before) :
    Walks (checkFunctionWith recorder checker function) (checker.checkFunction function)
      (visitedIn (resolutionWithin program before.length function) function.body)
      (visitedIn (resolutionWithin program before.length function)
        (checker.checkFunction function).1.body) := by
  have gives : Gives (entered checker function).scope
      (resolutionWithin program before.length function) := by
    rw [entered_scope, place]
    exact gives_scopeWithin cut
  exact (checkBody_walks gives function.body).map _

/-- The whole run over the functions, by induction on those that are left. -/
theorem checkFunctions_walks {functions : List Function}
    (cut : program.functions = before ++ functions)
    (place : checker.scope = scopeBehind program before) :
    Walks (checkFunctionsWith recorder checker functions) (checker.checkFunctions functions)
      (functions.mapIdx fun index function =>
        visitedIn (resolutionWithin program (before.length + index) function) function.body).flatten
      ((checker.checkFunctions functions).1.mapIdx fun index function =>
        visitedIn (resolutionWithin program (before.length + index) function)
          function.body).flatten := by
  induction functions generalizing checker before with
  | nil => exact .pure _
  | cons function functions inductionHypothesis =>
    have first := checkFunction_walks cut place
    have others := inductionHypothesis (by rw [cut, List.append_cons]) (checkFunction_place place)
    simp only [List.length_append, List.length_singleton, Nat.add_assoc, Nat.add_comm 1] at others
    have split : checker.checkFunctions (function :: functions) =
        ((checker.checkFunction function).1 ::
            ((checker.checkFunction function).2.checkFunctions functions).1,
          ((checker.checkFunction function).2.checkFunctions functions).2) := rfl
    rw [split, List.mapIdx_cons, List.flatten_cons, List.mapIdx_cons, List.flatten_cons]
    exact first.bind (others.map _)

/-- Checking a program walks all its bodies. -/
theorem watchProgram_walks (checker : Checker) (program : Program) :
    Walks (watchProgram checker program) (checker.check program) (visitedOf program program)
      (visitedOf program (checker.check program).1) := by
  have place := declared_scope checker program
  have functions := checkFunctions_walks (List.nil_append program.functions).symm place
  simp only [List.length_nil, Nat.zero_add] at functions
  have gives : Gives ((declared checker program).checkFunctions program.functions).2.scope
      (resolutionOutside program) := by
    rw [checkFunctions_place program.functions place, List.nil_append]
    exact gives_scopeBehind program
  exact functions.bind ((checkBody_walks gives program.body).map _)

/-- What checking makes of a node that it visits. Tags may change, and below a node that is not gone
into they do not. -/
structure Retagged (resolution : Resolution) (before after : Node) : Prop where
  same : after.untagged = before.untagged
  kept : enters resolution before = false → after.children = before.children

/-- Visiting a body writes the types of the nodes that are reached in it. -/
theorem retagged_visitAll {scope : Scope} {resolution : Resolution} (gives : Gives scope resolution)
    (body : List Node) :
    List.Forall₂ (Retagged resolution) (visitedIn resolution body)
      (visitedIn resolution (nodesOf (visitAll scope body))) := by
  rw [visitedIn_visitAll gives, List.forall₂_map_right_iff, List.forall₂_same]
  intro node _
  refine ⟨visit_untagged node, fun closed => ?_⟩
  rw [(visit_children gives node).2, closed]
  rfl

/-- The walk is not continued below a call of a name that means nothing, or of a function with
another number of parameters, and nowhere else. -/
theorem enters_eq_false_iff (resolution : Resolution) (node : Node) :
    enters resolution node = false ↔ ∃ tok tag callee args, node = .call tok tag callee args ∧
      (resolution.callee callee = none ∨ ∃ sym, resolution.callee callee = some sym ∧
        sym.role ≠ .builtin ∧ sym.params.length ≠ args.length) := by
  cases node with
  | call tok tag callee args =>
    cases meaning : resolution.callee callee with
    | none => simp [enters, meaning]
    | some sym => simp [enters, meaning]
  | _ => simp [enters]

/-- Checking walks over the tree like any other walk in source order. Keeping a journal of it always
comes to the result of checking, so nothing is ever asked of a missing node. The nodes that are
entered are, in order, those of the walk over all bodies that stops at the calls of undeclared names
and at those with other than the number of arguments that a function takes. Tags are written into
the expressions among them, once each, and they are the tags found there afterwards. Nothing below a
call where the walk stops is changed.

Proof: every visit enters its node, then does what the visits of the children do, and writes the tag
of an expression last. The complaints in between are about the node itself or about a child with a
known tag or a literal, and these are present. All visits of a body take place in one scope, which
gives names the meaning that the walk decides by. -/
theorem check_walks (checker : Checker) (program : Program) :
    let checked := (checker.check program).1
    (∃ journal, (watchProgram checker program).run {} = some (checker.check program, journal) ∧
      journal.entered = visitedOf program program ∧
      journal.tagged.Perm (tagsBetween (visitedOf program program) (visitedOf program checked))) ∧
    (∀ index function, program.functions[index]? = some function →
      ∃ other, checked.functions[index]? = some other ∧
        List.Forall₂ (Retagged (resolutionWithin program index function))
          (visitedIn (resolutionWithin program index function) function.body)
          (visitedIn (resolutionWithin program index function) other.body)) ∧
    List.Forall₂ (Retagged (resolutionOutside program))
      (visitedIn (resolutionOutside program) program.body)
      (visitedIn (resolutionOutside program) checked.body) ∧
    ∀ resolution node, enters resolution node = false ↔
      ∃ tok tag callee args, node = .call tok tag callee args ∧
        (resolution.callee callee = none ∨ ∃ sym, resolution.callee callee = some sym ∧
          sym.role ≠ .builtin ∧ sym.params.length ≠ args.length) := by
  intro checked
  refine ⟨?_, ?_, ?_, enters_eq_false_iff⟩
  · obtain ⟨tagged, records, tags⟩ := (watchProgram_walks checker program).records
    exact ⟨_, records.run {}, rfl, tags⟩
  · intro index function listed
    obtain ⟨inside, rfl⟩ := List.getElem?_eq_some_iff.mp listed
    have cut : program.functions = program.functions.take index ++
        program.functions[index] :: program.functions.drop (index + 1) := by simp
    have length : (program.functions.take index).length = index :=
      List.length_take_of_le (Nat.le_of_lt inside)
    have tagged := checkFunctions_tagged (declared_scope checker program) _ _ _ cut
    have gives := gives_scopeWithin cut
    rw [length] at tagged gives
    exact ⟨_, tagged, retagged_visitAll gives program.functions[index].body⟩
  · change List.Forall₂ _ _ (visitedIn _ (checker.check program).1.body)
    rw [check_body]
    exact retagged_visitAll (gives_scopeBehind program) program.body

end Programs

end WinZig.Typing
