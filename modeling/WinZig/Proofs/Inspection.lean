import Mathlib
import WinZig.Checker.Program
import WinZig.Proofs.Relabelling

/-!
# The search for a return statement

An inspection carries one state past all nodes. As long as the state has no say in how far it goes,
it is a walk with something done at each node. The search for a return statement is another one: it
goes below nothing any more once it has found one. So most of a tree may be passed over, but only when
the answer is known: what is found in a node is what a walk meets that goes everywhere, and this is
what stands in the node at any depth.
-/

namespace WinZig

namespace Node

/-! ## Inspections -/

section Inspection

variable {σ : Type} (look : Node → StateM σ Bool)

/-- An inspection of some nodes goes from one part of them to the next. -/
theorem inspectAll_append (front back : List Node) :
    inspectAll look (front ++ back) = (do inspectAll look front; inspectAll look back) := by
  induction front with
  | nil => simp [inspectAll]
  | cons node front inductionHypothesis => simp [inspectAll, inductionHypothesis]

/-- Clauses are inspected part by part. -/
theorem inspectClauses_eq (clauses : List (Clause Node)) :
    inspectClauses look clauses =
      inspectAll look (clauses.flatMap fun clause => clause.low :: clause.high :: clause.body) := by
  induction clauses with
  | nil => rfl
  | cons clause clauses inductionHypothesis =>
    simp [inspectClauses, inspectAll, inspectAll_append, inductionHypothesis]

/-- An inspection looks at a present node and then, if it is to go below, at the children. -/
theorem inspect_eq {node : Node} (present : node.isPresent = true) :
    inspect look node = (do if ← look node then inspectAll look node.children) := by
  cases node with
  | missing => exact absurd present (by simp [isPresent])
  | integer | boolean | character | name => simp [inspect, children, inspectAll]
  | caseOf => simp [inspect, children, inspectAll, inspectAll_append, inspectClauses_eq]
  | _ => simp [inspect, children, inspectAll, inspectAll_append]

variable {look} {enter : Node → Bool} {change : σ → Node → σ}

/-- The run over some nodes, if each of them is run as a walk over it. -/
theorem run_inspectAll_eq_foldl {nodes : List Node}
    (each : ∀ node ∈ nodes, ∀ state,
      (node.inspect look).run state = pure ((), (node.walk enter).foldl change state)) (state : σ) :
    (inspectAll look nodes).run state = pure ((), (walkAll enter nodes).foldl change state) := by
  induction nodes generalizing state with
  | nil => rfl
  | cons node nodes inductionHypothesis =>
    obtain ⟨first, others⟩ := List.forall_mem_cons.mp each
    rw [inspectAll, StateT.run_bind, first, pure_bind, inductionHypothesis others, walkAll,
      List.foldl_append]

/-- An inspection that decides by the node alone whether to go below it does what it does at the nodes
of a walk that enters the same nodes, one after another. In particular, an inspection that collects
what it looks at collects the walk. -/
theorem run_inspect_eq_foldl
    (stateless : ∀ node state, (look node).run state = pure (enter node, change state node))
    (node : Node) (state : σ) :
    (node.inspect look).run state = pure ((), (node.walk enter).foldl change state) := by
  induction node using children_induction generalizing state with
  | step node inductionHypothesis =>
    cases stands : node.isPresent with
    | true =>
      rw [inspect_eq look stands, walk_eq enter node stands, StateT.run_bind, stateless, pure_bind]
      cases enter node with
      | true =>
        rw [if_pos rfl, if_pos rfl, ← walkAll_eq_flatMap, List.foldl_cons]
        exact run_inspectAll_eq_foldl inductionHypothesis _
      | false => rfl
    | false =>
      obtain rfl := eq_missing stands
      rfl

end Inspection

/-! ## What stands in a node -/

/-- A node stands in another: it is the other one, or it is reached from it by going from nodes to their
children. -/
def Within (inner outer : Node) : Prop :=
  Relation.ReflTransGen (fun parent child => child ∈ parent.children) outer inner

/-- What stands in a node is the node, or stands in one of its children. -/
theorem within_iff {inner outer : Node} :
    inner.Within outer ↔ inner = outer ∨ ∃ child ∈ outer.children, inner.Within child :=
  Relation.ReflTransGen.cases_head_iff.trans (or_congr_left eq_comm)

/-- A walk that goes everywhere meets the present nodes that stand in a node. -/
theorem mem_walk {inner outer : Node} :
    inner ∈ walk (fun _ => true) outer ↔ inner.isPresent = true ∧ inner.Within outer := by
  induction outer using children_induction with
  | step outer inductionHypothesis =>
    rw [within_iff]
    cases stands : outer.isPresent with
    | true =>
      rw [walk_eq _ _ stands, if_pos rfl, List.mem_cons, List.mem_flatMap]
      constructor
      · rintro (rfl | ⟨child, listed, met⟩)
        · exact ⟨stands, .inl rfl⟩
        · obtain ⟨present, within⟩ := (inductionHypothesis child listed).mp met
          exact ⟨present, .inr ⟨child, listed, within⟩⟩
      · rintro ⟨present, rfl | ⟨child, listed, within⟩⟩
        · exact .inl rfl
        · exact .inr ⟨child, listed, (inductionHypothesis child listed).mpr ⟨present, within⟩⟩
    | false =>
      obtain rfl := eq_missing stands
      refine iff_of_false List.not_mem_nil ?_
      rintro ⟨present, rfl | ⟨child, listed, -⟩⟩
      · exact absurd present (by simp [stands])
      · exact absurd listed List.not_mem_nil

/-- A return statement is not missing. -/
theorem isPresent_of_isReturn {node : Node} (returns : node.isReturn = true) :
    node.isPresent = true := by
  cases node with
  | returnOf => rfl
  | _ => exact absurd returns (by simp [isReturn])

end Node

namespace Checker

/-! ## The search -/

/-- A return statement stands in a body, at any depth. -/
def ReturnsIn (body : List Node) : Prop :=
  ∃ stmt ∈ body, ∃ node : Node, node.Within stmt ∧ node.isReturn = true

/-- Whether a return statement is met by a walk that goes everywhere. -/
def meetsReturn (body : List Node) : Bool := (Node.walkAll (fun _ => true) body).any Node.isReturn

/-- A walk that goes everywhere meets a return statement exactly if one stands in the body. -/
theorem meetsReturn_iff {body : List Node} : meetsReturn body = true ↔ ReturnsIn body := by
  rw [meetsReturn, Node.walkAll_eq_flatMap, List.any_flatMap, List.any_eq_true]
  refine exists_congr fun stmt => and_congr_right fun _ => ?_
  rw [List.any_eq_true]
  refine exists_congr fun node => and_congr_left fun returns => ?_
  rw [Node.mem_walk, and_iff_right (Node.isPresent_of_isReturn returns)]

instance (body : List Node) : Decidable (ReturnsIn body) := decidable_of_iff _ meetsReturn_iff

/-- The step: what is found is not lost again, and the search goes on below a node exactly as long as
nothing is found. -/
theorem run_seekReturn (node : Node) (found : Bool) :
    (seekReturn node).run found = pure (!(found || node.isReturn), found || node.isReturn) := by
  cases returns : node.isReturn <;> simp [seekReturn, returns]

/-- The run over some nodes, if it is known what is found in each of them. -/
theorem run_inspectAll {finds : Node → Bool} {nodes : List Node}
    (each : ∀ node ∈ nodes, ∀ found,
      (node.inspect seekReturn).run found = pure ((), found || finds node)) (found : Bool) :
    (Node.inspectAll seekReturn nodes).run found = pure ((), found || nodes.any finds) := by
  induction nodes generalizing found with
  | nil => simp [Node.inspectAll]
  | cons node nodes inductionHypothesis =>
    obtain ⟨first, others⟩ := List.forall_mem_cons.mp each
    rw [Node.inspectAll, StateT.run_bind, first, pure_bind, inductionHypothesis others,
      List.any_cons, Bool.or_assoc]

/-- What is found in a node is what a walk meets that goes everywhere. -/
theorem run_inspect (node : Node) (found : Bool) :
    (node.inspect seekReturn).run found =
      pure ((), found || (node.walk fun _ => true).any Node.isReturn) := by
  induction node using Node.children_induction generalizing found with
  | step node inductionHypothesis =>
    cases stands : node.isPresent with
    | true =>
      rw [Node.inspect_eq _ stands, Node.walk_eq _ _ stands, StateT.run_bind, run_seekReturn,
        pure_bind, List.any_cons, ← Bool.or_assoc]
      -- Nothing below the node can change the answer once it is known.
      cases known : found || node.isReturn with
      | true => simp
      | false => simpa using run_inspectAll inductionHypothesis false
    | false =>
      obtain rfl := Node.eq_missing stands
      simp [Node.inspect, Node.walk]

/-- The search that stops early and the walk that goes everywhere agree. -/
theorem hasReturn_eq_meetsReturn (body : List Node) : hasReturn body = meetsReturn body := by
  rw [hasReturn, run_inspectAll fun node _ => run_inspect node, meetsReturn,
    Node.walkAll_eq_flatMap, List.any_flatMap]
  rfl

-- A return statement is found below a call that no checker goes below.
example : hasReturn [.call {} .unknown "nowhere" [.returnOf {} .missing]] = true := by decide

end Checker

end WinZig
