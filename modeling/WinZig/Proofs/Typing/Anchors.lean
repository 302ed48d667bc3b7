import WinZig.Proofs.Parsing.Anchors
import WinZig.Proofs.Typing.Comparisons
import WinZig.Proofs.Typing.Programs

/-!
# Where complaints are placed

A complaint is made about a node, or about a variable that is declared. It is placed where the token
of the node or of the variable starts, except that a complaint about a character literal is placed
where the literal ends.

A node complains about itself or about one of its parts: an argument, a selector, or a value of a
clause. The parts complain about themselves in their turn.
-/

namespace WinZig

/-- A complaint is placed where its token starts, one about a character literal where it ends. -/
structure Diagnostic.Placed (diagnostic : Diagnostic) : Prop where
  real : diagnostic.token.kind ≠ .endOfInput
  position : diagnostic.position =
    if diagnostic.token.kind = .character then diagnostic.token.finish else diagnostic.token.start

namespace Typing

open Checker

/-- Some complaints are placed. -/
abbrev AllPlaced (diagnostics : List Diagnostic) : Prop :=
  ∀ diagnostic ∈ diagnostics, diagnostic.Placed

/-- A complaint is made about one of some nodes. -/
def MadeAbout (nodes : List Node) (diagnostic : Diagnostic) : Prop :=
  ∃ node ∈ nodes, node.isPresent = true ∧ ∃ complaint, diagnostic = node.complain complaint

/-! ## Nodes -/

/-- No form stands at the end of the input, and only characters stand at a character. -/
theorem anchors_real : ∀ form ∈ Form.listed, .endOfInput ∉ form.anchors ∧
    (.character ∈ form.anchors ↔ form = .character) := by decide

/-- A character is reported at its end, every other form at its start. -/
theorem position_eq {node : Node} {form : Form} (shape : node.form? = some form) :
    node.position = if form = .character then node.token.finish else node.token.start := by
  cases node <;> cases shape <;> rfl

/-- A complaint about a node is placed as the kind of its token tells. -/
theorem placed_complain {node : Node} (anchored : node.Anchored) (present : node.isPresent = true)
    (complaint : Complaint) : (node.complain complaint).Placed := by
  obtain ⟨own, -⟩ := anchored
  obtain ⟨form, shape⟩ : ∃ form, node.form? = some form := by
    cases node with
    | missing => cases present
    | _ => exact ⟨_, rfl⟩
  obtain ⟨real, literal⟩ := anchors_real form (by cases form <;> decide)
  have kind := own form shape
  have same : node.token.kind = .character ↔ form = .character := by
    constructor
    · intro spelled
      exact literal.mp (spelled ▸ kind)
    · rintro rfl
      exact List.mem_singleton.mp kind
  constructor
  case real => exact fun atEnd => real (atEnd ▸ kind)
  case position =>
    simp only [Node.complain, same]
    exact position_eq shape

variable {resolution : Resolution} {owner : Option Owner}

/-- A failure is the complaint of a comparison between types that are known. -/
theorem mem_failures {comparisons : List Comparison} {diagnostic : Diagnostic}
    (member : diagnostic ∈ failures comparisons) :
    ∃ comparison ∈ comparisons, comparison.isDetermined = true ∧
      comparison.complaint = some diagnostic := by
  obtain ⟨comparison, kept, complains⟩ := List.mem_filterMap.mp member
  obtain ⟨listed, determined⟩ := List.mem_filter.mp kept
  exact ⟨comparison, listed, determined, complains⟩

/-- A node with a known type is present. -/
theorem present_of_tag {node : Node} (known : node.tag ≠ .unknown) : node.isPresent = true := by
  cases node with
  | missing => exact absurd rfl known
  | _ => rfl

/-- What a comparison against one tag complains about is known not to fit. -/
theorem Comparison.mem_against {wanted found : Ty} {complaint diagnostic : Diagnostic}
    (determined : (Comparison.against wanted found complaint).isDetermined = true)
    (complains : (Comparison.against wanted found complaint).complaint = some diagnostic) :
    found ≠ .unknown ∧ diagnostic = complaint := by
  refine ⟨by simpa [against, isDetermined] using determined, ?_⟩
  unfold against at complains
  split at complains
  · cases complains
  · exact (Option.some.inj complains).symm

/-- Two types that are compared are both known when the comparison is decided, and the complaint is
the one given. -/
theorem Comparison.mem_between {left right : Ty} {complaint diagnostic : Diagnostic}
    (determined : (Comparison.between left right complaint).isDetermined = true)
    (complains : (Comparison.between left right complaint).complaint = some diagnostic) :
    left ≠ .unknown ∧ diagnostic = complaint := by
  have known : left ≠ .unknown ∧ right ≠ .unknown := by
    simpa [between, isDetermined] using determined
  refine ⟨known.1, ?_⟩
  unfold between at complains
  split at complains
  · cases complains
  · exact (Option.some.inj complains).symm

/-- A complaint about some nodes is one about more nodes. -/
theorem MadeAbout.among {nodes others : List Node} {diagnostic : Diagnostic}
    (made : MadeAbout nodes diagnostic) (within : nodes ⊆ others) :
    MadeAbout others diagnostic := by
  obtain ⟨node, member, rest⟩ := made
  exact ⟨node, within member, rest⟩

section Comparisons

variable {node : Node} {diagnostic : Diagnostic} {comparison : Comparison}
  (determined : comparison.isDetermined = true) (complains : comparison.complaint = some diagnostic)

include determined complains

/-- Complaints about arguments are made about the arguments. -/
theorem argument_madeAbout {callee : String} {params : List Ty} {args : List Node}
    (listed : comparison ∈ argumentComparisons callee params args) : MadeAbout args diagnostic := by
  rw [argumentComparisons, ← List.map_uncurry_zip_eq_zipWith] at listed
  obtain ⟨⟨wanted, arg⟩, paired, rfl⟩ := List.mem_map.mp listed
  obtain ⟨known, same⟩ := Comparison.mem_against determined complains
  exact ⟨arg, (List.of_mem_zip paired).2, present_of_tag known, _, same⟩

/-- Complaints about a clause are made about its bounds. -/
theorem clause_madeAbout {selector : Ty} {clause : Clause Node}
    (listed : comparison ∈ clauseComparisons selector clause) :
    MadeAbout [clause.low, clause.high] diagnostic := by
  have value {value : Node} {complaint : Ty → Ty → Complaint}
      (member : value ∈ [clause.low, clause.high])
      (same : comparison = valueComparison selector complaint value) :
      MadeAbout [clause.low, clause.high] diagnostic := by
    subst same
    obtain ⟨known, same⟩ := Comparison.mem_between determined complains
    exact ⟨value, member, present_of_tag known, _, same⟩
  unfold clauseComparisons at listed
  split at listed
  · rcases List.mem_pair.mp listed with first | second
    · exact value List.mem_cons_self first
    · exact value (List.mem_cons_of_mem _ List.mem_cons_self) second
  · exact value List.mem_cons_self (List.mem_singleton.mp listed)

/-- What a node finds by comparing tags is about itself or about its parts. -/
theorem comparison_madeAbout (listed : comparison ∈ comparisons resolution owner node) :
    MadeAbout (node :: node.children) diagnostic := by
  have itself (present : node.isPresent = true) (complaint : Complaint)
      (same : diagnostic = node.complain complaint) :
      MadeAbout (node :: node.children) diagnostic :=
    ⟨node, List.mem_cons_self, present, complaint, same⟩
  cases node with
  | missing | integer | boolean | character | name => exact absurd listed List.not_mem_nil
  | call tok tag callee args =>
    simp only [comparisons] at listed
    split at listed
    · exact absurd listed List.not_mem_nil
    · split at listed
      · exact (argument_madeAbout determined complains listed).among (List.subset_cons_self _ _)
      · exact absurd listed List.not_mem_nil
  | binary | unary =>
    obtain rfl := List.mem_singleton.mp listed
    obtain ⟨complaint, -, same⟩ := Option.map_eq_some_iff.mp complains
    exact itself rfl complaint same.symm
  | assign | swap =>
    obtain rfl := List.mem_singleton.mp listed
    exact itself rfl _ (Comparison.mem_between determined complains).2
  | conditional | forLoop | whileLoop | repeatLoop =>
    obtain rfl := List.mem_singleton.mp listed
    exact itself rfl _ (Comparison.mem_against determined complains).2
  | caseOf tok selector clauses otherwise =>
    obtain ⟨clause, member, listed⟩ := List.mem_flatMap.mp listed
    apply (clause_madeAbout determined complains listed).among
    intro value within
    have listed : value ∈ clauses.flatMap fun clause => clause.low :: clause.high :: clause.body :=
      List.mem_flatMap.mpr ⟨clause, member,
        by rcases List.mem_pair.mp within with rfl | rfl <;> simp⟩
    simp [Node.children, listed]
  | returnOf tok value =>
    simp only [comparisons] at listed
    split at listed
    · exact absurd listed List.not_mem_nil
    · obtain rfl := List.mem_singleton.mp listed
      exact itself rfl _ (Comparison.mem_against determined complains).2

end Comparisons

/-- A node complains about itself or about its parts. -/
theorem own_madeAbout {node : Node} {diagnostic : Diagnostic}
    (member : diagnostic ∈ ownComplaints resolution owner node) :
    MadeAbout (node :: node.children) diagnostic := by
  have itself (present : node.isPresent = true) (complaint : Complaint)
      (same : diagnostic ∈ [node.complain complaint]) :
      MadeAbout (node :: node.children) diagnostic :=
    ⟨node, List.mem_cons_self, present, complaint, List.mem_singleton.mp same⟩
  rw [ownComplaints, List.mem_append, List.mem_append] at member
  rcases member with (about | selected) | failed
  · cases node with
    | name =>
      simp only [complaintsAbout] at about
      split at about
      · exact itself rfl _ about
      · exact absurd about List.not_mem_nil
    | call =>
      simp only [complaintsAbout] at about
      split at about
      · exact itself rfl _ about
      · split at about
        · exact absurd about List.not_mem_nil
        · exact itself rfl _ about
    | _ => exact absurd about List.not_mem_nil
  · cases node with
    | caseOf tok selector clauses otherwise =>
      simp only [selectorComplaints, complainIf] at selected
      split at selected
      · next literal =>
        have present : selector.isPresent = true := by
          cases selector with
          | missing => cases literal
          | _ => rfl
        exact ⟨selector, by simp [Node.children], present, _, List.mem_singleton.mp selected⟩
      · exact absurd selected List.not_mem_nil
    | _ => exact absurd selected List.not_mem_nil
  · obtain ⟨comparison, listed, determined, complains⟩ := mem_failures failed
    exact comparison_madeAbout determined complains listed

/-- The complaints of a visit are placed, by induction on the tree. -/
theorem visit_placed (scope : Scope) {node : Node} (anchored : node.Anchored) :
    AllPlaced (visit scope node).diagnostics := by
  induction anchored with
  | @node node own parts inductionHypothesis =>
    have gives : Gives scope ⟨scope.findVariable?, scope.findFunction?⟩ := fun _ => ⟨rfl, rfl⟩
    intro diagnostic member
    rw [(visit_accounted gives node).mem_iff, List.mem_append] at member
    rcases member with about | within
    · obtain ⟨inner, listed, present, complaint, rfl⟩ := own_madeAbout about
      -- The complaint speaks of a node as it was visited, but its token and place are the old ones.
      rcases List.mem_cons.mp listed with rfl | part
      · rw [isPresent_visit] at present
        rw [complain_visit]
        exact placed_complain (.node own parts) present complaint
      · rw [(visit_children gives node).2] at part
        split at part
        -- The parts of a call that does not fit are not visited.
        · obtain ⟨child, member, rfl⟩ := List.mem_map.mp part
          rw [isPresent_visit] at present
          rw [complain_visit]
          exact placed_complain (parts child member) present complaint
        · exact placed_complain (parts inner part) present complaint
    · split at within
      · obtain ⟨child, member, complained⟩ := List.mem_flatMap.mp within
        exact inductionHypothesis child member diagnostic complained
      · exact absurd within List.not_mem_nil

/-- All complaints about anchored nodes stand where a token can. -/
theorem visitAll_placed (scope : Scope) {nodes : List Node}
    (anchored : ∀ node ∈ nodes, node.Anchored) :
    AllPlaced (diagnosticsOf (visitAll scope nodes)) := by
  rw [diagnosticsOf_visitAll]
  intro diagnostic member
  obtain ⟨node, listed, complained⟩ := List.mem_flatMap.mp member
  exact visit_placed scope (anchored node listed) diagnostic complained

/-! ## Programs -/

section Programs

variable {checker : Checker} {declared : Variable}

/-- A complaint about a declaration stands at its name. -/
theorem complain_placed (known : AllPlaced checker.diagnostics)
    (named : declared.tok.kind = .identifier) (complaint : Complaint) :
    AllPlaced (checker.complain declared complaint).diagnostics := by
  refine List.forall_mem_append.mpr ⟨known, List.forall_mem_singleton.mpr ?_⟩
  exact ⟨by simp [named], by simp [named]⟩

/-- Complaints about a global stand at its name. -/
theorem declareGlobal_placed (known : AllPlaced checker.diagnostics)
    (named : declared.tok.kind = .identifier) :
    AllPlaced (checker.declareGlobal declared).diagnostics := by
  unfold declareGlobal
  split
  · exact known
  · dsimp only
    split
    · exact complain_placed known named _
    · exact known

/-- Complaints about a local stand at its name. -/
theorem declareLocal_placed (role : Role) (known : AllPlaced checker.diagnostics)
    (named : declared.tok.kind = .identifier) :
    AllPlaced (declareLocal role checker declared).diagnostics := by
  unfold declareLocal
  dsimp only
  split
  · exact complain_placed known named _
  · split
    · exact known
    · exact known

/-- A run over declarations, from what one declaration does. -/
theorem foldl_placed {α : Type} {step : Checker → α → Checker} {items : List α}
    (each : ∀ item ∈ items, ∀ checker : Checker, AllPlaced checker.diagnostics →
      AllPlaced (step checker item).diagnostics)
    (known : AllPlaced checker.diagnostics) : AllPlaced (items.foldl step checker).diagnostics := by
  induction items generalizing checker with
  | nil => exact known
  | cons item items inductionHypothesis =>
    obtain ⟨first, others⟩ := List.forall_mem_cons.mp each
    exact inductionHypothesis others (first checker known)

/-- Complaints about a function stand where a token can. -/
theorem checkFunction_placed {function : Function} (anchored : function.Anchored)
    (known : AllPlaced checker.diagnostics) :
    AllPlaced (checker.checkFunction function).2.diagnostics := by
  rw [checkFunction_diagnostics]
  refine List.forall_mem_append.mpr ⟨?_, visitAll_placed _ anchored.body⟩
  unfold entered
  refine foldl_placed (fun declared member _ known => ?_) (foldl_placed (fun _ _ _ known => known)
    (foldl_placed (fun declared member _ known => ?_) known))
  · exact declareLocal_placed _ known (anchored.locals declared member)
  · exact declareLocal_placed _ known (anchored.params declared member)

/-- Complaints about functions stand where a token can. -/
theorem checkFunctions_placed {functions : List Function}
    (anchored : ∀ function ∈ functions, function.Anchored) (known : AllPlaced checker.diagnostics) :
    AllPlaced (checker.checkFunctions functions).2.diagnostics := by
  induction functions generalizing checker with
  | nil => exact known
  | cons function functions inductionHypothesis =>
    obtain ⟨first, others⟩ := List.forall_mem_cons.mp anchored
    exact inductionHypothesis others (checkFunction_placed first known)

/-- The complaints about a program are placed. -/
theorem check_placed {program : Program} (anchored : program.Anchored) :
    AllPlaced (checker.check program).2.diagnostics := by
  rw [check_diagnostics]
  refine List.forall_mem_append.mpr ⟨?_, visitAll_placed _ anchored.body⟩
  apply checkFunctions_placed anchored.functions
  unfold Typing.declared
  refine foldl_placed (fun declared member _ known => ?_)
    (foldl_placed (fun _ _ _ known => known) (List.forall_mem_nil _))
  exact declareGlobal_placed known (anchored.vars declared member)

end Programs

end Typing

end WinZig
