import WinZig.Proofs.Typing.Expressions

/-!
# Visiting statements decides their validity

A statement is visited in silence exactly if nothing is wrong with it. What a statement compares are
tags that are not empty, because the visits to its expressions were silent.
-/

namespace WinZig.Typing

open Checker

variable {scope : Scope}

/-! ## Comparisons -/

/-- Types agree if one of them is not known or they are the same. -/
theorem disagree_eq_false {left right : Ty} :
    disagree left right = false ↔ left = .unknown ∨ right = .unknown ∨ left = right := by
  by_cases first : left = .unknown <;> by_cases second : right = .unknown <;>
    simp [disagree, first, second]

/-- The complaints of a clause under a selector of a given tag. -/
theorem clauses_eq_nil {selector : Ty} {clauses : List (Clause Node)} :
    (visitClauses scope selector clauses).flatMap Prod.snd = [] ↔
      ∀ clause ∈ clauses,
        ((visit scope clause.low).diagnostics = [] ∧
          disagree (visit scope clause.low).tag selector = false) ∧
        (clause.high.isPresent = true → (visit scope clause.high).diagnostics = [] ∧
          disagree (visit scope clause.high).tag selector = false) ∧
        ∀ stmt ∈ clause.body, (visit scope stmt).diagnostics = [] := by
  induction clauses with
  | nil => simp [visitClauses_nil]
  | cons clause clauses ih =>
    obtain ⟨low, high, body⟩ := clause
    rw [visitClauses_cons, List.flatMap_cons, List.append_eq_nil_iff, ih, List.forall_mem_cons]
    cases high <;>
      simp [caseComplaint, complainIf_eq_nil, diagnosticsOf_eq_nil, and_assoc, Node.isPresent,
        visit_missing, disagree]

/-- A return is not complained about exactly when its value fits the function, or its type is not
known. -/
theorem returnComplaint_eq_nil {stmt : Node} {value : Visited} :
    returnComplaint scope stmt value = [] ↔
      ∀ result ∈ (contextOf scope).result, value.tag = .unknown ∨ value.tag = result := by
  unfold returnComplaint contextOf
  cases scope.owner with
  | none => simp
  | some owner =>
    by_cases empty : value.tag = .unknown <;> simp [complainIf_eq_nil, empty]

section Visits

variable (known : Known scope)

include known

/-- A valid statement is visited in silence. -/
theorem visit_of_isValid {stmt : Node} (valid : IsValid (contextOf scope) stmt) :
    (visit scope stmt).diagnostics = [] := by
  induction valid with
  | assign before behind =>
    obtain ⟨silentLeft, tagLeft, -⟩ := visit_of_hasType known before
    obtain ⟨silentRight, tagRight, -⟩ := visit_of_hasType known behind
    simp [visit_assign, silentLeft, silentRight, tagLeft, tagRight, complainIf_eq_nil,
      disagree_eq_false]
  | swap before behind =>
    obtain ⟨silentLeft, tagLeft, -⟩ := visit_of_hasType known before
    obtain ⟨silentRight, tagRight, -⟩ := visit_of_hasType known behind
    simp [visit_swap, silentLeft, silentRight, tagLeft, tagRight, complainIf_eq_nil,
      disagree_eq_false]
  | call called => exact (visit_of_hasType known called).1
  | conditional tested held failed ihHeld ihFailed =>
    obtain ⟨silent, tag, -⟩ := visit_of_hasType known tested
    simpa [visit_conditional, silent, tag, conditionComplaint, complainIf_eq_nil, disagree_eq_false,
      diagnosticsOf_eq_nil] using ⟨ihHeld, ihFailed⟩
  | forLoop begun tested stepped held ihBegun ihStepped ihHeld =>
    obtain ⟨silent, tag, -⟩ := visit_of_hasType known tested
    simpa [visit_forLoop, silent, tag, conditionComplaint, complainIf_eq_nil, disagree_eq_false,
      diagnosticsOf_eq_nil, ihBegun, ihStepped] using ihHeld
  | whileLoop tested held ihHeld =>
    obtain ⟨silent, tag, -⟩ := visit_of_hasType known tested
    simpa [visit_whileLoop, silent, tag, conditionComplaint, complainIf_eq_nil, disagree_eq_false,
      diagnosticsOf_eq_nil] using ihHeld
  | repeatLoop held tested ihHeld =>
    obtain ⟨silent, tag, -⟩ := visit_of_hasType known tested
    simpa [visit_repeatLoop, silent, tag, conditionComplaint, complainIf_eq_nil, disagree_eq_false,
      diagnosticsOf_eq_nil] using ihHeld
  | @caseOf tok selector clauses otherwise type selected computed lows highs held remaining ihHeld
      ihRemaining =>
    obtain ⟨silent, tag, -⟩ := visit_of_hasType known selected
    have value {node : Node} (typed : HasType (contextOf scope) node type) :
        (visit scope node).diagnostics = [] ∧ disagree (visit scope node).tag type = false := by
      obtain ⟨silent, tag, -⟩ := visit_of_hasType known typed
      exact ⟨silent, disagree_eq_false.mpr (.inr (.inr tag))⟩
    have clauses : (visitClauses scope type clauses).flatMap Prod.snd = [] := by
      refine clauses_eq_nil.mpr fun clause member =>
        ⟨value (lows clause member), fun present => ?_, ihHeld clause member⟩
      rcases highs clause member with missing | typed
      · exact absurd present (by simp [missing, Node.isPresent])
      · exact value typed
    simpa [visit_caseOf, silent, tag, computed, complainIf_eq_nil, clauses, diagnosticsOf_eq_nil]
      using ihRemaining
  | @returnOf tok value type given wanted =>
    obtain ⟨silent, tag, -⟩ := visit_of_hasType known given
    have agreed : returnComplaint scope (.returnOf tok value) (visit scope value) = [] :=
      returnComplaint_eq_nil.mpr fun result member => .inr (tag.trans (wanted result member))
    simp [visit_returnOf, silent, agreed]

/-- What is visited in silence and compared with a type that is not empty is of that type. -/
theorem hasType_of_agree {lexicon : Shape.Lexicon} {node : Node} {type : Ty}
    (shape : Shape.IsExpression lexicon node) (silent : (visit scope node).diagnostics = [])
    (present : type ≠ .unknown) (agree : disagree (visit scope node).tag type = false) :
    HasType (contextOf scope) node type := by
  have typed := hasType_of_visit known shape silent
  have tag := (visit_of_hasType known typed).2.2
  rcases disagree_eq_false.mp agree with empty | empty | same
  · exact absurd empty tag
  · exact absurd empty present
  · exact same ▸ typed

/-- An assignment without complaints is valid. -/
theorem isValid_of_visit_assignment {lexicon : Shape.Lexicon} {node : Node}
    (shape : Shape.IsAssignment lexicon node) (silent : (visit scope node).diagnostics = []) :
    IsValid (contextOf scope) node := by
  obtain ⟨named, written⟩ := shape
  simp only [visit_assign, List.append_eq_nil_iff, complainIf_eq_nil] at silent
  obtain ⟨⟨silentLeft, silentRight⟩, agree⟩ := silent
  have right := hasType_of_visit known written silentRight
  have present := (visit_of_hasType known right).2.2
  exact .assign (hasType_of_agree known (.name named) silentLeft present agree) right

/-- A statement that is visited in silence is valid. -/
theorem isValid_of_visit {lexicon : Shape.Lexicon} {stmt : Node}
    (shape : Shape.IsStatement lexicon stmt) (silent : (visit scope stmt).diagnostics = []) :
    IsValid (contextOf scope) stmt := by
  induction shape with
  | assignment assigned => exact isValid_of_visit_assignment known assigned silent
  | exchange before behind =>
    simp only [visit_swap, List.append_eq_nil_iff, complainIf_eq_nil] at silent
    obtain ⟨⟨silentLeft, silentRight⟩, agree⟩ := silent
    have right := hasType_of_visit known (.name behind) silentRight
    have present := (visit_of_hasType known right).2.2
    exact .swap (hasType_of_agree known (.name before) silentLeft present agree) right
  | output named some given =>
    exact .call (hasType_of_visit_call known
      (fun arg member => hasType_of_visit known (given arg member)) silent)
  | read named some given =>
    exact .call (hasType_of_visit_call known
      (fun arg member => hasType_of_visit known (.name (given arg member))) silent)
  | conditional tested held failed ihHeld ihFailed =>
    simp only [visit_conditional, List.append_eq_nil_iff, conditionComplaint, complainIf_eq_nil,
      diagnosticsOf_eq_nil] at silent
    obtain ⟨⟨⟨silent, agree⟩, silentHeld⟩, silentFailed⟩ := silent
    exact .conditional (hasType_of_agree known tested silent (by decide) agree)
      (fun stmt member => ihHeld stmt member (silentHeld stmt member))
      (fun stmt member => ihFailed stmt member (silentFailed stmt member))
  | forLoop begun tested stepped held ihHeld =>
    simp only [visit_forLoop, List.append_eq_nil_iff, conditionComplaint, complainIf_eq_nil,
      diagnosticsOf_eq_nil] at silent
    obtain ⟨⟨⟨⟨silentStart, silent⟩, agree⟩, silentStep⟩, silentHeld⟩ := silent
    exact .forLoop (isValid_of_visit_assignment known begun silentStart)
      (hasType_of_agree known tested silent (by decide) agree)
      (isValid_of_visit_assignment known stepped silentStep)
      (fun stmt member => ihHeld stmt member (silentHeld stmt member))
  | whileLoop tested held ihHeld =>
    simp only [visit_whileLoop, List.append_eq_nil_iff, conditionComplaint, complainIf_eq_nil,
      diagnosticsOf_eq_nil] at silent
    obtain ⟨⟨silent, agree⟩, silentHeld⟩ := silent
    exact .whileLoop (hasType_of_agree known tested silent (by decide) agree)
      (fun stmt member => ihHeld stmt member (silentHeld stmt member))
  | repeatLoop held tested ihHeld =>
    simp only [visit_repeatLoop, List.append_eq_nil_iff, conditionComplaint, complainIf_eq_nil,
      diagnosticsOf_eq_nil] at silent
    obtain ⟨⟨silentHeld, silent⟩, agree⟩ := silent
    exact .repeatLoop (fun stmt member => ihHeld stmt member (silentHeld stmt member))
      (hasType_of_agree known tested silent (by decide) agree)
  | caseOf selected lows highs held remaining ihHeld ihRemaining =>
    simp only [visit_caseOf, List.append_eq_nil_iff, complainIf_eq_nil, clauses_eq_nil,
      diagnosticsOf_eq_nil] at silent
    obtain ⟨⟨⟨computed, silent⟩, clauses⟩, silentRest⟩ := silent
    have selector := hasType_of_visit known selected silent
    have present := (visit_of_hasType known selector).2.2
    refine .caseOf selector computed (fun clause member => ?_) (fun clause member => ?_)
      (fun clause member stmt inside => ?_)
      (fun stmt member => ihRemaining stmt member (silentRest stmt member))
    · obtain ⟨⟨silent, agree⟩, -, -⟩ := clauses clause member
      exact hasType_of_agree known (lows clause member).expression silent present agree
    · rcases highs clause member with missing | value
      · exact .inl missing
      · obtain ⟨silent, agree⟩ := (clauses clause member).2.1 value.expression.present
        exact .inr (hasType_of_agree known value.expression silent present agree)
    · exact ihHeld clause member stmt inside ((clauses clause member).2.2 stmt inside)
  | returnOf given =>
    simp only [visit_returnOf, List.append_eq_nil_iff, returnComplaint_eq_nil] at silent
    obtain ⟨silent, agreed⟩ := silent
    have typed := hasType_of_visit known given silent
    have present := (visit_of_hasType known typed).2.2
    exact .returnOf typed fun result member => (agreed result member).resolve_left present

end Visits

end WinZig.Typing
