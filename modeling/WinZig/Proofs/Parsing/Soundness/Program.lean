import WinZig.Proofs.Parsing.Soundness.Statement

/-!
# What is read as a program

Declarations, functions and programs are read as they are derived. Two tokens are blamed only once
they have been consumed, because what is wrong with them is not their kind: a type name that is not
known, and a name that closes another function than its own. What precedes such a token can still be
completed, by the token that should have stood there.
-/

namespace WinZig.Parser

open Grammar

variable {limit limit' : Nat} {enabled : Feature → Bool} {visibility : Visibility}
  {known : List String}

/-! ## Declarations -/

/-- References to types are parsed. -/
theorem typeReference_parses :
    Parses limit limit' (typeReference known) (typeReference known) (TypeName known).free
      (TypeName known) := by
  have completes : ∃ tokens type, TypeName known tokens type :=
    ⟨[{ kind := .identifier, text := "integer" }], _, .predefined rfl (.head _)⟩
  refine .expectOr (fun tok spelled => ?_) completes
  cases found : Ty.predefined? tok.text with
  | some tag => exact .inr (Parses.finish (.predefined spelled (mem_primitives.mpr found))).toReads
  | none =>
    have other : ∀ tag, (tok.text, tag) ∉ primitives := by simp [mem_primitives, found]
    by_cases listed : tok.text ∈ known
    · simp only [List.contains_eq_mem, listed, decide_true, ↓reduceIte]
      exact .inr (Parses.finish (.declared spelled other listed)).toReads
    · simp only [List.contains_eq_mem, listed, decide_false, Bool.false_eq_true, ↓reduceIte]
      exact .inl ⟨.unknownType, rfl, rfl⟩

/-- A slot that any identifier fills. -/
theorem name_parses {slot : Slot} (spelled : slot.kind = .identifier) :
    Parses limit limit' (expect slot) (expect slot) (Single .identifier).free
      (Single .identifier) := by
  rw [← bind_pure (expect slot)]
  refine .expect fun tok fills => ?_
  have token : Single .identifier [tok] tok := .token (fills.trans spelled)
  exact .finish token

/-- Declarations are parsed. -/
theorem declaration_parses :
    Parses limit limit' (declaration visibility known) (declaration visibility known)
      (Declaration visibility known).free (Declaration visibility known) := by
  refine ((name_parses rfl).separated (by decide)).andThen fun names toks listed => ?_
  refine .expect fun colon divided => ?_
  refine typeReference_parses.andThen fun typeName type named => ?_
  exact .finish (.typed listed divided named)

/-- A section that its first word announces. -/
theorem Parses.announced {α : Type} {word : Kind} {section' : Rule (List α)}
    {rest rest' : Parser (List α)} (real : word ≠ .endOfInput)
    (announced : ∀ tok, tok.kind = word →
      Parses limit limit' rest rest' (section'.free.after [tok]) (section'.after [tok])) :
    Parses limit limit'
      (Parser.accept word >>= fun found => if found = true then rest else Pure.pure [])
      (Parser.accept word >>= fun found => if found = true then rest' else Pure.pure [])
      (Optional section').free (Optional section') := by
  refine .accept real (fun tok written => ?_) (.pure (fun _ => .absent) .absent)
  exact (announced tok written).widen (fun _ _ _ derived => .present derived)
    fun _ _ derived => .present derived

/-- A declaration on its line has a token. -/
theorem DeclarationLine_ne_nil (tokens : List Token) (vars : List Variable)
    (derived : DeclarationLine visibility known tokens vars) : tokens ≠ [] := by
  cases derived
  simp

/-- Sections of variables are parsed. -/
theorem variableList_parses :
    Parses limit limit' (variableList visibility known) (variableList visibility known)
      (Optional (Variables visibility known)).free (Optional (Variables visibility known)) := by
  refine .announced (by decide) fun word written => ?_
  have line : Parses limit limit'
      (declaration visibility known >>= fun declared =>
        expect .declarationSemicolon >>= fun _ => pure declared)
      (declaration visibility known >>= fun declared =>
        expect .declarationSemicolon >>= fun _ => pure declared)
      (DeclarationLine visibility known).free (DeclarationLine visibility known) :=
    declaration_parses.andThen fun tokens vars declared =>
      .expect fun semicolon ended => .finish (.line declared ended)
  refine line.andThen fun first firstVars declared => ?_
  have more : Reads (fun kind => (kind == .identifier) = true) limit limit' _ _
      (DeclarationLine visibility known).free (DeclarationLine visibility known) :=
    line.toReads.narrow fun _ _ => trivial
  refine (Parses.many DeclarationLine_ne_nil more).andThen fun rest lists lines => ?_
  have whole : Variables visibility known (word :: (first ++ rest)) (firstVars ++ lists.flatten) :=
    .listed written declared lines
  exact .finish whole

/-- A definition of a type has a token. -/
theorem TypeDefinition_ne_nil (tokens : List Token) (definition : TypeDef)
    (derived : TypeDefinition visibility tokens definition) : tokens ≠ [] := by
  cases derived
  simp

/-- Definitions of types are parsed. -/
theorem typeDefinition_parses :
    Parses limit limit' (typeDefinition visibility) (typeDefinition visibility)
      (TypeDefinition visibility).free (TypeDefinition visibility) := by
  refine .expect fun name named => .expect fun sign signed => .expect fun opening opened => ?_
  refine ((name_parses rfl).separated (by decide)).andThen fun values toks listed => ?_
  refine .expect fun closing closes => .expect fun semicolon ended => ?_
  exact .finish (.enumerated named signed opened listed closes ended)

/-- Sections of types are parsed. -/
theorem types_parses :
    Parses limit limit' (types visibility) (types visibility) (Optional (Types visibility)).free
      (Optional (Types visibility)) := by
  refine .announced (by decide) fun word written => ?_
  refine typeDefinition_parses.andThen fun first firstDef definition => ?_
  have more : Reads (fun kind => (kind == .identifier) = true) limit limit' (typeDefinition visibility)
      (typeDefinition visibility) (TypeDefinition visibility).free (TypeDefinition visibility) :=
    typeDefinition_parses.toReads.narrow fun _ _ => trivial
  refine (Parses.many TypeDefinition_ne_nil more).andThen fun rest defs definitions => ?_
  have whole : Types visibility (word :: (first ++ rest)) (firstDef :: defs) :=
    .listed written definition definitions
  exact .finish whole

/-! ## Functions and programs -/

/-- A function has a token. -/
theorem FunctionDefinition_ne_nil (tokens : List Token) (function : Function)
    (derived : FunctionDefinition enabled known tokens function) : tokens ≠ [] := by
  cases derived
  simp

/-- Functions are read behind their word. -/
theorem function_reads :
    Reads (fun kind => (kind == .functionWord) = true) limit limit' (function enabled known)
      (function enabled known) (FunctionDefinition enabled known).free
      (FunctionDefinition enabled known) := by
  refine (Reads.shift (by decide) fun word written => ?_).lower (Nat.le_succ _) (Nat.le_succ _)
  refine (Parses.expect fun name named => .expect fun opening opened => ?_).toReads
  have params : Parses limit limit' (separated .semicolon (declaration .withinFunction known))
      (separated .semicolon (declaration .withinFunction known))
      (Separated .semicolon (Declaration .withinFunction known)).free
      (Separated .semicolon (Declaration .withinFunction known)) :=
    declaration_parses.separated (by decide)
  refine params.optional fun params lists declared => ?_
  refine .expect fun closing closes => .expect fun colon divided => ?_
  refine typeReference_parses.andThen fun resultName result resulting => ?_
  refine .expect fun semicolon headed => ?_
  refine types_parses.andThen fun typeTokens types defined => ?_
  refine variableList_parses.andThen fun varTokens locals listed => ?_
  refine body_parses.andThen fun bodyTokens body performed => ?_
  have whole {endName ending : Token} (closedAs : endName.kind = .identifier)
      (same : endName.text = name.text) (ended : ending.kind = .semicolon) :=
    FunctionDefinition.function (by simpa using written) named opened declared closes divided
      resulting headed defined listed performed closedAs same ended
  refine .expectOr (fun endName closedAs => ?_) ?_
  · by_cases same : endName.text = name.text
    · simp only [same, ne_eq, not_true_eq_false, ↓reduceIte]
      exact .inr (Parses.expect fun ending ended => .finish (whole closedAs same ended)).toReads
    · simp only [same, ne_eq, not_false_eq_true, ↓reduceIte, failLast_bind]
      exact .inl ⟨_, rfl, rfl⟩
  · have spelled : ({ kind := .identifier, text := name.text } : Token).kind = .identifier := rfl
    have marked : ({ kind := .semicolon } : Token).kind = .semicolon := rfl
    exact ⟨_, _, whole spelled rfl marked⟩

/-- A program at the end of the tokens. -/
def complete (enabled : Feature → Bool) : Language Program := fun tokens program next =>
  ProgramText enabled tokens program ∧ next = .endOfInput

/-- The dot behind a program, and nothing behind the dot. -/
theorem ending_parses {result : Program} {rule : Rule Program}
    (whole : ∀ dot : Token, dot.kind = .dot → rule [dot] result) :
    Parses limit limit'
      (do
        let _ ← expect .programDot
        if !(← check .endOfInput) then fail .trailing
        return result)
      (do
        let _ ← expect .programDot
        if !(← check .endOfInput) then fail .trailing
        return result)
      (fun tokens program next => rule tokens program ∧ next = .endOfInput) rule := by
  refine .expect fun dot ended => ?_
  rw [check_bind]
  refine ⟨.current fun tok _ => ?_, [], result, whole dot ended⟩
  by_cases atEnd : tok.kind = .endOfInput
  · simp only [atEnd, decide_true, Bool.not_true, Bool.false_eq_true, ↓reduceIte]
    exact .pure fun next same => ⟨whole dot ended, same⟩
  · simp only [atEnd, decide_false, Bool.not_false, ↓reduceIte, fail_bind]
    exact .fail ⟨[], result, whole dot ended⟩

/-- Programs are parsed, up to the end of the input. -/
theorem program_parses :
    Parses limit limit' (program enabled) (program enabled) (complete enabled)
      (ProgramText enabled) := by
  refine .expect fun word written => .expect fun name named => .expect fun colon divided => ?_
  refine types_parses.andThen fun typeTokens types defined => ?_
  refine variableList_parses.andThen fun varTokens vars listed => ?_
  refine (Parses.many FunctionDefinition_ne_nil function_reads).andThen
    fun functionTokens functions declared => ?_
  refine body_parses.andThen fun bodyTokens body performed => ?_
  refine .expect fun endName closedAs => ?_
  have whole (dot : Token) (ended : dot.kind = .dot) :=
    ProgramText.program written named divided defined listed declared performed closedAs ended
  split
  · exact ⟨.note (ending_parses whole).toReads, [{ kind := .dot }], _, whole _ rfl⟩
  · exact ending_parses whole

end WinZig.Parser
