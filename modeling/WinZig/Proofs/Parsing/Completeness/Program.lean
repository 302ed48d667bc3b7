import WinZig.Proofs.Parsing.Completeness.Statement
import WinZig.Proofs.Parsing.Soundness.Program

/-!
# What is derived as a program is read as one

The sections of a program and of a function are announced by their first words, and their entries by
the identifiers they start with. A section that is left out is recognised by the token in its place,
so what may follow a section is said by the kinds that must not.
-/

namespace WinZig.Parser

open Grammar

variable {limit : Nat} {follow : Kind → Prop} {enabled : Feature → Bool}
  {visibility : Visibility} {known : List String}

/-! ## Declarations -/

/-- References to known types are accepted. -/
theorem typeReference_accepts {tokens : List Token} {type : TypeRef}
    (derived : TypeName known tokens type) :
    Accepts limit (typeReference known) follow tokens type := by
  rw [typeReference]
  cases derived with
  | predefined spelled found =>
    refine .expect spelled ?_
    rw [mem_primitives.mp found]
    exact .pure
  | declared spelled other listed =>
    have other : Ty.predefined? _ = none :=
      Option.eq_none_iff_forall_not_mem.mpr fun tag found => other tag (mem_primitives.mpr found)
    refine .expect spelled ?_
    rw [other]
    simp only [List.contains_eq_mem, listed, decide_true, ↓reduceIte]
    exact .pure

/-- Names with commas between them, in front of what closes their list. -/
theorem names_accepts {slot : Slot} {tokens : List Token} {toks : List Token} (closing : Kind)
    (fills : slot.kind = .identifier) (ends : closing ≠ .comma)
    (listed : Separated .comma (Single .identifier) tokens toks) :
    Accepts limit (separated .comma (expect slot)) (· = closing) tokens toks := by
  have single {tokens : List Token} {tok : Token} (derived : Single .identifier tokens tok) :
      Accepts limit (expect slot) (fun _ => True) tokens tok := by
    obtain ⟨spelled⟩ := derived
    rw [← bind_pure (expect slot)]
    exact .expect (spelled.trans fills.symm) .pure
  refine .separated trivial (fun kind same => ⟨trivial, ?_⟩) (listed.imp fun _ _ => single)
  exact same ▸ ends

/-- Declarations are accepted. -/
theorem declaration_accepts {tokens : List Token} {vars : List Variable}
    (derived : Declaration visibility known tokens vars) :
    Accepts limit (declaration visibility known) follow tokens vars := by
  cases derived with
  | typed listed divided named =>
    refine (names_accepts .colon rfl (by decide) listed).andThen (fun _ _ => divided) ?_
    exact .expect divided ((typeReference_accepts named).andLast .pure)

/-- A declaration starts with a name. -/
theorem leading_declaration {tokens : List Token} {vars : List Variable}
    (derived : Declaration visibility known tokens vars) :
    ∃ tok rest, tokens = tok :: rest ∧ tok.kind = .identifier := by
  cases derived with
  | typed listed divided named =>
    cases listed with
    | one only =>
      obtain ⟨spelled⟩ := only
      exact ⟨_, _, rfl, spelled⟩
    | more first marked others =>
      obtain ⟨spelled⟩ := first
      exact ⟨_, _, rfl, spelled⟩

/-- The kinds in front of which a section ends that a given word announces. -/
def closesSection (word kind : Kind) : Prop := kind ≠ word ∧ kind ≠ .identifier

instance (word kind : Kind) : Decidable (closesSection word kind) :=
  inferInstanceAs (Decidable (_ ∧ _))

/-- Entries that start with a name, up to the end of their section. -/
theorem entries_accepts {α : Type} {item : Parser α} {rule : Rule α} {tokens : List Token}
    {values : List α} {word : Kind}
    (accepted : ∀ {tokens value}, rule tokens value → Accepts limit item (fun _ => True) tokens value)
    (named : ∀ {tokens value}, rule tokens value →
      ∃ tok rest, tokens = tok :: rest ∧ tok.kind = .identifier)
    (listed : Repeated rule tokens values) :
    Accepts limit (many (· == .identifier) item) (closesSection word) tokens values := by
  refine .many (fun _ _ => trivial) (fun kind closes => ⟨trivial, by simpa using closes.2⟩)
    (listed.imp fun tokens value derived => ⟨accepted derived, ?_⟩)
  obtain ⟨tok, rest, same, spelled⟩ := named derived
  exact ⟨tok, rest, same, by simp [spelled]⟩

/-- Sections of variables are accepted, and so is their absence. -/
theorem variableList_accepts {tokens : List Token} {vars : List Variable}
    (derived : Optional (Variables visibility known) tokens vars) :
    Accepts limit (variableList visibility known) (closesSection .varWord) tokens vars := by
  rw [variableList]
  have line {tokens : List Token} {vars : List Variable}
      (derived : DeclarationLine visibility known tokens vars) :
      Accepts limit
        (declaration visibility known >>= fun declared =>
          expect .declarationSemicolon >>= fun _ => pure declared)
        (fun _ => True) tokens vars := by
    obtain ⟨declared, ended⟩ := derived
    exact (declaration_accepts declared).andThenFree (.expect ended .pure)
  cases derived with
  | absent => exact .acceptLeft (fun _ closes => closes.1) .pure
  | present derived =>
    obtain ⟨written, first, others⟩ := derived
    refine .acceptTaken written ((line first).andThenFree ?_)
    refine (entries_accepts line (fun derived => ?_) others).andLast .pure
    obtain ⟨declared, -⟩ := derived
    obtain ⟨tok, rest, rfl, spelled⟩ := leading_declaration declared
    exact ⟨tok, _, rfl, spelled⟩

/-- Definitions of types are accepted. -/
theorem typeDefinition_accepts {tokens : List Token} {definition : TypeDef}
    (derived : TypeDefinition visibility tokens definition) :
    Accepts limit (typeDefinition visibility) follow tokens definition := by
  cases derived with
  | enumerated named signed opened listed closed ended =>
    refine .expect named (.expect signed (.expect opened ?_))
    refine (names_accepts .closeParen rfl (by decide) listed).andThen (fun _ _ => closed) ?_
    exact .expect closed (.expect ended .pure)

/-- Sections of types are accepted, and so is their absence. -/
theorem types_accepts {tokens : List Token} {defs : List TypeDef}
    (derived : Optional (Types visibility) tokens defs) :
    Accepts limit (types visibility) (closesSection .typeWord) tokens defs := by
  rw [types]
  cases derived with
  | absent => exact .acceptLeft (fun _ closes => closes.1) .pure
  | present derived =>
    obtain ⟨written, first, others⟩ := derived
    refine .acceptTaken written ((typeDefinition_accepts first).andThenFree ?_)
    refine (entries_accepts typeDefinition_accepts (fun derived => ?_) others).andLast .pure
    obtain ⟨named, -⟩ := derived
    exact ⟨_, _, rfl, named⟩

/-! ## Functions and programs -/

/-- A section of variables begins with its word, unless it is absent. -/
theorem leading_variables {tokens : List Token} {vars : List Variable} (next : Kind)
    (derived : Optional (Variables visibility known) tokens vars) :
    leading tokens next = next ∨ leading tokens next = .varWord := by
  cases derived with
  | absent => exact .inl rfl
  | present derived =>
    obtain ⟨written, -, -⟩ := derived
    exact .inr written

/-- A body begins with its word. -/
theorem leading_body {tokens : List Token} {nodes : List Node} (next : Kind)
    (derived : Body enabled tokens nodes) : leading tokens next = .beginWord := by
  obtain ⟨opened, -, -⟩ := derived
  exact opened

/-- Functions begin with their word, unless there are none. -/
theorem leading_functions {tokens : List Token} {functions : List Function} (next : Kind)
    (derived : Repeated (FunctionDefinition enabled known) tokens functions) :
    leading tokens next = next ∨ leading tokens next = .functionWord := by
  cases derived with
  | none => exact .inl rfl
  | more first others =>
    obtain ⟨written⟩ := first
    exact .inr written

/-- Functions are accepted. -/
theorem function_accepts {tokens : List Token} {definition : Function}
    (derived : FunctionDefinition enabled known tokens definition) :
    Accepts limit (function enabled known) follow tokens definition := by
  cases derived with
  | function written named opened declared closed divided resulting headed defined listed performed
      closedAs same ended =>
    rw [function]
    refine (Accepts.shift (.expect named (.expect opened ?_))).lower
    rw [← closed]
    refine .optional (· = .closeParen) (fun listed => ⟨?_, ?_⟩) closed declared ?_
    · have params : Separated .semicolon (Accepts limit (declaration .withinFunction known) fun _ => True) _ _ :=
        listed.imp fun _ _ => declaration_accepts
      exact .separated trivial (by rintro kind rfl; exact ⟨trivial, by decide⟩) params
    · rw [closed]
      refine listed.leading (· ≠ .closeParen) fun derived next => ?_
      obtain ⟨tok, rest, rfl, spelled⟩ := leading_declaration derived
      simp [spelled]
    refine .expect closed (.expect divided ((typeReference_accepts resulting).andThenFree ?_))
    refine .expect headed ((types_accepts defined).andThen (fun next _ => ?_) ?_)
    · rw [leading_append, leading_append, leading_body _ performed]
      rcases leading_variables .beginWord listed with leads | leads <;> rw [leads] <;> decide
    refine (variableList_accepts listed).andThen (fun next _ => ?_) ?_
    · rw [leading_append, leading_body _ performed]
      decide
    refine (body_accepts performed).andThenFree (.expect closedAs ?_)
    simp only [same, ne_eq, not_true_eq_false, ↓reduceIte]
    exact .expect ended .pure

/-- Every program of the grammar is accepted. -/
theorem program_accepts {tokens : List Token} {result : Program}
    (derived : ProgramText enabled tokens result) :
    Accepts limit (program enabled) (· = .endOfInput) tokens result := by
  cases derived with
  | @program word name colon typeTokens types varTokens vars functionTokens functions bodyTokens body
      endName dot written named divided defined listed declared performed closedAs ended =>
    rw [program]
    refine .expect written (.expect named (.expect divided ?_))
    refine (types_accepts defined).andThen (fun next _ => ?_) ?_
    · rw [leading_append, leading_append, leading_append, leading_body _ performed]
      rcases leading_functions .beginWord declared with leads | leads <;> rw [leads]
      · rcases leading_variables .beginWord listed with leads | leads <;> rw [leads] <;> decide
      · rcases leading_variables .functionWord listed with leads | leads <;> rw [leads] <;> decide
    refine (variableList_accepts listed).andThen (fun next _ => ?_) ?_
    · rw [leading_append, leading_append, leading_body _ performed]
      rcases leading_functions .beginWord declared with leads | leads <;> rw [leads] <;> decide
    have announced := declared.imp fun tokens definition derived =>
      (⟨function_accepts derived, by obtain ⟨written⟩ := derived; exact ⟨_, _, rfl, by simp [written]⟩⟩ :
        Announced (· == .functionWord)
          (Accepts limit (function enabled (types.map TypeDef.name)) fun _ => True) tokens definition)
    have accepted : Accepts limit (many (· == .functionWord)
        (function enabled (types.map TypeDef.name))) (· = .beginWord) functionTokens functions :=
      .many (fun _ _ => trivial) (by rintro kind rfl; exact ⟨trivial, rfl⟩) announced
    refine accepted.andThen (fun next _ => ?_) ?_
    · rw [leading_append, leading_body _ performed]
    refine (body_accepts performed).andThenFree (.expect closedAs ?_)
    have ends : Accepts limit
        (do
          let _ ← expect .programDot
          if !(← check .endOfInput) then fail .trailing
          return ({ name := name.text, endName := endName.text, types, vars, functions, body,
                    tok := name } : Program))
        (· = .endOfInput) [dot]
        { name := name.text, endName := endName.text, types, vars, functions, body, tok := name } := by
      refine .expect ended (.check true (fun next same => decide_eq_true same) ?_)
      exact .pure
    split
    · exact .note ends
    · exact ends

end WinZig.Parser
