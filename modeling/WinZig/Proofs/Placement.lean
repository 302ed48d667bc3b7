import WinZig.Proofs.Compiling.Attribution

/-!
# Where tokens stand does not matter

Two streams say the same if their tokens are of the same kinds and have the same texts, one by one.
Everything else of them may differ: lines, columns, lengths and the indices of their sources. Both are
then read in the same way. They are refused together, with the same message at the same place of the
stream, or they are read as the same program, and checking finds the same in it.

There is a third outcome, and only one thing leads to it. A character literal that has no character in
it makes reading crash, in both streams at the same place. No source has such a literal.

Tokens of one stream cannot be mapped to tokens of the other: two tokens may be equal in one stream
and stand apart in the other. So both streams are taken from a third one, whose tokens are numbered.
There every token occurs once, and it can be sent to the token of its number in any stream.
-/

namespace WinZig

/-- A token that says the same and stands nowhere. -/
def Token.bare (tok : Token) : Token := tok.lexeme.token

/-- Complaints of one kind at the same place of two streams. -/
structure Diagnostic.Alike (tokens tokens' : List Token) (one other : Diagnostic) : Prop where
  complaint : other.complaint = one.complaint
  message : other.message = one.message
  token : ∃ place, one.token = tokenAt tokens place ∧ other.token = tokenAt tokens' place
  position : one.position = one.token.start ∧ other.position = other.token.start ∨
    one.position = one.token.finish ∧ other.position = other.token.finish

/-- The results of checking two programs that were read from two streams. -/
structure Checker.Alike (tokens tokens' : List Token) (one other : Program × Checker) : Prop where
  tags : other.1.moved Token.bare = one.1.moved Token.bare
  symbols : other.2.symbols.map (Symbol.moved Token.bare) =
    one.2.symbols.map (Symbol.moved Token.bare)
  diagnostics : List.Forall₂ (Diagnostic.Alike tokens tokens') one.2.diagnostics
    other.2.diagnostics

/-- The outcomes of reading two streams. Either both are refused at the same place and with the same
message, or both are programs that differ in where their tokens stand only, and so do the results of
checking them. Or both come to nothing, at a character literal without a character. -/
inductive Reply.Alike (tokens tokens' : List Token) : Reply Program → Reply Program → Prop where
  | failed {fault fault' : Fault} {index : Nat} {notices notices' : List Notice}
      (message : fault'.message = fault.message) (inside : index ≤ tokens.length)
      (token : fault.token = tokenAt tokens index)
      (token' : fault'.token = tokenAt tokens' index) :
      Alike tokens tokens' (.failed fault index notices) (.failed fault' index notices')
  | ok {program program' : Program} {cursor cursor' : Cursor}
      (tree : program'.moved Token.bare = program.moved Token.bare)
      (checked : ∀ checker : Checker,
        Checker.Alike tokens tokens' (checker.check program) (checker.check program')) :
      Alike tokens tokens' (.ok program cursor) (.ok program' cursor')
  | crashed {literal literal' : Token} {notices notices' : List Notice} (hollow : literal.IsHollow)
      (token : ∃ place < tokens.length,
        literal = tokenAt tokens place ∧ literal' = tokenAt tokens' place) :
      Alike tokens tokens' (.crashed literal notices) (.crashed literal' notices')

/-! ## Moving twice -/

section Twice

variable (onToken onToken' : Token → Token)

/-- Nodes, by induction on their children. -/
theorem Node.moved_moved (node : Node) :
    (node.moved onToken).moved onToken' = node.moved (onToken' ∘ onToken) := by
  have all {nodes : List Node} (each : ∀ node ∈ nodes,
      (node.moved onToken).moved onToken' = node.moved (onToken' ∘ onToken)) :
      (nodes.map (moved onToken)).map (moved onToken') = nodes.map (moved (onToken' ∘ onToken)) := by
    rw [List.map_map]
    exact List.map_congr_left each
  induction node using children_induction with
  | step node inductionHypothesis =>
    cases node with
    | missing | integer | boolean | character | name => rfl
    | call tok tag callee args =>
      simp only [children] at inductionHypothesis
      simp only [moved_call, all inductionHypothesis, Function.comp_apply]
    | binary | swap | assign =>
      simp only [children, List.forall_mem_cons] at inductionHypothesis
      simp only [moved_binary, moved_swap, moved_assign, inductionHypothesis, Function.comp_apply]
    | unary | returnOf =>
      simp only [children, List.forall_mem_cons] at inductionHypothesis
      simp only [moved_unary, moved_returnOf, inductionHypothesis, Function.comp_apply]
    | conditional tok condition thenBody elseBody =>
      simp only [children, List.cons_append, List.forall_mem_cons, List.forall_mem_append]
        at inductionHypothesis
      obtain ⟨tested, chosen, other⟩ := inductionHypothesis
      simp only [moved_conditional, tested, all chosen, all other, Function.comp_apply]
    | forLoop tok start condition step body =>
      simp only [children, List.forall_mem_cons] at inductionHypothesis
      obtain ⟨begun, tested, stepped, held⟩ := inductionHypothesis
      simp only [moved_forLoop, begun, tested, stepped, all held, Function.comp_apply]
    | whileLoop tok condition body =>
      simp only [children, List.forall_mem_cons] at inductionHypothesis
      obtain ⟨tested, held⟩ := inductionHypothesis
      simp only [moved_whileLoop, tested, all held, Function.comp_apply]
    | repeatLoop tok body condition =>
      simp only [children, List.forall_mem_append, List.forall_mem_singleton] at inductionHypothesis
      obtain ⟨held, tested⟩ := inductionHypothesis
      simp only [moved_repeatLoop, tested, all held, Function.comp_apply]
    | caseOf tok selector clauses otherwise =>
      simp only [children, List.cons_append, List.forall_mem_cons, List.forall_mem_append]
        at inductionHypothesis
      obtain ⟨selected, within, remaining⟩ := inductionHypothesis
      have listed : (clauses.map (Clause.moved onToken)).map (Clause.moved onToken') =
          clauses.map (Clause.moved (onToken' ∘ onToken)) := by
        rw [List.map_map]
        apply List.map_congr_left
        intro clause member
        have parts := fun node belongs => within node (List.mem_flatMap.mpr ⟨clause, member, belongs⟩)
        simp only [List.forall_mem_cons] at parts
        obtain ⟨low, high, body⟩ := parts
        simp only [Function.comp_apply, Clause.moved, low, high, all body]
      simp only [moved_caseOf, selected, listed, all remaining, Function.comp_apply]

/-- Functions, by moving what they hold. -/
theorem Function.moved_moved (function : Function) :
    (function.moved onToken).moved onToken' = function.moved (onToken' ∘ onToken) := by
  simp only [Function.moved, List.map_map]
  simp only [Function.comp_def, Node.moved_moved]
  rfl

/-- Programs, by moving what they hold. -/
theorem Program.moved_moved (program : Program) :
    (program.moved onToken).moved onToken' = program.moved (onToken' ∘ onToken) := by
  simp only [Program.moved, List.map_map]
  simp only [Function.comp_def, Node.moved_moved, Function.moved_moved]
  rfl

end Twice

/-! ## Numbered streams -/

/-- Tokens that say some lexemes, with their numbers as columns. They are two characters long, so that
none of them ends where it starts. -/
def numbered (lexemes : List Lexeme) : List Token :=
  lexemes.mapIdx fun index lexeme =>
    { lexeme.token with line := 1, column := index + 1, length := 2 }

/-- A numbered token at the place in a stream that it has the number of. -/
def Token.placed (tokens : List Token) (tok : Token) : Token :=
  { tokenAt tokens (tok.column - 1).toNat with kind := tok.kind, text := tok.text }

/-- Placing a token does not change what it says. -/
theorem Token.keepsSpelling_placed (tokens : List Token) : KeepsSpelling (Token.placed tokens) :=
  ⟨fun _ => rfl, fun _ => rfl⟩

/-- What a placed token says does not depend on its place. -/
theorem Token.bare_placed (tokens : List Token) : Token.bare ∘ Token.placed tokens = Token.bare := rfl

section Numbered

variable (tokens : List Token)

/-- A token of the stream. -/
theorem tokenAt_of_lt {place : Nat} (inside : place < tokens.length) :
    tokenAt tokens place = tokens[place] := by
  rw [tokenAt, List.getElem?_eq_getElem inside, Option.getD_some]

/-- The end of the stream. -/
theorem tokenAt_of_le {place : Nat} (outside : tokens.length ≤ place) :
    tokenAt tokens place = (Cursor.ofTokens tokens).stop := by
  rw [tokenAt, List.getElem?_eq_none outside, Option.getD_none]

/-- Every token of a stream, and its end, stands at a place. -/
theorem exists_tokenAt {tok : Token} (member : tok ∈ (Cursor.ofTokens tokens).stop :: tokens) :
    ∃ place, tok = tokenAt tokens place := by
  rcases List.mem_cons.mp member with rfl | listed
  · exact ⟨tokens.length, (tokenAt_of_le tokens (Nat.le_refl _)).symm⟩
  · obtain ⟨place, inside, rfl⟩ := List.getElem_of_mem listed
    exact ⟨place, (tokenAt_of_lt tokens inside).symm⟩

/-- The end of a stream has no extent, kind or text of its own. -/
theorem exists_stop : ∃ file line column,
    (Cursor.ofTokens tokens).stop = { file, line, column } := by
  unfold Cursor.ofTokens
  cases tokens.getLast? with
  | none => exact ⟨0, 1, 1, rfl⟩
  | some tok => exact ⟨tok.file, tok.line, tok.column + 1, rfl⟩

/-- There is a numbered token for each lexeme. -/
theorem length_numbered (lexemes : List Lexeme) :
    (numbered lexemes).length = lexemes.length := List.length_mapIdx

/-- The end of a numbered stream has the next number. -/
theorem stop_numbered (lexemes : List Lexeme) :
    (Cursor.ofTokens (numbered lexemes)).stop = { line := 1, column := lexemes.length + 1 } := by
  rcases List.eq_nil_or_concat lexemes with rfl | ⟨others, last, rfl⟩
  · rfl
  · simp [Cursor.ofTokens, numbered, List.concat_eq_append, Lexeme.token]

/-- A numbered token has the number of its place. -/
theorem tokenAt_numbered {place : Nat} (inside : place < tokens.length) :
    tokenAt (numbered (tokens.map Token.lexeme)) place =
      { kind := tokens[place].kind, text := tokens[place].text
        line := 1, column := place + 1, length := 2 } := by
  simp [tokenAt, numbered, List.getElem?_eq_getElem inside, Token.lexeme, Lexeme.token]

/-- Every token of a stream is the one of its number, and so is the end. -/
theorem placed_tokenAt (place : Nat) :
    (tokenAt (numbered (tokens.map Token.lexeme)) place).placed tokens = tokenAt tokens place := by
  by_cases inside : place < tokens.length
  · rw [tokenAt_numbered tokens inside, Token.placed, tokenAt_of_lt tokens inside]
    have number : ((place : Int) + 1 - 1).toNat = place := by omega
    rw [number, tokenAt_of_lt tokens inside]
  · have outside := Nat.le_of_not_lt inside
    obtain ⟨file, line, column, stop⟩ := exists_stop tokens
    have number : ((tokens.length : Int) + 1 - 1).toNat = tokens.length := by omega
    rw [tokenAt_of_le tokens outside, tokenAt_of_le, stop_numbered, Token.placed, List.length_map]
    · rw [number, tokenAt_of_le tokens (Nat.le_refl _), stop]
    · rw [length_numbered, List.length_map]
      exact outside

/-- The numbered tokens of a stream, put into place, are the stream. -/
theorem map_placed :
    (numbered (tokens.map Token.lexeme)).map (Token.placed tokens) = tokens := by
  apply List.ext_getElem
  · rw [List.length_map, length_numbered, List.length_map]
  · intro place inside inside'
    rw [List.length_map] at inside
    rw [List.getElem_map, ← tokenAt_of_lt _ inside, placed_tokenAt, tokenAt_of_lt]

/-- A stream is read as its numbered tokens are, with everything in its place. -/
theorem Program.ofTokens_numbered (settings : Settings) :
    ofTokens settings tokens =
      (ofTokens settings (numbered (tokens.map Token.lexeme))).moved (Token.placed tokens)
        (Program.moved (Token.placed tokens)) := by
  have stop : (Cursor.ofTokens ((numbered (tokens.map Token.lexeme)).map (Token.placed tokens))).stop =
      (Cursor.ofTokens (numbered (tokens.map Token.lexeme))).stop.placed tokens := by
    have beyond : (numbered (tokens.map Token.lexeme)).length ≤ tokens.length := by
      rw [length_numbered, List.length_map]
    rw [map_placed, ← tokenAt_of_le _ beyond, placed_tokenAt, tokenAt_of_le tokens (Nat.le_refl _)]
  rw [← ofTokens_moved (Token.keepsSpelling_placed tokens) settings stop, map_placed]

end Numbered

/-! ## Two layouts -/

section Layouts

variable {tokens tokens' : List Token} (same : tokens'.map Token.lexeme = tokens.map Token.lexeme)

include same

/-- Complaints about one numbered token, at its places in the two streams. A numbered token ends where
it starts only if it is the end, and so the ends of the streams do. -/
theorem Diagnostic.alike_of_moves {known one other : Diagnostic}
    (numbers : ∃ place, known.token = tokenAt (numbered (tokens.map Token.lexeme)) place)
    (moves : known.MovesTo (Token.placed tokens) one)
    (moves' : known.MovesTo (Token.placed tokens') other) : one.Alike tokens tokens' other := by
  obtain ⟨place, anchored⟩ := numbers
  have token : one.token = tokenAt tokens place := by
    rw [moves.token, anchored, placed_tokenAt]
  have token' : other.token = tokenAt tokens' place := by
    rw [moves'.token, anchored, ← same, placed_tokenAt]
  have complaint := moves'.complaint.trans moves.complaint.symm
  have ends (meet : known.token.start = known.token.finish) :
      one.token.start = one.token.finish ∧ other.token.start = other.token.finish := by
    have length : tokens'.length = tokens.length := by
      simpa using congrArg List.length same
    by_cases inside : place < tokens.length
    · rw [anchored, tokenAt_numbered tokens inside] at meet
      have columns := congrArg Position.column meet
      simp only [Token.start, Token.finish, Token.firstColumn] at columns
      omega
    · have empty (tokens : List Token) (outside : tokens.length ≤ place) :
          (tokenAt tokens place).start = (tokenAt tokens place).finish := by
        obtain ⟨file, line, column, stop⟩ := exists_stop tokens
        rw [tokenAt_of_le tokens outside, stop]
        rfl
      rw [token, token']
      exact ⟨empty tokens (by omega), empty tokens' (by omega)⟩
  refine ⟨complaint, congrArg Complaint.message complaint, ⟨place, token, token'⟩, ?_⟩
  rcases moves.position with ⟨atStart, position⟩ | ⟨atEnd, position⟩
  · rcases moves'.position with ⟨-, position'⟩ | ⟨atEnd, position'⟩
    · exact .inl ⟨position, position'⟩
    · exact .inl ⟨position, position'.trans (ends (atStart.symm.trans atEnd)).2.symm⟩
  · rcases moves'.position with ⟨atStart, position'⟩ | ⟨-, position'⟩
    · exact .inr ⟨position, position'.trans (ends (atStart.symm.trans atEnd)).2⟩
    · exact .inr ⟨position, position'⟩

/-- All complaints, one by one. -/
theorem Diagnostic.forall₂_alike {known ones others : List Diagnostic}
    (numbers : ∀ diagnostic ∈ known,
      ∃ place, diagnostic.token = tokenAt (numbered (tokens.map Token.lexeme)) place)
    (moves : Typing.ComplaintsMove (Token.placed tokens) known ones)
    (moves' : Typing.ComplaintsMove (Token.placed tokens') known others) :
    List.Forall₂ (Diagnostic.Alike tokens tokens') ones others := by
  induction moves generalizing others with
  | nil =>
    cases moves'
    exact .nil
  | cons first rest inductionHypothesis =>
    cases moves' with
    | cons first' rest' =>
      rw [List.forall_mem_cons] at numbers
      exact .cons (alike_of_moves same numbers.1 first first') (inductionHypothesis numbers.2 rest')

omit same in
/-- What the tokens of a placed program say does not depend on their places. -/
theorem Program.bare_placed (program : Program) :
    (program.moved (Token.placed tokens)).moved Token.bare = program.moved Token.bare := by
  rw [Program.moved_moved, Token.bare_placed]

omit same in
/-- The symbols of a placed program differ in their tokens only. -/
theorem symbols_bare (checker : Checker) (program : Program) :
    (checker.check (program.moved (Token.placed tokens))).2.symbols.map (Symbol.moved Token.bare) =
      (checker.check program).2.symbols.map (Symbol.moved Token.bare) := by
  rw [Typing.symbols_eq_declaredSymbols, Typing.symbols_eq_declaredSymbols,
    Typing.declaredSymbols_moved, List.map_append, List.map_append, List.map_map]
  rfl

/-- What checking finds in a program of numbered tokens, it finds in both streams. -/
theorem Checker.alike_of_numbered {program : Program} {cursor : Cursor} {settings : Settings}
    (read : Program.ofTokens settings (numbered (tokens.map Token.lexeme)) = .ok program cursor)
    (checker : Checker) :
    Checker.Alike tokens tokens' (checker.check (program.moved (Token.placed tokens)))
      (checker.check (program.moved (Token.placed tokens'))) := by
  have anchored := (Analysis.anchored_ofReply settings (numbered (tokens.map Token.lexeme))).diagnostics
  rw [read] at anchored
  have complaints := Typing.diagnostics_check_eq checker { shown := settings.warning } program
  have numbers : ∀ diagnostic ∈ (checker.check program).2.diagnostics,
      ∃ place, diagnostic.token = tokenAt (numbered (tokens.map Token.lexeme)) place :=
    fun diagnostic member => exists_tokenAt _ (anchored diagnostic (by rwa [complaints] at member)).1
  obtain ⟨tree, moves⟩ := Typing.check_moved (Token.placed tokens) checker program
  obtain ⟨tree', moves'⟩ := Typing.check_moved (Token.placed tokens') checker program
  constructor
  case tags => rw [tree, tree', Program.bare_placed, Program.bare_placed]
  case symbols => rw [symbols_bare, symbols_bare]
  case diagnostics => exact Diagnostic.forall₂_alike same numbers moves.diagnostics moves'.diagnostics

end Layouts

/-- Layout does not matter. Streams that say the same are refused at the same place and with the same
message, or they are read as programs that differ in where their tokens stand only. What is then found
in the programs differs in the same way: the tags and the symbols are the same, and so are the
complaints, which come in the same order and at corresponding tokens. Where every character literal has
a character in it there is no other outcome; otherwise reading may crash on a literal without one, and
then it crashes on both streams.

Proof: both outcomes are that of the numbered stream, moved into place. -/
theorem Program.layout_immaterial (settings : Settings) {tokens tokens' : List Token}
    (same : tokens'.map Token.lexeme = tokens.map Token.lexeme) :
    Reply.Alike tokens tokens' (ofTokens settings tokens) (ofTokens settings tokens') ∧
    ((∀ tok ∈ tokens, tok.kind = .character → 2 ≤ tok.text.toList.length) →
      ∀ literal notices, ofTokens settings tokens ≠ .crashed literal notices) := by
  constructor
  · have run := ofTokens_numbered tokens settings
    have run' := ofTokens_numbered tokens' settings
    rw [same] at run'
    cases read : ofTokens settings (numbered (tokens.map Token.lexeme)) with
    | failed fault index notices =>
      rw [read] at run run'
      obtain ⟨inside, token⟩ := blamed_ofTokens run
      obtain ⟨-, token'⟩ := blamed_ofTokens run'
      rw [run, run']
      exact .failed rfl inside token token'
    | ok program cursor =>
      rw [read] at run run'
      rw [run, run']
      refine .ok ?_ (Checker.alike_of_numbered same read)
      rw [Program.bare_placed, Program.bare_placed]
    | crashed literal notices =>
      rw [read] at run run'
      obtain ⟨member, -⟩ := hollow_of_crashed read
      obtain ⟨place, inside, found⟩ := List.getElem_of_mem member
      have stands := found.symm.trans (tokenAt_of_lt _ inside).symm
      rw [length_numbered, List.length_map] at inside
      obtain ⟨-, hollow⟩ := hollow_of_crashed run
      rw [run, run']
      refine .crashed hollow ⟨place, inside, ?_, ?_⟩
      · rw [stands, placed_tokenAt]
      · rw [stands, ← same, placed_tokenAt]
  · intro legible literal notices run
    obtain ⟨member, kind, short⟩ := hollow_of_crashed run
    exact absurd (legible literal member kind) (Nat.not_le_of_lt short)

/-- A program that assigns a character literal of a single quote. -/
def hollowLiteral : List Token := [
  { kind := .programWord, text := "program" }, { kind := .identifier, text := "p" },
  { kind := .colon, text := ":" }, { kind := .beginWord, text := "begin" },
  { kind := .identifier, text := "d" }, { kind := .assign, text := ":=" },
  { kind := .character, text := "'" }, { kind := .endWord, text := "end" },
  { kind := .identifier, text := "p" }, { kind := .dot, text := "." }]

/-- Without a character in it, the literal makes reading crash: the stream is neither read nor
refused. -/
theorem Program.hollow_literal_crashes :
    (∀ program cursor, ofTokens {} hollowLiteral ≠ .ok program cursor) ∧
      ∀ fault index notices, ofTokens {} hollowLiteral ≠ .failed fault index notices := by
  have run : ofTokens {} hollowLiteral = .crashed { kind := .character, text := "'" } [] := rfl
  simp [run]

/-- An assignment to an undeclared variable, on one line. -/
def onOneLine : SourceFile := ⟨"one.wz", "program p: begin x := 'a' end p.".toList⟩

/-- The same assignment on several lines, with a comment. -/
def onManyLines : SourceFile :=
  ⟨"many.wz", "program\n  p:\nbegin \x7bno variables\x7d\n  x\n:='a'\nend p.\n".toList⟩

/-- The two sources say the same in other places, and no literal in them lacks a character. -/
theorem Program.layout_immaterial_lines :
    let tokens := (Scanner.ofSource 0 false onOneLine).tokens
    let tokens' := (Scanner.ofSource 7 false onManyLines).tokens
    tokens'.map Token.lexeme = tokens.map Token.lexeme ∧ tokens' ≠ tokens ∧
      Reply.Alike tokens tokens' (ofTokens {} tokens) (ofTokens {} tokens') ∧
      ∀ literal notices, ofTokens {} tokens ≠ .crashed literal notices := by
  have same : ((Scanner.ofSource 7 false onManyLines).tokens).map Token.lexeme =
      ((Scanner.ofSource 0 false onOneLine).tokens).map Token.lexeme := by decide +kernel
  obtain ⟨alike, sound⟩ := layout_immaterial {} same
  exact ⟨same, by decide +kernel, alike, sound (by decide +kernel)⟩

end WinZig
