import WinZig.Proofs.Parsing.Completeness.Program
import WinZig.Proofs.Parsing.Shape
import WinZig.Proofs.Parsing.Wording

/-!
# Reading programs is exact

A stream of tokens is read as a program if and only if the grammar derives that program from it.
Where it is not, the fault is exact as well: what precedes the blamed token can be completed to a
program, and nothing behind it has any influence on the fault.
-/

namespace WinZig

/-- The token at a place of a stream. Behind the last token stands the end. -/
def tokenAt (tokens : List Token) (place : Nat) : Token :=
  tokens[place]?.getD (Cursor.ofTokens tokens).stop

namespace Program

open Grammar WinZig.Parser

variable {settings : Settings} {tokens : List Token}

/-- The start of a stream is ready to be read. -/
theorem ofTokens_ready (tokens : List Token) (shown : Warning → Bool) :
    (Cursor.ofTokens tokens shown).Ready (tokens.length + 1) :=
  ⟨ofTokens_stops tokens shown, Nat.lt_succ_self _⟩

/-- A derived program is read. -/
theorem ofTokens_of_derived {result : Program}
    (derived : ProgramText settings.feature tokens result) :
    ∃ cursor, ofTokens settings tokens = .ok result cursor := by
  have accepted : Accepts (tokens.length + 1) (program settings.feature) (· = .endOfInput) tokens
      result := program_accepts derived
  obtain ⟨behind, run, -, -⟩ :=
    accepted (.ofTokens tokens settings.warning) [] (List.append_nil tokens).symm
      (ofTokens_stops tokens _) (Nat.lt_succ_self _)
  exact ⟨behind, run⟩

/-- A program is read from a derivation of it, which ends where the stream ends: it has no more
tokens, or the next one stands for the end, and none before it does. -/
theorem derived_of_read {result : Program} {cursor : Cursor}
    (run : ofTokens settings tokens = .ok result cursor) :
    ∃ read, tokens = read ++ cursor.rest ∧ ProgramText settings.feature read result ∧
      (∀ tok ∈ read, tok.kind ≠ .endOfInput) ∧
      ∀ tok ∈ cursor.rest.head?, tok.kind = .endOfInput := by
  have parses : Parses (tokens.length + 1) 0 (program settings.feature) (program settings.feature)
      (complete settings.feature) (ProgramText settings.feature) := program_parses
  obtain ⟨read, past, ⟨derived, atEnd⟩, -⟩ := parses.accepts (ofTokens_ready tokens _) trivial run
  obtain ⟨read', past', real⟩ := real_of_read run
  obtain rfl : read' = read := List.append_cancel_right (past'.rest.symm.trans past.rest)
  refine ⟨read', past.rest, derived, real, fun tok first => ?_⟩
  rw [Cursor.current, List.headD_eq_head?_getD, first] at atEnd
  exact atEnd

/-- A program that is read has the shape of trees as they are read, and its leaves hold what a lexicon
admits of the stream. -/
theorem shape_of_read {lexicon : Shape.Lexicon} (admitted : ∀ tok ∈ tokens, lexicon.Admits tok)
    {result : Program} {cursor : Cursor} (run : ofTokens settings tokens = .ok result cursor) :
    Shape.IsProgram lexicon result := by
  obtain ⟨read, whole, derived, -, -⟩ := derived_of_read run
  refine Shape.program_shape derived fun tok member => admitted tok ?_
  rw [whole]
  exact List.mem_append_left _ member

/-- A whole stream is read if only its end stands for the end. -/
theorem derived_of_ofTokens (real : ∀ tok ∈ tokens, tok.kind ≠ .endOfInput)
    {result : Program} {cursor : Cursor} (run : ofTokens settings tokens = .ok result cursor) :
    ProgramText settings.feature tokens result := by
  obtain ⟨read, whole, derived, -, atEnd⟩ := derived_of_read run
  cases rest : cursor.rest with
  | nil =>
    rw [rest, List.append_nil] at whole
    exact whole ▸ derived
  | cons tok others =>
    have member : tok ∈ tokens := by simp [whole, rest]
    exact absurd (atEnd tok (by simp [rest])) (real tok member)

/-- Reading accepts exactly the programs of the grammar, and fails on every other stream.

Proof: a run that succeeds is followed from the parsers to the grammar, a derivation from the grammar
to the parsers. Every run ends in one of the two ways, for it crashes only on a character literal
without a character. So a run fails exactly if nothing is derived. -/
theorem ofTokens_exact (settings : Settings) (tokens : List Token)
    (real : ∀ tok ∈ tokens, tok.kind ≠ .endOfInput)
    (legible : ∀ tok ∈ tokens, tok.kind = .character → 2 ≤ tok.text.toList.length) :
    (∀ result, (∃ cursor, ofTokens settings tokens = .ok result cursor) ↔
      ProgramText settings.feature tokens result) ∧
    ((∃ fault index notices, ofTokens settings tokens = .failed fault index notices) ↔
      ∀ result, ¬ ProgramText settings.feature tokens result) := by
  have accepted (result : Program) : (∃ cursor, ofTokens settings tokens = .ok result cursor) ↔
      ProgramText settings.feature tokens result := by
    constructor
    · rintro ⟨cursor, run⟩
      exact derived_of_ofTokens real run
    · exact ofTokens_of_derived
  refine ⟨accepted, ?_⟩
  constructor
  · rintro ⟨fault, index, notices, fails⟩ result derived
    obtain ⟨cursor, run⟩ := ofTokens_of_derived derived
    exact nomatch run.symm.trans fails
  · intro none
    cases run : ofTokens settings tokens with
    | ok result cursor => exact absurd ((accepted result).mp ⟨cursor, run⟩) (none result)
    | failed fault index notices => exact ⟨fault, index, notices, rfl⟩
    | crashed literal notices =>
      obtain ⟨member, kind, short⟩ := hollow_of_crashed run
      exact absurd (legible literal member kind) (Nat.not_le_of_lt short)

/-- The tokens of `program p: begin if a then if b then x := 'c' else x := 1 end p.`, without their
places. -/
def danglingElse : List Token := [
  { kind := .programWord }, { kind := .identifier, text := "p" }, { kind := .colon },
  { kind := .beginWord }, { kind := .ifWord }, { kind := .identifier, text := "a" },
  { kind := .thenWord }, { kind := .ifWord }, { kind := .identifier, text := "b" },
  { kind := .thenWord }, { kind := .identifier, text := "x" }, { kind := .assign },
  { kind := .character, text := "'c'" }, { kind := .elseWord },
  { kind := .identifier, text := "x" }, { kind := .assign }, { kind := .integer, text := "1" },
  { kind := .endWord }, { kind := .identifier, text := "p" }, { kind := .dot }]

/-- The `else` belongs to the inner conditional. -/
theorem ofTokens_exact_danglingElse :
    (∀ tok ∈ danglingElse, tok.kind ≠ .endOfInput) ∧
    (∀ tok ∈ danglingElse, tok.kind = .character → 2 ≤ tok.text.toList.length) ∧
    ProgramText (({} : Settings).feature) danglingElse
      { name := "p", endName := "p", tok := { kind := .identifier, text := "p" },
        body := [.conditional { kind := .ifWord }
          (.name { kind := .identifier, text := "a" } .unknown "a")
          [.conditional { kind := .ifWord }
            (.name { kind := .identifier, text := "b" } .unknown "b")
            [.assign { kind := .assign } (.name { kind := .identifier, text := "x" } .unknown "x")
              (.character { kind := .character, text := "'c'" } .unknown 'c')]
            [.assign { kind := .assign } (.name { kind := .identifier, text := "x" } .unknown "x")
              (.integer { kind := .integer, text := "1" } .unknown 1)]] []] } := by
  have real : ∀ tok ∈ danglingElse, tok.kind ≠ .endOfInput := by decide
  have legible : ∀ tok ∈ danglingElse, tok.kind = .character → 2 ≤ tok.text.toList.length := by
    decide
  refine ⟨real, legible, ((ofTokens_exact {} danglingElse real legible).1 _).mp ?_⟩
  exact ⟨{ rest := [], stop := { column := 1 }, last := { kind := .dot }, index := 20 }, by cbv⟩

/-- What a fault says of the stream: it is cut right before the blamed token. -/
theorem refused_ofTokens (limit : Nat) {fault : Fault} {index : Nat} {notices : List Notice}
    (fails : ofTokens settings tokens = .failed fault index notices) :
    ∃ rest, tokens = tokens.take index ++ rest ∧ (tokens.take index).length = index ∧
      fault.token = rest.headD (Cursor.ofTokens tokens).stop ∧
      (∃ more result, ProgramText settings.feature (tokens.take index ++ more) result) ∧
      ∀ {tok tail}, rest = tok :: tail → ∀ tail' stop',
        (tokens.take index ++ tok :: tail').length < limit →
        program settings.feature ((Cursor.ofTokens tokens settings.warning).onto
          (tokens.take index ++ tok :: tail') stop') = .failed fault index notices := by
  have parses : Parses (tokens.length + 1) limit (program settings.feature)
      (program settings.feature) (complete settings.feature) (ProgramText settings.feature) :=
    program_parses
  obtain ⟨read, rest, ahead, place, blamed, viable, again⟩ :=
    parses.refuses (ofTokens_ready tokens _) trivial fails
  have whole : tokens = read ++ rest := ahead
  have length : index = read.length := place.trans (Nat.zero_add _)
  have cut : tokens.take index = read := by rw [whole, length, List.take_left]
  rw [cut]
  exact ⟨rest, whole, length.symm, blamed, viable, again⟩

/-- The blamed token stands at the reported place. -/
theorem blamed_ofTokens {fault : Fault} {index : Nat} {notices : List Notice}
    (fails : ofTokens settings tokens = .failed fault index notices) :
    index ≤ tokens.length ∧ fault.token = tokenAt tokens index := by
  obtain ⟨rest, whole, length, blamed, -, -⟩ := refused_ofTokens 0 fails
  have lengths : tokens.length = index + rest.length := by
    rw [← length, ← List.length_append, ← whole]
  have atIndex : tokens[index]? = rest.head? := by
    rw [← List.head?_drop, whole, List.drop_left' length]
  refine ⟨by omega, ?_⟩
  rw [blamed, tokenAt, atIndex, List.headD_eq_head?_getD]

/-- The first fault is exact and local: the blamed token stands at the reported place, what precedes
it can be completed to a program, and every stream that agrees up to the blamed token fails alike.

Proof: the parsers have read what precedes the blamed token as the start of a derivation, and a
derived stream is read. The run on the other stream takes the same steps, as no step looks beyond
the blamed token. -/
theorem first_fault_exact (settings : Settings) (tokens : List Token) {fault : Fault} {index : Nat}
    {notices : List Notice} (fails : ofTokens settings tokens = .failed fault index notices) :
    index ≤ tokens.length ∧ fault.token = (tokens[index]?).getD (Cursor.ofTokens tokens).stop ∧
    (∃ more result cursor, ofTokens settings (tokens.take index ++ more) = .ok result cursor) ∧
    (index < tokens.length → ∀ other, tokens.take (index + 1) <+: other →
      ofTokens settings other = .failed fault index notices) := by
  obtain ⟨within, blamed⟩ := blamed_ofTokens fails
  refine ⟨within, blamed, ?_, fun inside other agrees => ?_⟩
  · obtain ⟨rest, -, -, -, ⟨more, result, derived⟩, -⟩ := refused_ofTokens 0 fails
    obtain ⟨cursor, run⟩ := ofTokens_of_derived derived
    exact ⟨more, result, cursor, run⟩
  · obtain ⟨rest, whole, length, -, -, again⟩ := refused_ofTokens (other.length + 1) fails
    cases rest with
    | nil =>
      rw [List.append_nil] at whole
      rw [← whole] at length
      omega
    | cons tok tail =>
      have there : tokens[index]? = some tok := by
        rw [← List.head?_drop, whole, List.drop_left' length, List.head?_cons]
      have first : tokens.take (index + 1) = tokens.take index ++ [tok] := by
        rw [List.take_add_one, there, Option.toList_some]
      obtain ⟨tail', rfl⟩ := agrees
      rw [first, List.append_assoc] at again ⊢
      exact again rfl tail' (Cursor.ofTokens _ settings.warning).stop (by simp)

/-- An `else` in place of the value that is assigned is blamed, whatever follows it. -/
theorem first_fault_exact_danglingElse :
    ofTokens {} (danglingElse.take 12 ++ [{ kind := .elseWord }]) =
      .failed ⟨{ kind := .elseWord }, .noExpression⟩ 12 [] ∧
    ∀ tail, ofTokens {} (danglingElse.take 12 ++ { kind := .elseWord } :: tail) =
      .failed ⟨{ kind := .elseWord }, .noExpression⟩ 12 [] := by
  have fails : ofTokens {} (danglingElse.take 12 ++ [{ kind := .elseWord }]) =
      .failed ⟨{ kind := .elseWord }, .noExpression⟩ 12 [] := by cbv
  refine ⟨fails, fun tail => ?_⟩
  have agree := (first_fault_exact _ _ fails).2.2.2 (by decide)
  exact agree _ ⟨tail, rfl⟩

end Program

end WinZig
