import WinZig.Proofs.Parsing.Exactness
import WinZig.Proofs.Typing.Programs
import WinZig.Token.Stream

/-!
# Checking is exact

Whatever is read from a source, checking it is silent exactly if it is well typed, and then every
expression carries the one type it has.
-/

namespace WinZig.Typing

open Checker

variable {settings : Settings} {scanner : Scanner} {program : Program} {cursor : Cursor}

/-- Checking is sound and complete for the type system, and what it writes is what the type system
says: it changes nothing but tags, and in a well typed program the tag of every expression is its
type.

Proof: a program that was read has the shape that the checker relies on. The state of checking before
each body is a scope that declares what the body sees, so silence about the body is its validity. -/
theorem check_exact (settings : Settings) (scanner : Scanner) (checker : Checker)
    {program : Program} {cursor : Cursor}
    (run : Program.ofTokens settings scanner.tokens = .ok program cursor) :
    ((checker.check program).2.diagnostics = [] ↔ ProgramIsValid program) ∧
      (checker.check program).1.untagged = program ∧
      (ProgramIsValid program →
        (∀ before function behind, program.functions = before ++ function :: behind →
          ∃ checked, (checker.check program).1.functions[before.length]? = some checked ∧
            TagsExact (functionContext program before function) checked.body) ∧
        TagsExact (programContext program) (checker.check program).1.body) := by
  have shape := Program.shape_of_read (fun tok _ => Shape.Lexicon.free_admits tok) run
  refine ⟨check_eq_nil checker shape, check_untagged checker shape, fun valid => ?_⟩
  exact ⟨check_functions_tagsExact checker shape valid, check_body_tagsExact checker shape valid⟩

/-- Whether a source is read, and checked without a complaint. -/
def isSilent (settings : Settings) (scanner : Scanner) : Bool :=
  match Program.ofTokens settings scanner.tokens with
  | .ok program _ => (check {} program).2.diagnostics.isEmpty
  | .failed .. | .crashed .. => false

/-- A source that is silent is read and checked without a complaint. -/
theorem exists_of_isSilent (silent : isSilent settings scanner = true) :
    ∃ program cursor, Program.ofTokens settings scanner.tokens = .ok program cursor ∧
      (check {} program).2.diagnostics = [] := by
  unfold isSilent at silent
  cases run : Program.ofTokens settings scanner.tokens with
  | ok program cursor =>
    rw [run] at silent
    exact ⟨program, cursor, rfl, List.isEmpty_iff.mp silent⟩
  | failed | crashed =>
    rw [run] at silent
    exact absurd silent Bool.false_ne_true

/-- A function that is used in a place where its type matters. -/
def letters : Scanner where
  rest := "program p: function f(n: integer): char;
begin return (chr(n)) end f; begin d := ord(f(1)) end p.".toList

/-- The program is read, nothing is wrong with it, and every tag in its body is exact. -/
theorem check_exact_letters :
    ∃ program cursor, Program.ofTokens { feature := fun _ => true } letters.tokens = .ok program cursor ∧
      ProgramIsValid program ∧
      TagsExact (programContext program) (Checker.check {} program).1.body := by
  have silent : isSilent { feature := fun _ => true } letters = true := by cbv
  obtain ⟨program, cursor, run, none⟩ := exists_of_isSilent silent
  obtain ⟨sound, -, tags⟩ := check_exact { feature := fun _ => true } letters {} run
  have valid : ProgramIsValid program := sound.mp none
  exact ⟨program, cursor, run, valid, (tags valid).2⟩

end WinZig.Typing
