import WinZig.Checker.Program
import WinZig.Parser.Program
import WinZig.Settings.Basic
import WinZig.Token.Stream

/-!
# Analysis of a source

A source is scanned, then parsed, then checked, and each step is taken only if the one before it
found nothing at fault. Notices are raised on the way.
-/

namespace WinZig

/-- How far the analysis of a source came. -/
inductive Analysis where
  /-- The source could not be scanned; the tokens are those before the fault. -/
  | unscanned (tokens : List Token) (fault : Fault)
  /-- The tokens could not be parsed. -/
  | unparsed (tokens : List Token) (fault : Fault) (notices : List Notice)
  /-- The parser crashed on a literal without a value. No source leads here. -/
  | crashed (tokens : List Token) (literal : Token) (notices : List Notice)
  /-- The program was checked; the notices are those of the parser. -/
  | checked (tokens : List Token) (program : Program) (notices : List Notice) (checker : Checker)

namespace Analysis

/-- The analysis of a source with a given index. -/
def ofSource (settings : Settings) (index : Int) (content : List Char) : Analysis :=
  let scanner : Scanner :=
    { file := index, nested := settings.feature .nestedComments, rest := content }
  match scanner.fault? with
  | some fault => .unscanned scanner.tokens fault
  | none =>
    match Program.ofTokens settings scanner.tokens with
    | .failed fault _ notices => .unparsed scanner.tokens fault notices
    | .crashed literal notices => .crashed scanner.tokens literal notices
    | .ok program cursor =>
      let (program, checker) := Checker.check { shown := settings.warning } program
      .checked scanner.tokens program cursor.notices checker

/-- The fault of a source. -/
def fault? : Analysis → Option Fault
  | unscanned _ fault | unparsed _ fault _ => some fault
  | crashed .. | checked .. => none

/-- The notices of a source, those of the parser before those of the checker. -/
def notices : Analysis → List Notice
  | unscanned .. => []
  | unparsed _ _ notices | crashed _ _ notices => notices
  | checked _ _ notices checker => notices ++ checker.notices

/-- The diagnostics of a source. -/
def diagnostics : Analysis → List Diagnostic
  | unscanned .. | unparsed .. | crashed .. => []
  | checked _ _ _ checker => checker.diagnostics

/-- Whether nothing is wrong with a source. -/
def isClean : Analysis → Bool
  | unscanned .. | unparsed .. | crashed .. => false
  | checked _ _ _ checker => checker.diagnostics.isEmpty

end Analysis

end WinZig
