import WinZig.Checker.Symbol
import WinZig.Layout.Box
import WinZig.Report

/-!
# Tables of tokens and symbols
-/

namespace WinZig.Listing

/-- The tokens of a source, one on a row. -/
def tokens (file : SourceFile) (toks : List Token) : String :=
  s!"{file.name}: {toks.length} tokens, xxhash {Digest.hex16 file.digest}\n" ++
    Layout.boxed ["#", "POS", "KIND", "LEXEME"]
      (toks.mapIdx fun index tok => [toString index, tok.start.render, tok.kind.name, tok.text])

/-- The type of a symbol: the name of an enumerated type if it was declared with one. -/
def typeName (sym : Symbol) : String :=
  match sym.decl with
  | .named name => name
  | .plain _ => sym.type.name

/-- Where a symbol was declared; predefined symbols were not. -/
def declaredAt (sym : Symbol) : String :=
  if 0 < sym.tok.line then sym.tok.start.render else "-"

/-- The symbols of a program, one on a row. -/
def symbols (syms : List Symbol) : String :=
  Layout.boxed ["NAME", "KIND", "TYPE", "PARAMS", "DECLARED"] (syms.map fun sym =>
    [sym.name, sym.role.name, typeName sym, String.intercalate ", " (sym.params.map Ty.name),
      declaredAt sym])

end WinZig.Listing
