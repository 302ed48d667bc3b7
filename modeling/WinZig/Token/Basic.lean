import WinZig.Token.Kind

/-!
# Tokens

A token is a classified piece of source text. Its line and column are those of the *last* character
of the piece, where scanning stood when the piece was complete; the first column is recovered from
the length. Line, column and length are integers because token streams may be supplied from
elsewhere with positions that no source produces.
-/

namespace WinZig

/-- A classified piece of source text. -/
structure Token where
  kind : Kind := .endOfInput
  /-- The piece of source itself. -/
  text : String := ""
  /-- Index of the source file the token was read from. -/
  file : Int := 0
  line : Int := 0
  /-- Column of the last character. -/
  column : Int := 0
  /-- Number of characters. -/
  length : Int := 0
deriving DecidableEq, Repr, Inhabited

/-- The column of the first character. An empty token starts where it ends. -/
def Token.firstColumn (tok : Token) : Int :=
  if tok.length = 0 then tok.column else tok.column - tok.length + 1

/-- A line and a column, both counted from one. -/
structure Position where
  line : Int
  column : Int
deriving DecidableEq, Repr, Inhabited

/-- A position written as line, colon, column. -/
def Position.render (position : Position) : String := s!"{position.line}:{position.column}"

/-- Where a token starts. -/
def Token.start (tok : Token) : Position := ⟨tok.line, tok.firstColumn⟩

/-- Where a token ends. -/
def Token.finish (tok : Token) : Position := ⟨tok.line, tok.column⟩

end WinZig
