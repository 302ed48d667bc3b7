import WinZig.Fault
import WinZig.Notice

/-!
# Parsers

A parser reads tokens from a cursor. It either gives a value and a cursor further on, or fails at a
token; in both cases the notices raised on the way are kept. There is no backtracking: a choice is
made on the kind of the current token, and in one place on the kind of the token after it.

A token that is of the kind of character literals and has no character between its quotes is neither
accepted nor refused: the parser crashes on it. No scanner gives such a token.

The end of the tokens is itself a token, `Cursor.stop`. It is never consumed. Tokens of kind
`Kind.endOfInput` that stand earlier in a stream are ordinary tokens that no rule consumes.
-/

namespace WinZig

/-- What a parser has read and what it may still read. -/
structure Cursor where
  /-- The tokens not yet read. -/
  rest : List Token
  /-- The token that stands for the end of the stream. -/
  stop : Token
  /-- The token read last. -/
  last : Token := {}
  /-- How many tokens have been read. -/
  index : Nat := 0
  /-- The warnings that are on. -/
  shown : Warning → Bool := Warning.initial
  /-- The notices raised so far, in order. -/
  notices : List Notice := []

namespace Cursor

/-- The token at the cursor. -/
def current (cursor : Cursor) : Token := cursor.rest.headD cursor.stop

/-- The token after the one at the cursor. -/
def following (cursor : Cursor) : Token := cursor.rest.tail.headD cursor.stop

/-- The start of a stream. The end of the stream stands one column behind its last token. -/
def ofTokens (tokens : List Token) (shown : Warning → Bool := Warning.initial) : Cursor where
  rest := tokens
  shown
  stop := match tokens.getLast? with
    | none => { line := 1, column := 1 }
    | some tok => { file := tok.file, line := tok.line, column := tok.column + 1 }

end Cursor

/-- The outcome of a parser. -/
inductive Reply (α : Type) where
  /-- A value, and the cursor behind what it was read from. -/
  | ok (value : α) (cursor : Cursor)
  /-- A fault, the place of the blamed token in the stream, and the notices raised before. -/
  | failed (fault : Fault) (index : Nat) (notices : List Notice)
  /-- A literal without a value, and the notices raised before. Nothing is read any more. -/
  | crashed (literal : Token) (notices : List Notice)

/-- What is said of a crash: the literal has too few characters to have one at place 1. -/
def Token.crashText (literal : Token) : String :=
  s!"runtime error: index out of range [1] with length {literal.text.length}"

/-- A function from a cursor to an outcome. -/
def Parser (α : Type) := Cursor → Reply α

namespace Parser

variable {α β : Type}

/-- One parser after another. -/
def andThen (first : Parser α) (second : α → Parser β) : Parser β := fun cursor =>
  match first cursor with
  | .ok value cursor => second value cursor
  | .failed fault index notices => .failed fault index notices
  | .crashed literal notices => .crashed literal notices

instance : Monad Parser where
  pure value := fun cursor => .ok value cursor
  bind := andThen

/-- The token at the cursor, not consumed. -/
def current : Parser Token := fun cursor => .ok cursor.current cursor

/-- The token after the one at the cursor, not consumed. -/
def following : Parser Token := fun cursor => .ok cursor.following cursor

/-- The token consumed last. -/
def last : Parser Token := fun cursor => .ok cursor.last cursor

/-- Consumes the token at the cursor. -/
def shift : Parser Token := fun cursor =>
  match cursor.rest with
  | [] => .ok cursor.stop cursor
  | tok :: rest => .ok tok { cursor with rest, last := tok, index := cursor.index + 1 }

/-- Fails at the token at the cursor. -/
def fail (cause : Cause) : Parser α := fun cursor =>
  .failed ⟨cursor.current, cause⟩ cursor.index cursor.notices

/-- Fails at the token consumed last. -/
def failLast (cause : Cause) : Parser α := fun cursor =>
  .failed ⟨cursor.last, cause⟩ (cursor.index - 1) cursor.notices

/-- Crashes on a literal without a value. -/
def crash (literal : Token) : Parser α := fun cursor => .crashed literal cursor.notices

/-- Remarks on a token, if the warning for that is on. -/
def note (tok : Token) (remark : Remark) : Parser Unit := fun cursor =>
  .ok () { cursor with notices := cursor.notices ++ Notice.raised cursor.shown tok remark }

/-- Whether the token at the cursor is of a given kind. -/
def check (kind : Kind) : Parser Bool := fun cursor =>
  .ok (decide (cursor.current.kind = kind)) cursor

/-- Consumes the token that fills a slot, and fails on any other. -/
def expect (slot : Slot) : Parser Token := do
  if (← current).kind = slot.kind then shift else fail (.unfilled slot)

/-- Consumes the token at the cursor if it is of a given kind, and says whether it was. -/
def accept (kind : Kind) : Parser Bool := do
  if ← check kind then
    let _ ← shift
    return true
  else
    return false

/-- One or more items with a mark between them, at most `bound` of them. -/
def separatedUpTo (mark : Kind) (item : Parser α) : (bound : Nat) → Parser (List α)
  | 0 => return []
  | bound + 1 => do
    let first ← item
    if ← accept mark then
      return first :: (← separatedUpTo mark item bound)
    else
      return [first]

/-- One or more items with a mark between them. There is a mark for each item but the first, so the
number of remaining tokens bounds the number of items. -/
def separated (mark : Kind) (item : Parser α) : Parser (List α) := fun cursor =>
  separatedUpTo mark item (cursor.rest.length + 1) cursor

/-- Items as long as the current kind admits another, at most `bound` of them. -/
def manyUpTo (more : Kind → Bool) (item : Parser α) : (bound : Nat) → Parser (List α)
  | 0 => return []
  | bound + 1 => do
    if more (← current).kind then
      let first ← item
      return first :: (← manyUpTo more item bound)
    else
      return []

/-- Items as long as the current kind admits another. An item consumes at least one token, so the
number of remaining tokens bounds the number of items. -/
def many (more : Kind → Bool) (item : Parser α) : Parser (List α) := fun cursor =>
  manyUpTo more item (cursor.rest.length + 1) cursor

end Parser

end WinZig
