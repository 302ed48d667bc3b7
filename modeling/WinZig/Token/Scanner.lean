import WinZig.Fault
import WinZig.Text.Digit
import WinZig.Text.Letter

/-!
# Scanning

Scanning cuts a source into tokens from left to right. One step recognises a nonempty piece at the
front of the remaining characters, moves the place over the piece, and stamps a token with the
place reached. Recognition looks only at the characters; places are computed from the piece alone.
Layout and comments are pieces like any other, so that the pieces of a source, put end to end, are
the source.

A fault does not stop the steps: the piece it is found in is consumed, and a later step goes on
behind it. `Scanner.tokens` stops at the first fault because a reader of tokens has no use for what
follows it.
-/

namespace WinZig

open Text

/-- A place in a source: the line, and how many characters of it have been passed. -/
structure Place where
  line : Nat := 1
  column : Nat := 0
deriving DecidableEq, Repr, Inhabited

namespace Place

/-- The place behind one more character. -/
def step (place : Place) (c : Char) : Place :=
  if c = '\n' then ⟨place.line + 1, 0⟩ else ⟨place.line, place.column + 1⟩

/-- The place behind some more characters. -/
def advance (place : Place) (piece : List Char) : Place := piece.foldl step place

end Place

/-- A piece at the front of a source: its kind, its characters, what follows it, and what is wrong
with it. -/
structure Piece where
  kind : Kind
  chars : List Char
  rest : List Char
  cause : Option Cause := none
deriving DecidableEq, Repr

namespace Piece

/-- A piece that goes on as long as a property of characters holds. -/
def run (kind : Kind) (front : List Char) (continues : Char → Bool) (rest : List Char) : Piece :=
  { kind, chars := front ++ rest.takeWhile continues, rest := rest.dropWhile continues }

/-- Letters and the underscore start a name. -/
def startsName (c : Char) : Bool := isLetter c || c == '_'

/-- Letters, the underscore and digits continue a name. -/
def continuesName (c : Char) : Bool := startsName c || isDigit c

/-- Blanks within a line. -/
def isBlank (c : Char) : Bool := c == ' ' || c == '\t' || c == '\r'

/-- A name, or a reserved word if it is spelled like one. -/
def word (c : Char) (rest : List Char) : Piece :=
  let piece := run .identifier [c] continuesName rest
  { piece with kind := (Kind.reservedWord? (String.ofList piece.chars)).getD .identifier }

/-- The characters up to the brace that closes a comment, and what follows that brace. `depth` is
the number of closing braces still wanted. -/
def closeComment (nested : Bool) : (depth : Nat) → List Char → Option (List Char × List Char)
  | 0, rest => some ([], rest)
  | _ + 1, [] => none
  | depth + 1, c :: rest =>
    let depth := if c = '}' then depth else if c = '{' && nested then depth + 2 else depth + 1
    (closeComment nested depth rest).map fun (inside, rest) => (c :: inside, rest)

/-- A block comment behind its opening brace. An unclosed one swallows the rest of the source. -/
def comment (nested : Bool) (rest : List Char) : Piece :=
  match closeComment nested 1 rest with
  | some (inside, rest) => { kind := .blockComment, chars := '{' :: inside, rest }
  | none => { kind := .blockComment, chars := '{' :: rest, rest := [], cause := some .openComment }

/-- A character literal behind its opening quote: one character other than a quote, a line end or
NUL, and a closing quote. Anything else is a fault in the opening quote alone. -/
def quoted : List Char → Piece
  | c :: '\'' :: rest =>
    if c ≠ '\'' ∧ c ≠ '\n' ∧ c ≠ '\x00' then
      { kind := .character, chars := ['\'', c, '\''], rest }
    else
      { kind := .unknown, chars := ['\''], rest := c :: '\'' :: rest,
        cause := some .malformedCharacter }
  | rest => { kind := .unknown, chars := ['\''], rest, cause := some .malformedCharacter }

/-- A string literal behind its opening quote. It closes on its own line or not at all. -/
def string (rest : List Char) : Piece :=
  let inside := rest.takeWhile fun c => c != '"' && c != '\n'
  match rest.dropWhile fun c => c != '"' && c != '\n' with
  | '"' :: rest => { kind := .text, chars := '"' :: inside ++ ['"'], rest }
  | rest => { kind := .text, chars := '"' :: inside, rest, cause := some .openText }

/-- The longest mark at the front of a source. -/
def mark? : List Char → Option (Kind × List Char × List Char)
  | ':' :: '=' :: ':' :: rest => some (.swap, [':', '=', ':'], rest)
  | ':' :: '=' :: rest => some (.assign, [':', '='], rest)
  | ':' :: rest => some (.colon, [':'], rest)
  | '.' :: '.' :: rest => some (.dotDot, ['.', '.'], rest)
  | '.' :: rest => some (.dot, ['.'], rest)
  | '<' :: '=' :: rest => some (.lessEqual, ['<', '='], rest)
  | '<' :: '>' :: rest => some (.notEqual, ['<', '>'], rest)
  | '<' :: rest => some (.less, ['<'], rest)
  | '>' :: '=' :: rest => some (.greaterEqual, ['>', '='], rest)
  | '>' :: rest => some (.greater, ['>'], rest)
  | '=' :: rest => some (.equal, ['='], rest)
  | ';' :: rest => some (.semicolon, [';'], rest)
  | ',' :: rest => some (.comma, [','], rest)
  | '(' :: rest => some (.openParen, ['('], rest)
  | ')' :: rest => some (.closeParen, [')'], rest)
  | '+' :: rest => some (.plus, ['+'], rest)
  | '-' :: rest => some (.minus, ['-'], rest)
  | '*' :: rest => some (.star, ['*'], rest)
  | '/' :: rest => some (.slash, ['/'], rest)
  | _ => none

/-- The piece at the front of a source that starts with `c`. -/
def recognise (nested : Bool) (c : Char) (rest : List Char) : Piece :=
  if startsName c then word c rest
  else if c = '#' then run .lineComment ['#'] (· != '\n') rest
  else if c = '{' then comment nested rest
  else if c = '\n' then { kind := .newline, chars := ['\n'], rest }
  else if isBlank c then run .blank [c] isBlank rest
  else if isDigit c then run .integer [c] isDigit rest
  else if c = '\'' then quoted rest
  else if c = '"' then string rest
  else match mark? (c :: rest) with
    | some (kind, chars, rest) => { kind, chars, rest }
    | none => { kind := .unknown, chars := [c], rest, cause := some (.unknownCharacter c) }

end Piece

/-- What one step of scanning gives: a token, and the cause if the token is a fault. -/
structure Scanned where
  token : Token
  cause : Option Cause := none
deriving DecidableEq, Repr

namespace Scanned

/-- The fault of a step, if it is one. -/
def fault? (scanned : Scanned) : Option Fault :=
  scanned.cause.map fun cause => ⟨scanned.token, cause⟩

end Scanned

/-- The state of scanning one source file. -/
structure Scanner where
  /-- Index of the file, stamped on every token. -/
  file : Int := 0
  /-- Whether braces nest inside block comments. -/
  nested : Bool := true
  /-- The characters not yet passed. -/
  rest : List Char
  place : Place := {}
deriving Repr

namespace Scanner

/-- The token for a piece that was passed between two places. A comment over several lines is no
longer than the column it ends in, so that it never starts before its last line; an unclosed comment
is blamed on its opening brace alone. -/
def stamp (file : Int) (before behind : Place) (piece : Piece) : Token :=
  let tok : Token :=
    { kind := piece.kind, text := String.ofList piece.chars, file
      line := behind.line, column := behind.column, length := piece.chars.length }
  if piece.cause = some .openComment then
    { tok with text := "\x7b", line := before.line, column := before.column + 1, length := 1 }
  else if piece.kind = .blockComment then
    { tok with length := min piece.chars.length behind.column }
  else tok

/-- One step: the token at the front of the remaining characters, and the state behind it. At the
end of the source every step gives the same empty token. -/
def next (scanner : Scanner) : Scanned × Scanner :=
  match scanner.rest with
  | [] =>
    ({ token := { file := scanner.file, line := scanner.place.line
                  column := scanner.place.column } }, scanner)
  | c :: rest =>
    let piece := Piece.recognise scanner.nested c rest
    let behind := scanner.place.advance piece.chars
    ({ token := stamp scanner.file scanner.place behind piece, cause := piece.cause },
      { scanner with rest := piece.rest, place := behind })

end Scanner

end WinZig
