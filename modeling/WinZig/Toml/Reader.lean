import WinZig.Text.Rule
import WinZig.Toml.Document

/-!
# Reading TOML

The grammar is a set of rules with ordered choice.

Within the part that a header opens, entries may share a line; elsewhere each statement stands on a
line of its own. Values nest, and a value is no deeper than the text is long, which bounds the
recursion.
-/

namespace WinZig.Toml

open Text (Rule)
open Text.Rule (char literal optional many choice)

/-! ## Blanks, line ends and comments -/

/-- Blanks on a line. -/
def blanks : Rule Unit := do
  let _ ← many (char fun c => c == ' ' || c == '\t')

/-- Blanks and line ends. -/
def space : Rule Unit := do
  let _ ← many (char fun c => c == ' ' || c == '\t' || Rule.isLineEnd c)

/-- One or more line ends. -/
def newline : Rule (List Char) := Rule.oneOrMore (char Rule.isLineEnd)

/-- Whether a character may stand in a comment or between single quotes. -/
def isPlain (c : Char) : Bool := c == '\t' || ' ' ≤ c

/-- A comment. -/
def comment : Rule Unit := do
  literal "#"
  let _ ← many (char isPlain)

/-- What may follow a statement on its line. -/
def lineTail : Rule Unit := do
  blanks
  let _ ← optional comment

/-! ## Texts -/

/-- A part of a text between double quotes. -/
inductive Piece where
  | char (c : Char)
  /-- A line end in a text of several lines. -/
  | lineEnd (c : Char)
  /-- An escape that stands for no character. -/
  | malformed
deriving DecidableEq

/-- The character of a part. -/
def Piece.char? : Piece → Option Char
  | char c | lineEnd c => some c
  | malformed => none

/-- Whether a part is a line end. -/
def Piece.isLineEnd : Piece → Bool
  | lineEnd _ => true
  | _ => false

/-- A hexadecimal digit. -/
def hexDigit : Rule Nat := do
  let c ← char fun c => c.isDigit || ('a' ≤ c && c ≤ 'f') || ('A' ≤ c && c ≤ 'F')
  return if c.isDigit then c.toNat - '0'.toNat else c.toLower.toNat - 'a'.toNat + 10

/-- Some hexadecimal digits. -/
def hexNumber : (digits : Nat) → (value : Nat) → Rule Nat
  | 0, value => return value
  | digits + 1, value => do hexNumber digits (16 * value + (← hexDigit))

/-- The character with a given code point. -/
def ofCodePoint (code : Nat) : Piece :=
  if h : code.isValidChar then .char (Char.ofNatAux code h) else .malformed

/-- An escape. A slash may be escaped and stands for nothing then. -/
def escape : Rule Piece := do
  literal "\\"
  let c ← char fun c => "btnfr\"/\\uU".toList.contains c
  match c with
  | 'b' => return .char '\x08'
  | 't' => return .char '\t'
  | 'n' => return .char '\n'
  | 'f' => return .char '\x0c'
  | 'r' => return .char '\r'
  | '/' => return .malformed
  | 'u' => return ofCodePoint (← hexNumber 4 0)
  | 'U' => return ofCodePoint (← hexNumber 8 0)
  | c => return .char c

/-- A character between double quotes. -/
def basicChar : Rule Piece :=
  Rule.orElse
    (do return .char (← char fun c => ' ' ≤ c && c != '"' && c != '\\'))
    escape

/-- The text of some parts, unless one of them stands for nothing. -/
def textOfPieces (pieces : List Piece) : Option String :=
  (pieces.mapM Piece.char?).map String.ofList

/-- The value of some parts. -/
def valueOfPieces (pieces : List Piece) : Rule Value := do
  match textOfPieces pieces with
  | some text => return .text text
  | none => return .malformed (← Rule.line)

/-- A text between double quotes. -/
def basicText : Rule Value := do
  literal "\""
  let pieces ← many basicChar
  literal "\""
  valueOfPieces pieces

/-- The parts of a text of several lines. A backslash at the end of a line joins the lines and drops
the blanks between them. -/
def basicLines : Rule (List Piece) := do
  let parts ← many <| choice [
    do return [← basicChar],
    do return (← newline).map Piece.lineEnd,
    do
      literal "\\"
      let _ ← newline
      space
      return []]
  return parts.flatten

/-- A text of several lines between triple double quotes. Line ends at its start do not count. -/
def longBasicText : Rule Value := do
  literal "\"\"\""
  let pieces ← basicLines
  literal "\"\"\""
  valueOfPieces (pieces.dropWhile Piece.isLineEnd)

/-- A text between single quotes, in which nothing is escaped. -/
def literalText : Rule Value := do
  literal "'"
  let characters ← many (char fun c => isPlain c && c != '\x27')
  literal "'"
  return .text (String.ofList characters)

/-- A text of several lines between triple single quotes. -/
def longLiteralText : Rule Value := do
  literal "'''"
  let characters ← many do
    Rule.absent (literal "'''")
    char fun c => isPlain c || Rule.isLineEnd c
  literal "'''"
  return .text (String.ofList (characters.dropWhile Rule.isLineEnd))

/-! ## Numbers, truth values and times -/

/-- A decimal digit. -/
def digit : Rule Char := char Char.isDigit

/-- Digits after the first; an underscore may stand before each. -/
def moreDigits : Rule (List Char) := many do
  let _ ← optional (literal "_")
  digit

/-- An optional sign. -/
def sign : Rule (Option Char) := optional (char fun c => c == '-' || c == '+')

/-- An integer; only zero itself starts with a zero. -/
def integer : Rule Unit := do
  let _ ← sign
  Rule.orElse
    (do
      let _ ← char fun c => '1' ≤ c && c ≤ '9'
      let _ ← Rule.oneOrMore do
        let _ ← optional (literal "_")
        digit)
    (do let _ ← digit)

/-- The digits behind a decimal point. -/
def fraction : Rule Unit := do
  literal "."
  let _ ← digit
  let _ ← moreDigits

/-- An exponent. -/
def exponent : Rule Unit := do
  let _ ← char fun c => c == 'e' || c == 'E'
  let _ ← sign
  let _ ← digit
  let _ ← moreDigits

/-- A number with a fraction, an exponent or both, without its underscores. -/
def float : Rule String := do
  let (_, written) ← Rule.withText do
    integer
    Rule.orElse
      (do
        fraction
        let _ ← optional exponent)
      exponent
  return String.ofList (written.toList.filter (· != '_'))

/-- A truth value. -/
def boolean : Rule Bool :=
  Rule.orElse (do literal "true"; return true) (do literal "false"; return false)

/-- Some digits. -/
def digits : (count : Nat) → Rule (List Char)
  | 0 => return []
  | count + 1 => do
    let first ← digit
    return first :: (← digits count)

/-- A year, a month and a day. -/
def date : Rule (List Char) := do
  let year ← digits 4
  literal "-"
  let month ← digits 2
  literal "-"
  let day ← digits 2
  return year ++ '-' :: month ++ '-' :: day

/-- A time of day. -/
def time : Rule (List Char) := do
  let hour ← digits 2
  literal ":"
  let minute ← digits 2
  literal ":"
  let second ← digits 2
  let fraction ← optional do
    literal "."
    Rule.oneOrMore digit
  let fraction := (fraction.map ('.' :: ·)).getD []
  return hour ++ ':' :: minute ++ ':' :: second ++ fraction

/-- An offset from universal time. -/
def offset : Rule (List Char) :=
  Rule.orElse
    (do literal "Z"; return ['Z'])
    (do
      let sign ← char fun c => c == '-' || c == '+'
      let hour ← digits 2
      literal ":"
      let minute ← digits 2
      return sign :: hour ++ ':' :: minute)

/-- A date with or without a time, or a time. Only a time after a date may have an offset. -/
def datetime : Rule String := do
  let written ← Rule.orElse
    (do
      let date ← date
      let time ← optional do
        literal "T"
        let time ← time
        return 'T' :: time ++ (← optional offset).getD []
      return date ++ time.getD [])
    time
  return String.ofList written

/-! ## Entries, tables and values -/

/-- A key. Between quotes it may be empty. -/
def key : Rule Name := do
  let line ← Rule.line
  Rule.orElse
    (do
      let characters ← Rule.oneOrMore (char fun c => c.isAlphanum || c == '-' || c == '_')
      return ⟨some (String.ofList characters), line⟩)
    (do
      literal "\""
      let pieces ← many basicChar
      literal "\""
      return ⟨textOfPieces pieces, line⟩)

/-- A key and its value. -/
def entry (value : Rule Value) : Rule (Entry Value) := do
  let key ← key
  blanks
  literal "="
  blanks
  let value ← value
  return ⟨key, value, ← Rule.line⟩

/-- A table between braces. Commas separate entries and may be missing. -/
def inlineTable (value : Rule Value) : Rule Value := do
  let line ← Rule.line
  literal "\x7b"
  blanks
  let entries ← many do
    let entry ← entry value
    let _ ← optional do
      blanks
      literal ","
      blanks
    return entry
  blanks
  literal "\x7d"
  return .inline line entries

/-- Blanks and line ends, perhaps with one comment among them. -/
def remark : Rule Unit := do
  space
  let _ ← optional comment
  space

/-- Values with commas between them, and perhaps one after the last. A comment may stand before and
after each comma between two values, and at the end. -/
def items (value : Rule Value) : Rule (List Value) := do
  let first ← value
  let others ← many do
    remark
    literal ","
    remark
    value
  space
  let _ ← optional (literal ",")
  remark
  return first :: others

/-- Values between brackets. -/
def array (value : Rule Value) : Rule Value := do
  literal "["
  space
  let items ← optional (items value)
  space
  literal "]"
  return .array (items.getD [])

/-- A value that nests less than `depth` deep. -/
def valueUpTo : (depth : Nat) → Text.Spot → Option (Value × Text.Spot)
  | 0, _ => none
  | depth + 1, spot =>
    choice [
      do return .datetime (← datetime),
      do return .float (← float),
      do integer; return .integer,
      longLiteralText, literalText, longBasicText, basicText,
      do return .boolean (← boolean),
      array (valueUpTo depth),
      inlineTable (valueUpTo depth)] spot

/-- A value. -/
def value : Rule Value := fun spot => valueUpTo (spot.rest.length + 1) spot

/-- The keys of a path, with points between them. -/
def path : Rule (List Name) := do
  let first ← key
  let others ← many do
    blanks
    literal "."
    blanks
    key
  return first :: others

/-- The header of a table. -/
def tableHeader : Rule Statement := do
  literal "["
  blanks
  let (path, written) ← Rule.withText path
  blanks
  literal "]"
  return .table path written (← Rule.line)

/-- The header of a further table of a list. -/
def memberHeader : Rule Statement := do
  literal "[["
  blanks
  let (path, written) ← Rule.withText path
  blanks
  literal "]]"
  return .member path written (← Rule.line)

/-- A header and the entries directly below it. -/
def part : Rule (List Statement) := do
  blanks
  let header ← Rule.orElse tableHeader memberHeader
  lineTail
  let entries ← many do
    space
    let entry ← entry value
    lineTail
    return Statement.entry entry
  return header :: entries

/-- The statements of a line, or of a part. -/
def expression : Rule (List Statement) :=
  choice [
    part,
    do
      blanks
      let entry ← entry value
      lineTail
      return [.entry entry],
    do lineTail; return []]

/-- A whole document. -/
def document : Rule (List Statement) := do
  let first ← expression
  let others ← many do
    let _ ← newline
    expression
  let _ ← optional newline
  Rule.absent (char fun _ => true)
  return first ++ others.flatten

/-- Reads a document. -/
def read? (text : List Char) : Option (List Statement) := (document ⟨text, 1⟩).map Prod.fst

end WinZig.Toml
