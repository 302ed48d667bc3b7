import WinZig.Json.Value
import WinZig.Text.Rule

/-!
# Reading JSON

A text is one value with white space around it. Values nest at most ten thousand deep. An escaped
half of a surrogate pair whose other half is missing stands for the replacement character.
-/

namespace WinZig.Json.Grammar

open Text (Rule Spot)
open Text.Rule (char literal optional many choice)

/-- White space. -/
def space : Rule Unit := do
  let _ ← many (char fun c => c == ' ' || c == '\t' || c == '\n' || c == '\r')

/-- A part of a text: a character, or an escaped code unit of sixteen bits. -/
inductive Piece where
  | char (c : Char)
  | unit (code : Nat)

/-- A hexadecimal digit. -/
def hexDigit : Rule Nat := do
  let c ← char fun c => c.isDigit || ('a' ≤ c && c ≤ 'f') || ('A' ≤ c && c ≤ 'F')
  return if c.isDigit then c.toNat - '0'.toNat else c.toLower.toNat - 'a'.toNat + 10

/-- An escape. -/
def escape : Rule Piece := do
  literal "\\"
  let c ← char fun c => "\"\\/bfnrtu".toList.contains c
  match c with
  | 'b' => return .char '\x08'
  | 'f' => return .char '\x0c'
  | 'n' => return .char '\n'
  | 'r' => return .char '\r'
  | 't' => return .char '\t'
  | 'u' =>
    let first ← hexDigit
    let second ← hexDigit
    let third ← hexDigit
    return .unit (((first * 16 + second) * 16 + third) * 16 + (← hexDigit))
  | c => return .char c

/-- The character of two code units that are the halves of a pair. -/
def pair? (high low : Nat) : Option Char :=
  if 0xD800 ≤ high ∧ high < 0xDC00 ∧ 0xDC00 ≤ low ∧ low < 0xE000 then
    some (Char.ofNat ((high - 0xD800) * 0x400 + (low - 0xDC00) + 0x10000))
  else none

/-- The character of a code unit by itself. -/
def ofUnit (code : Nat) : Char := if code.isValidChar then Char.ofNat code else '\ufffd'

/-- The characters of some parts. -/
def characters : List Piece → List Char
  | [] => []
  | .char c :: rest => c :: characters rest
  | .unit high :: .unit low :: rest =>
    match pair? high low with
    | some c => c :: characters rest
    | none => ofUnit high :: characters (.unit low :: rest)
  | .unit code :: rest => ofUnit code :: characters rest

/-- A text. -/
def text : Rule String := do
  literal "\""
  let pieces ← many <| Rule.orElse
    (do return .char (← char fun c => ' ' ≤ c && c != '"' && c != '\\'))
    escape
  literal "\""
  return String.ofList (characters pieces)

/-- One or more digits. -/
def digits : Rule (List Char) := Rule.oneOrMore (char Char.isDigit)

/-- A number, as it is written. -/
def number : Rule String := do
  let sign ← optional (char (· == '-'))
  let whole ← Rule.orElse
    (do return [← char (· == '0')])
    (do
      let first ← char fun c => '1' ≤ c && c ≤ '9'
      return first :: (← many (char Char.isDigit)))
  let fraction ← optional do
    literal "."
    return '.' :: (← digits)
  let exponent ← optional do
    let mark ← char fun c => c == 'e' || c == 'E'
    let sign ← optional (char fun c => c == '+' || c == '-')
    return mark :: sign.toList ++ (← digits)
  return String.ofList (sign.toList ++ whole ++ fraction.getD [] ++ exponent.getD [])

/-- A value that holds no other. -/
def scalar : Rule Json :=
  choice [
    do literal "null"; return .null,
    do literal "true"; return .boolean true,
    do literal "false"; return .boolean false,
    do return .text (← text),
    do return .number (← number)]

/-- Items with commas between them, or none. -/
def listed {α : Type} (item : Rule α) : Rule (List α) := do
  space
  let items ← optional do
    let first ← item
    let others ← many do
      space
      literal ","
      space
      item
    return first :: others
  space
  return items.getD []

/-- Values between brackets. -/
def array (value : Rule Json) : Rule Json := do
  literal "["
  let items ← listed value
  literal "]"
  return .array items

/-- A name and its value. -/
def field (value : Rule Json) : Rule (String × Json) := do
  let name ← text
  space
  literal ":"
  space
  return (name, ← value)

/-- Fields between braces. -/
def object (value : Rule Json) : Rule Json := do
  literal "\x7b"
  let fields ← listed (field value)
  literal "\x7d"
  return .object fields

/-- A value in which others nest at most `depth` deep. -/
def valueUpTo : (depth : Nat) → Spot → Option (Json × Spot)
  | 0, spot => scalar spot
  | depth + 1, spot => choice [scalar, array (valueUpTo depth), object (valueUpTo depth)] spot

/-- How deep values may nest. -/
def nesting : Nat := 10000

/-- A whole text. -/
def document : Rule Json := do
  space
  let value ← valueUpTo nesting
  space
  Rule.absent (char fun _ => true)
  return value

end WinZig.Json.Grammar

namespace WinZig.Json

/-- Reads a text. -/
def read? (text : List Char) : Option Json := (Grammar.document ⟨text, 1⟩).map Prod.fst

end WinZig.Json
