import WinZig.Json.Value
import WinZig.Text.Quoted

/-!
# Writing JSON

Values are written over several lines, with two blanks for each level. Quotes, backslashes and
controls are escaped, and so are the characters that mean something in a page of markup and the two
separators of lines and paragraphs.
-/

namespace WinZig.Json

/-- A character inside a text. -/
def escapeChar (c : Char) : List Char :=
  match c with
  | '"' => ['\\', '"']
  | '\\' => ['\\', '\\']
  | '\x08' => ['\\', 'b']
  | '\x0c' => ['\\', 'f']
  | '\n' => ['\\', 'n']
  | '\r' => ['\\', 'r']
  | '\t' => ['\\', 't']
  | c =>
    if c < ' ' ∨ c = '<' ∨ c = '>' ∨ c = '&' ∨ c = '\u2028' ∨ c = '\u2029' then
      '\\' :: 'u' :: Text.hexadecimal 4 c.toNat
    else [c]

/-- A text between quotes. -/
def quote (text : String) : String :=
  String.ofList ('"' :: text.toList.flatMap escapeChar ++ ['"'])

/-- The blanks of a level. -/
def indent (level : Nat) : String := String.ofList (List.replicate (2 * level) ' ')

mutual

/-- A value at a level. -/
def render (level : Nat) : Json → String
  | null => "null"
  | boolean value => toString value
  | number written => written
  | text value => quote value
  | array [] => "[]"
  | array (first :: rest) =>
    "[\n" ++ indent (level + 1) ++ render (level + 1) first ++ renderItems (level + 1) rest ++
      "\n" ++ indent level ++ "]"
  | object [] => "\x7b\x7d"
  | object ((name, value) :: rest) =>
    "\x7b\n" ++ indent (level + 1) ++ quote name ++ ": " ++ render (level + 1) value ++
      renderFields (level + 1) rest ++ "\n" ++ indent level ++ "\x7d"

/-- Further items of an array. -/
def renderItems (level : Nat) : List Json → String
  | [] => ""
  | item :: rest => ",\n" ++ indent level ++ render level item ++ renderItems level rest

/-- Further fields of an object. -/
def renderFields (level : Nat) : List (String × Json) → String
  | [] => ""
  | (name, value) :: rest =>
    ",\n" ++ indent level ++ quote name ++ ": " ++ render level value ++ renderFields level rest

end

/-- The text of a value. -/
def write (value : Json) : String := value.render 0

end WinZig.Json
