/-!
# Lines that report something

A line reports something if it does not start with a blank or a tab and somewhere in it stands a
location: a colon, a line number, a colon, a column number, a colon and a blank. Echoed source lines
and markers start with blanks.
-/

namespace WinZig.Golden

/-- What follows one or more digits. -/
def afterDigits? (text : List Char) : Option (List Char) :=
  match text with
  | c :: _ => if c.isDigit then some (text.dropWhile Char.isDigit) else none
  | [] => none

/-- Whether a text starts with a location. -/
def startsWithLocation : List Char → Bool
  | ':' :: rest =>
    match afterDigits? rest with
    | some (':' :: rest) =>
      match afterDigits? rest with
      | some (':' :: ' ' :: _) => true
      | _ => false
    | _ => false
  | _ => false

/-- Whether a location stands somewhere in a text. -/
def holdsLocation : List Char → Bool
  | [] => false
  | c :: rest => startsWithLocation (c :: rest) || holdsLocation rest

/-- Whether a line reports something. -/
def isReport (line : List Char) : Bool :=
  match line with
  | ' ' :: _ | '\t' :: _ => false
  | line => holdsLocation line

/-- The lines of a text. -/
def lines (text : String) : List String := (text.toList.splitOn '\n').map String.ofList

/-- The lines of an output that report something. -/
def reports (output : String) : List String :=
  (lines output).filter fun line => isReport line.toList

end WinZig.Golden
