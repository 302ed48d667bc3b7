import WinZig.Text.Printable

/-!
# Quoted texts

A text between double quotes, in which the quote, the backslash and every character that is not
printable are escaped: by a letter where there is one, else by the code point in hexadecimal with
two, four or eight digits.
-/

namespace WinZig.Text

/-- A number in lower-case hexadecimal, with leading zeros up to a number of digits. -/
def hexadecimal (digits number : Nat) : List Char :=
  let shown := Nat.toDigits 16 number
  List.replicate (digits - shown.length) '0' ++ shown

/-- A character inside a quoted text. -/
def escapeChar (c : Char) : List Char :=
  if c = '"' then ['\\', '"']
  else if c = '\\' then ['\\', '\\']
  else if isPrintable c then [c]
  else match c with
    | '\x07' => ['\\', 'a']
    | '\x08' => ['\\', 'b']
    | '\x0c' => ['\\', 'f']
    | '\n' => ['\\', 'n']
    | '\r' => ['\\', 'r']
    | '\t' => ['\\', 't']
    | '\x0b' => ['\\', 'v']
    | _ =>
      if c.toNat < 0x20 ∨ c.toNat = 0x7F then '\\' :: 'x' :: hexadecimal 2 c.toNat
      else if c.toNat < 0x10000 then '\\' :: 'u' :: hexadecimal 4 c.toNat
      else '\\' :: 'U' :: hexadecimal 8 c.toNat

/-- A text between double quotes. -/
def quote (text : String) : String :=
  String.ofList ('"' :: text.toList.flatMap escapeChar ++ ['"'])

end WinZig.Text
