import WinZig.Text.Ranges

/-!
# White space

The white space of every script, as it separates the fields of a list of words. Tabs and line ends
are among it; zero-width characters are not.
-/

namespace WinZig.Text

/-- The code points of white space. -/
def whiteSpace : Ranges := [
  (0x9, 0xD), (0x20, 0x20), (0x85, 0x85), (0xA0, 0xA0), (0x1680, 0x1680), (0x2000, 0x200A),
  (0x2028, 0x2029), (0x202F, 0x202F), (0x205F, 0x205F), (0x3000, 0x3000)]

/-- Whether a character is white space. -/
def isSpace (c : Char) : Bool := whiteSpace.contains c.toNat

/-- The words of a text: its longest runs of characters that are not white space. -/
def words (text : List Char) : List (List Char) :=
  (text.splitOnP isSpace).filter fun word => !word.isEmpty

/-- A text without white space at either end. -/
def trim (text : List Char) : List Char :=
  ((text.dropWhile isSpace).reverse.dropWhile isSpace).reverse

/-- The words of a text, as texts. -/
def fields (text : String) : List String := (words text.toList).map String.ofList

/-- A text without white space at either end. -/
def trimmed (text : String) : String := String.ofList (trim text.toList)

end WinZig.Text
