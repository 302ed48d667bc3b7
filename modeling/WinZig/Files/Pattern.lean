import WinZig.Text.Cut
import WinZig.Text.Utf8

/-!
# Patterns of names

A pattern is a sequence of chunks, each perhaps with a star before it. A chunk is a sequence of
single-character elements: a character, any character but a slash, or a class of characters. A
backslash takes the meaning from the character behind it.

Names are matched as bytes, for a star skips bytes. A chunk is matched at the first place where it
fits, and the search never comes back to an earlier chunk. The last chunk must reach the end of the
name. A malformed chunk is noticed when a match comes to it, so a name that fails earlier does not
match and nothing more is said.
-/

namespace WinZig.Files

/-- What matches one character. -/
inductive Element where
  | char (c : Char)
  | any
  | class (negated : Bool) (ranges : List (Char × Char))
deriving Repr

/-- Elements, perhaps after a star. There are none to tell if the chunk is malformed. -/
structure Chunk where
  star : Bool
  elements : Option (List Element)
deriving Repr

namespace Pattern

/-- The characters up to the next star outside a class, and what follows them. -/
def span (inClass : Bool) : List Char → List Char × List Char
  | [] => ([], [])
  | '\\' :: c :: rest =>
    let (taken, left) := span inClass rest
    ('\\' :: c :: taken, left)
  | c :: rest =>
    if c = '*' ∧ !inClass then ([], c :: rest) else
    let inClass := if c = '[' then true else if c = ']' then false else inClass
    let (taken, left) := span inClass rest
    (c :: taken, left)

/-- The character at the front of a class, and what follows it. Something must follow it. -/
def classChar? : List Char → Option (Char × List Char)
  | '-' :: _ | ']' :: _ => none
  | '\\' :: c :: d :: rest => some (c, d :: rest)
  | '\\' :: _ => none
  | c :: d :: rest => some (c, d :: rest)
  | _ => none

/-- The ranges of a class up to its closing bracket, at most `bound` of them, and what follows. -/
def ranges? (bound : Nat) (first : Bool) (text : List Char) :
    Option (List (Char × Char) × List Char) :=
  match bound with
  | 0 => none
  | bound + 1 =>
    match text, first with
    | ']' :: rest, false => some ([], rest)
    | text, _ => do
      let (low, rest) ← classChar? text
      let (high, rest) ← match rest with
        | '-' :: rest => classChar? rest
        | rest => some (low, rest)
      let (others, rest) ← ranges? bound false rest
      return ((low, high) :: others, rest)

/-- The elements of a chunk, at most `bound` of them; none if the chunk is malformed. -/
def elements? (bound : Nat) (text : List Char) : Option (List Element) :=
  match bound with
  | 0 => some []
  | bound + 1 =>
    match text with
    | [] => some []
    | '[' :: rest => do
      let (negated, rest) := match rest with
        | '^' :: rest => (true, rest)
        | rest => (false, rest)
      let (ranges, rest) ← ranges? (rest.length + 1) true rest
      return .class negated ranges :: (← elements? bound rest)
    | '?' :: rest => do return .any :: (← elements? bound rest)
    | ['\\'] => none
    | '\\' :: c :: rest | c :: rest => do return .char c :: (← elements? bound rest)

/-- The chunks of a pattern, at most `bound` of them. -/
def chunks (bound : Nat) (pattern : List Char) : List Chunk :=
  match bound with
  | 0 => []
  | bound + 1 =>
    if pattern.isEmpty then [] else
    let body := pattern.dropWhile (· == '*')
    let (taken, left) := span false body
    ⟨decide (body.length < pattern.length), elements? taken.length taken⟩ :: chunks bound left

/-- The chunks of a pattern. -/
def ofText (pattern : String) : List Chunk := chunks pattern.toList.length pattern.toList

/-- What an element leaves of a name. A byte that is no character counts as the replacement
character. -/
def matchElement : Element → List UInt8 → Option (List UInt8)
  | _, [] => none
  | .char c, name =>
    let bytes := (String.ofList [c]).toUTF8.toList
    if bytes.isPrefixOf name then some (name.drop bytes.length) else none
  | .any, byte :: rest =>
    if byte = '/'.toUInt8 then none
    else match Text.charAt? (byte :: rest) with
      | some (_, length) => some (rest.drop length)
      | none => some rest
  | .class negated ranges, byte :: rest =>
    let (c, length) := (Text.charAt? (byte :: rest)).getD (Text.replacement, 0)
    let inside := ranges.any fun (low, high) => low ≤ c && c ≤ high
    if inside != negated then some (rest.drop length) else none

/-- What some elements leave of a name. -/
def matchElements : List Element → List UInt8 → Option (List UInt8)
  | [], name => some name
  | element :: rest, name =>
    match matchElement element name with
    | some left => matchElements rest left
    | none => none

/-- What a chunk leaves of a name at the first place where it fits. After a star it may start
further on, but not behind a slash. The last chunk must leave nothing. -/
def place (elements : List Element) (star isLast : Bool) : List UInt8 → Option (List UInt8)
  | [] =>
    match matchElements elements [] with
    | some left => if isLast && !left.isEmpty then none else some left
    | none => none
  | byte :: rest =>
    let further := if star && byte != '/'.toUInt8 then place elements star isLast rest else none
    match matchElements elements (byte :: rest) with
    | some left => if isLast && !left.isEmpty then further else some left
    | none => further

/-- Whether a name matches some chunks; none if the match comes to a malformed one. -/
def matches? : List Chunk → List UInt8 → Option Bool
  | [], name => some name.isEmpty
  | ⟨_, none⟩ :: _, _ => none
  | ⟨true, some []⟩ :: _, name => some (!name.contains '/'.toUInt8)
  | ⟨star, some elements⟩ :: rest, name =>
    match place elements star rest.isEmpty name with
    | some left => matches? rest left
    | none => some false

/-- Whether a character has a meaning of its own in a pattern. -/
def isSpecial (c : Char) : Bool := c == '*' || c == '?' || c == '[' || c == '\\'

end Pattern

end WinZig.Files
