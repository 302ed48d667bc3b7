/-!
# TOML documents

A document is a sequence of statements: entries that give a key a value, and headers that say which
table the entries after them belong to. Every part remembers its line. A line is counted at every
carriage return and at every line feed.

Integers are kept by their kind only, for nothing here asks for their value. Of a float it matters
whether it is in range.
-/

namespace WinZig.Toml

/-- A key. Its text is absent when an escape in it stands for no character. -/
structure Name where
  text : Option String
  line : Nat
deriving DecidableEq, Repr

/-- A key with its value, at the line where the value ends. -/
structure Entry (α : Type) where
  key : Name
  value : α
  line : Nat
deriving Repr

/-- Values. -/
inductive Value where
  | integer
  /-- A float as it is written, but for underscores. -/
  | float (written : String)
  | boolean (value : Bool)
  | text (value : String)
  /-- A text with an escape that stands for no character. -/
  | malformed (line : Nat)
  | datetime (written : String)
  | array (items : List Value)
  /-- A table between braces, and the line it starts on. -/
  | inline (line : Nat) (entries : List (Entry Value))
deriving Repr

/-- Statements. -/
inductive Statement where
  | entry (entry : Entry Value)
  /-- The entries that follow belong to the table at a path, which is also kept as written. -/
  | table (path : List Name) (written : String) (line : Nat)
  /-- The entries that follow belong to a further table of the list at a path. -/
  | member (path : List Name) (written : String) (line : Nat)
deriving Repr

end WinZig.Toml
