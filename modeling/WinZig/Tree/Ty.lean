/-!
# Types

A type tag says what an expression denotes. The empty tag, `Ty.unknown`, is what an expression
carries before it is checked and what it keeps when nothing could be made of it.

A declaration refers to a type by name. Enumerated types are the only ones a program can define,
and their members are integers, so a reference to one resolves to `Ty.integer`.
-/

namespace WinZig

/-- Type tags. -/
inductive Ty where
  /-- No type. -/
  | unknown
  | integer
  | boolean
  | char
  /-- The type of a call that gives nothing back. -/
  | void
  /-- The kind of a reference to an enumerated type; no expression carries it. -/
  | enumeration
  /-- A tag number that stands for nothing here, kept so that different numbers stay different. -/
  | foreign (number : Int)
deriving DecidableEq, Repr, Inhabited

namespace Ty

/-- The tag with a given number. -/
def ofNumber : Int → Ty
  | 0 => unknown
  | 1 => integer
  | 2 => boolean
  | 3 => char
  | 4 => void
  | 5 => enumeration
  | n => foreign n

/-- The name of a tag. The empty tag and tags without a meaning have none. -/
def name : Ty → String
  | integer => "integer"
  | boolean => "boolean"
  | char => "char"
  | void => "void"
  | enumeration => "user"
  | unknown | foreign _ => ""

/-- The predefined types, by name. -/
def predefined? : String → Option Ty
  | "integer" => some integer
  | "boolean" => some boolean
  | "char" => some char
  | _ => none

end Ty

/-- The type named in a declaration. -/
inductive TypeRef where
  /-- A type known by its tag. -/
  | plain (tag : Ty)
  /-- An enumerated type, by name. -/
  | named (name : String)
deriving DecidableEq, Repr, Inhabited

namespace TypeRef

/-- A reference with a given kind; the name matters to enumerated types only. -/
def ofKind (kind : Ty) (name : String) : TypeRef :=
  if kind = .enumeration then named name else plain kind

/-- How a reference is written. -/
def render : TypeRef → String
  | plain tag => tag.name
  | named name => name

/-- The tag of an expression of the referenced type. -/
def resolved : TypeRef → Ty
  | plain tag => tag
  | named _ => .integer

end TypeRef

end WinZig
