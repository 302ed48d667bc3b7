import WinZig.Tree.Node

/-!
# Programs

A program declares enumerated types, variables and functions, and has a body. A function declares
parameters, enumerated types and variables of its own, and has a body. Every declaration is
anchored at the token of its name, and says where it is visible.
-/

namespace WinZig

/-- Where a declaration is visible. -/
inductive Visibility where
  | everywhere
  | withinFunction
deriving DecidableEq, Repr, Inhabited

/-- How a visibility is called in listings. -/
def Visibility.name : Visibility → String
  | everywhere => "global"
  | withinFunction => "local"

/-- The visibility with a given number. -/
def Visibility.ofNumber (n : Int) : Visibility := if n = 1 then withinFunction else everywhere

/-- A declared variable or parameter. -/
structure Variable where
  name : String
  type : TypeRef
  tok : Token
  visibility : Visibility
deriving DecidableEq, Repr, Inhabited

/-- A declared enumerated type. Members are numbered in the order of their declaration. -/
structure TypeDef where
  name : String
  values : List String
  tok : Token
  visibility : Visibility
deriving DecidableEq, Repr, Inhabited

/-- The number of a member: the place of the first member of that name. -/
def TypeDef.ordinal? (definition : TypeDef) (name : String) : Option Nat :=
  definition.values.findIdx? (· == name)

/-- A declared function. -/
structure Function where
  name : String
  result : TypeRef
  params : List Variable := []
  types : List TypeDef := []
  locals : List Variable := []
  body : List Node := []
  tok : Token
deriving Repr, Inhabited

/-- A whole program. -/
structure Program where
  name : String
  /-- The name after the last `end`. -/
  endName : String
  types : List TypeDef := []
  vars : List Variable := []
  functions : List Function := []
  body : List Node := []
  tok : Token
deriving Repr, Inhabited

end WinZig
