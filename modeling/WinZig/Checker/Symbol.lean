import WinZig.Tree.Program

/-!
# Symbols and scopes

A symbol is a name with a meaning. Functions and variables live in separate name spaces: a look-up
asks for one that can be called or for one that cannot, and the other kind is invisible to it.

A scope holds the symbols visible at a point, most recent first: those of the function around the
point, then those of the program. A name declared again hides its earlier meaning.
-/

namespace WinZig

/-- What a symbol stands for. -/
inductive Role where
  | var
  | parameter
  /-- A member of an enumerated type. -/
  | member
  | function
  /-- A predefined procedure that takes any arguments. -/
  | builtin
deriving DecidableEq, Repr

namespace Role

/-- The role with a given number. -/
def ofNumber : Int → Role
  | 1 => parameter
  | 2 => member
  | 3 => function
  | 4 => builtin
  | _ => var

/-- How a role is called in listings. -/
def name : Role → String
  | var => "var"
  | parameter => "param"
  | member => "member"
  | function => "function"
  | builtin => "builtin"

/-- Whether a symbol of this role can be called. -/
def isCallable : Role → Bool
  | function | builtin => true
  | var | parameter | member => false

end Role

/-- A name with a meaning. -/
structure Symbol where
  name : String
  role : Role
  /-- The tag of the variable, or of a call of the function. -/
  type : Ty
  /-- The type as it was declared. -/
  decl : TypeRef := .plain .unknown
  /-- The tags of the parameters of a function. -/
  params : List Ty := []
  tok : Token := {}
deriving DecidableEq, Repr

namespace Symbol

/-- A variable or parameter. -/
def ofVariable (role : Role) (declared : Variable) : Symbol where
  name := declared.name
  role
  type := declared.type.resolved
  decl := declared.type
  tok := declared.tok

/-- The members of an enumerated type, in order. -/
def membersOf (definition : TypeDef) : List Symbol :=
  definition.values.map fun name =>
    { name, role := .member, type := .integer, decl := .named definition.name
      tok := definition.tok }

/-- A function, as its callers see it. -/
def ofFunction (function : Function) : Symbol where
  name := function.name
  role := .function
  type := function.result.resolved
  decl := function.result
  params := function.params.map fun param => param.type.resolved
  tok := function.tok

/-- The name of a function, as a variable inside its own body. -/
def ownVariable (function : Function) : Symbol where
  name := function.name
  role := .var
  type := function.result.resolved
  decl := function.result
  tok := function.tok

/-- The symbols there are before any declaration: the variable for values that are not wanted, and
the two procedures. -/
def predefined : List Symbol := [
  { name := "d", role := .var, type := .integer, decl := .plain .integer },
  { name := "read", role := .builtin, type := .void },
  { name := "output", role := .builtin, type := .void }]

end Symbol

/-- The function around a point, as far as its return statements are concerned. -/
structure Owner where
  name : String
  result : Ty
deriving DecidableEq, Repr

/-- What is visible at a point. -/
structure Scope where
  /-- The symbols of the program, most recent first. -/
  globals : List Symbol := Symbol.predefined.reverse
  /-- The symbols of the function around the point, most recent first. -/
  locals : List Symbol := []
  owner : Option Owner := none
deriving Repr

namespace Scope

/-- Whether a symbol has a given name and can, or cannot, be called. -/
def isNamed (callable : Bool) (name : String) (sym : Symbol) : Bool :=
  sym.name == name && sym.role.isCallable == callable

/-- The meaning of a name: the most recent in the function, else the most recent in the program. -/
def find? (scope : Scope) (callable : Bool) (name : String) : Option Symbol :=
  (scope.locals ++ scope.globals).find? (isNamed callable name)

/-- The meaning of the name of a variable. -/
def findVariable? (scope : Scope) (name : String) : Option Symbol := scope.find? false name

/-- The meaning of the name of a function. -/
def findFunction? (scope : Scope) (name : String) : Option Symbol := scope.find? true name

/-- A further symbol of the program. -/
def addGlobal (scope : Scope) (sym : Symbol) : Scope :=
  { scope with globals := sym :: scope.globals }

/-- A further symbol of the function around the point. -/
def addLocal (scope : Scope) (sym : Symbol) : Scope :=
  { scope with locals := sym :: scope.locals }

/-- The scope inside a function, where its own name is the first local. -/
def enter (scope : Scope) (function : Function) : Scope :=
  { scope with
    locals := [Symbol.ownVariable function]
    owner := some ⟨function.name, function.result.resolved⟩ }

/-- The scope behind a function. -/
def leave (scope : Scope) : Scope := { scope with locals := [], owner := none }

end Scope

end WinZig
