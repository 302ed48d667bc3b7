/-!
# Switches

Two families of switches govern the front end. A *feature* admits a construct of the language; a
*warning* decides whether a remark about an accepted construct is shown. Every switch has a number,
its place in the listing of its family, a name by which the command line and settings files call
it, a one-line description, and a value it starts from.
-/

namespace WinZig

/-- Constructs of the language that can be switched off. -/
inductive Feature where
  /-- Braces nest inside block comments. -/
  | nestedComments
  /-- The conversions between characters and integers may be used. -/
  | ordinalFunctions
  /-- The end-of-file literal may stand in an expression. -/
  | endOfFileLiteral
deriving DecidableEq, Repr

namespace Feature

/-- All features, in the order of their numbers. -/
def all : List Feature := [nestedComments, ordinalFunctions, endOfFileLiteral]

/-- The name of a feature on the command line and in settings files. -/
def name : Feature → String
  | nestedComments => "nested-comments"
  | ordinalFunctions => "ordinal-funcs"
  | endOfFileLiteral => "eof-literal"

/-- What a feature admits. -/
def description : Feature → String
  | nestedComments => "Count nested '\x7b' '\x7d' pairs inside block comments."
  | ordinalFunctions => "Allow the 'chr' and 'ord' prefix conversions."
  | endOfFileLiteral => "Accept 'eof' as a boolean literal in expressions."

/-- Every feature is on to begin with. -/
def initial : Feature → Bool := fun _ => true

/-- The feature with a given name. -/
def ofName? (name : String) : Option Feature := all.find? (fun feature => feature.name == name)

end Feature

/-- Remarks about accepted programs that can be shown or held back. -/
inductive Warning where
  /-- The name after the last `end` is not the name of the program. -/
  | programName
  /-- An integer literal does not fit in 32 bits. -/
  | overflow
  /-- A bound of a case range is not a literal. -/
  | caseRange
  /-- A local name hides a global variable. -/
  | shadow
  /-- Remarks that fit nowhere else. -/
  | extra
deriving DecidableEq, Repr

namespace Warning

/-- All warnings, in the order of their numbers. -/
def all : List Warning := [programName, overflow, caseRange, shadow, extra]

/-- The name of a warning on the command line and in settings files. -/
def name : Warning → String
  | programName => "program-name"
  | overflow => "overflow"
  | caseRange => "case-range"
  | shadow => "shadow"
  | extra => "extra"

/-- What a warning remarks on. -/
def description : Warning → String
  | programName => "Warn when the name after the final 'end' differs from the program name."
  | overflow => "Warn when an integer literal does not fit in 32 bits."
  | caseRange => "Warn on case ranges whose bounds are not literals."
  | shadow => "Warn when a local variable or parameter hides a global."
  | extra => "Enable extra miscellaneous warnings."

/-- Which warnings are on to begin with. -/
def initial : Warning → Bool
  | programName | overflow | extra => true
  | caseRange | shadow => false

/-- The warning with a given name. -/
def ofName? (name : String) : Option Warning := all.find? (fun warning => warning.name == name)

end Warning

end WinZig
