import WinZig.Digest
import WinZig.Fault
import WinZig.Notice
import WinZig.Settings.Basic
import WinZig.Text.Cut

/-!
# Reports

A report is a line that says what is wrong where, followed by the source line it is about and a
marker under the blamed columns. The source line and the marker are left out when the place does
not exist in a known source.

Padding before the marker copies tabs of the source line, so that the marker stays under its column
however wide tabs are shown.
-/

namespace WinZig

/-- A source file: its name and its characters. -/
structure SourceFile where
  name : String
  content : List Char
deriving Repr

namespace SourceFile

/-- The digest of the content. -/
def digest (file : SourceFile) : UInt64 := Digest.ofText (String.ofList file.content)

/-- A line of the source, counted from one. -/
def line? (file : SourceFile) (number : Int) : Option (List Char) :=
  if number ≤ 0 then none else (file.content.splitOn '\n')[number.toNat - 1]?

end SourceFile

/-- Styles of coloured text. -/
inductive Style where
  | error
  | warning
  | marker

/-- The parameters of the escape sequence that starts a style. -/
def Style.parameters : Style → String
  | error => "31;1"
  | warning => "33;1"
  | marker => "32"

/-- Where and how reports are written: the known sources, by index, and whether text is
coloured. -/
structure Reporter where
  files : List SourceFile := []
  colored : Bool := false

namespace Reporter

/-- A text in a style. -/
def styled (reporter : Reporter) (style : Style) (text : String) : String :=
  if reporter.colored then s!"\x1b[{style.parameters}m{text}\x1b[0m" else text

/-- The source a token was read from. -/
def file? (reporter : Reporter) (index : Int) : Option SourceFile :=
  if index < 0 then none else reporter.files[index.toNat]?

/-- The characters before a column, each as a tab or a blank. -/
def padding (line : List Char) (column : Int) : List Char :=
  (line.take (column - 1).toNat).map fun c => if c = '\t' then '\t' else ' '

/-- A marker under `length` columns, and under one if there are none. -/
def marker (length : Int) : List Char := '^' :: List.replicate (length - 1).toNat '~'

/-- A line of a source and the marker below it; nothing if there is no such place. -/
def excerpt (reporter : Reporter) (file line column length : Int) : String :=
  if column ≤ 0 then "" else
  match (reporter.file? file).bind (·.line? line) with
  | none => ""
  | some text =>
    let shown := String.ofList (Text.dropEndWhile (· == '\r') text)
    let pad := String.ofList (padding text column)
    let mark := reporter.styled .marker (String.ofList (marker length))
    s!"  {shown}\n  {pad}{mark}\n"

/-- A report on a token at a given place. -/
def report (reporter : Reporter) (style : Style) (label : String) (tok : Token) (place : Position)
    (message suffix : String) : String :=
  let name := ((reporter.file? tok.file).map SourceFile.name).getD ""
  let label := reporter.styled style label
  s!"{name}:{place.render}: {label} {message}{suffix}\n" ++
    reporter.excerpt tok.file place.line place.column tok.length

/-- An error on a token at a given place. -/
def error (reporter : Reporter) (tok : Token) (place : Position) (message : String) : String :=
  reporter.report .error "error:" tok place message ""

/-- An error without a place. -/
def plainError (reporter : Reporter) (message : String) : String :=
  let label := reporter.styled .error "error:"
  s!"winzigc: {label} {message}\n"

/-- A fault in a source. -/
def fault (reporter : Reporter) (fault : Fault) : String :=
  reporter.error fault.token fault.token.start fault.message

/-- A warning on a token. -/
def warning (reporter : Reporter) (warning : Warning) (tok : Token) (message : String) : String :=
  reporter.report .warning "warning:" tok tok.start message s!" [-W{warning.name}]"

/-- A warning on a token; nothing if the warning is switched off. -/
def warn (reporter : Reporter) (shown : Warning → Bool) (warning : Warning) (tok : Token)
    (message : String) : String :=
  if shown warning then reporter.warning warning tok message else ""

/-- The report of a notice. -/
def notice (reporter : Reporter) (notice : Notice) : String :=
  reporter.warning notice.remark.warning notice.token notice.remark.message

/-- The reports of some notices, in order. -/
def notices (reporter : Reporter) (notices : List Notice) : String :=
  String.join (notices.map reporter.notice)

/-- The report of an error that ends the program, and the exit status: an error without a line is a
usage error. -/
def fatal (reporter : Reporter) (tok : Token) (message : String) : String × Nat :=
  if tok.line = 0 then (reporter.plainError message, 2)
  else (reporter.error tok tok.start message, 1)

end Reporter

end WinZig
