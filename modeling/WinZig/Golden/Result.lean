import WinZig.Json.Value

/-!
# Results

A result records how a compiler fared on a source: what it printed, how it ended, and the lines that
report something. The verdict on a file holds the two results that were compared, if there were two.
-/

namespace WinZig.Golden

/-- One run of a command. -/
structure Execution where
  stdout : String := ""
  stderr : String := ""
  exitCode : Int := 0
  /-- How long it took, in nanoseconds. -/
  duration : Int := 0
  timedOut : Bool := false
  /-- Whether another run of the same command printed something else. -/
  unstable : Bool := false
deriving DecidableEq, Repr

/-- How a compiler fared on a source. -/
structure CompileResult where
  source : String := ""
  args : List String := []
  result : Execution := {}
  diagnostics : List String := []
deriving DecidableEq, Repr

/-- Whether a file passed. -/
inductive Status where
  | pass
  | fail
  | skip
  | error
  /-- A status of another name, as a report may hold it. -/
  | other (name : String)
deriving DecidableEq, Repr

namespace Status

/-- The name of a status. -/
def name : Status → String
  | pass => "PASS"
  | fail => "FAIL"
  | skip => "SKIP"
  | error => "ERROR"
  | other name => name

/-- The status of a name. -/
def ofName : String → Status
  | "PASS" => pass
  | "FAIL" => fail
  | "SKIP" => skip
  | "ERROR" => error
  | name => other name

/-- Whether a status means that something is wrong. -/
def isFailure : Status → Bool
  | fail | error => true
  | pass | skip | other _ => false

end Status

/-- The verdict on a file. -/
structure Verdict where
  file : String := ""
  status : Status := .other ""
  message : String := ""
  diff : String := ""
  reference : Option CompileResult := none
  target : Option CompileResult := none
deriving DecidableEq, Repr

/-! ## As JSON -/

/-- A field with a text, unless it is empty. -/
def textField (name text : String) : List (String × Json) :=
  if text = "" then [] else [(name, .text text)]

/-- A field with some texts, unless there are none. -/
def textsField (name : String) (texts : List String) : List (String × Json) :=
  if texts.isEmpty then [] else [(name, .array (texts.map Json.text))]

/-- A run as JSON. -/
def Execution.toJson (execution : Execution) : Json :=
  .object ([
    ("stdout", .text execution.stdout),
    ("stderr", .text execution.stderr),
    ("exitCode", .number (toString execution.exitCode)),
    ("duration", .number (toString execution.duration)),
    ("timed_out", .boolean execution.timedOut)] ++
    if execution.unstable then [("unstable_output", .boolean true)] else [])

/-- A result as JSON. -/
def CompileResult.toJson (result : CompileResult) : Json :=
  .object (
    ("source", .text result.source) :: textsField "args" result.args ++
      ("result", result.result.toJson) :: textsField "diagnostics" result.diagnostics)

/-- A verdict as JSON. -/
def Verdict.toJson (verdict : Verdict) : Json :=
  let side (name : String) (result : Option CompileResult) : List (String × Json) :=
    (result.map fun result => (name, result.toJson)).toList
  .object (
    ("file", .text verdict.file) :: ("status", .text verdict.status.name) ::
      textField "message" verdict.message ++ textField "diff" verdict.diff ++
      side "reference" verdict.reference ++ side "target" verdict.target)

end WinZig.Golden
