import WinZig.Settings.Basic
import WinZig.Text.Quoted
import WinZig.Toml.Reader
import WinZig.Toml.Time
import WinZig.Toml.Tree

/-!
# Settings files

A settings file is a TOML document with a colour mode and two tables of switches, `Warnings` and
`Features`. Nothing else may stand in it. Reading a file gives its listed settings or the reason it
is refused, with the line it is refused at.

Listed settings are applied in a fixed order: the colour mode, then the warnings by name, then the
features by name. The first one that is unknown stops, and what was applied before it stays.
-/

namespace WinZig

/-- What a settings file lists. -/
structure FileSettings where
  /-- The colour mode; empty if none is listed. -/
  color : String := ""
  warnings : List (String × Bool) := []
  features : List (String × Bool) := []
deriving Repr

/-- What a part of a settings file should be. -/
inductive Wanted where
  | text
  | switch
  | switches
deriving DecidableEq, Repr

/-- How a wanted part is called. -/
def Wanted.name : Wanted → String
  | text => "string"
  | switch => "bool"
  | switches => "map[string]bool"

/-- What a part of a settings file is instead. -/
inductive Found where
  | integer
  | float
  | boolean
  | text
  | datetime
  | array
  | table
  | tables
deriving DecidableEq, Repr

/-- How a part is called, and what would be needed to read it as such. -/
def Found.name : Found → String × String
  | integer => ("integer", "")
  | float => ("float", "")
  | boolean => ("boolean", "")
  | text => ("string", "")
  | datetime => ("datetime", "")
  | array => ("array", " (need slice)")
  | table => ("table", " (need struct or map)")
  | tables => ("array table", " (need slice)")

/-- What is wrong with a settings file at a line. -/
inductive FileProblem where
  | refused (refusal : Toml.Refusal)
  | unknownField (name : String)
  | mismatch (found : Found) (wanted : Wanted)
  /-- A date or time does not exist. -/
  | noSuchTime (written : String) (problem : Toml.TimeProblem)
  /-- A float is out of range. -/
  | floatOutOfRange (written : String)
deriving DecidableEq, Repr

/-- How a problem reads. -/
def FileProblem.message : FileProblem → String
  | refused refusal => refusal.message
  | unknownField name => s!"field '{name}' is not defined in config.fileConfig"
  | mismatch found wanted =>
    s!"cannot unmarshal TOML {found.name.1} into {wanted.name}{found.name.2}"
  | noSuchTime written (.outOfRange part) =>
    s!"parsing time {Text.quote written}: {part} out of range"
  | noSuchTime written (.extra text) =>
    s!"parsing time {Text.quote written}: extra text: {Text.quote text}"
  | floatOutOfRange written =>
    s!"strconv.ParseFloat: parsing {Text.quote written}: value out of range"

/-- Why a settings file cannot be used. -/
inductive SettingsError where
  /-- It cannot be opened; the text says why. -/
  | unopened (reason : String)
  /-- It cannot be read; the text says why. -/
  | unread (reason : String)
  | notToml
  /-- Something is wrong at a line, in the field of a name if there is one. -/
  | atLine (line : Nat) (field : Option String) (problem : FileProblem)
  | badColor (color : String)
  | unknownWarning (name : String)
  | unknownFeature (name : String)
deriving DecidableEq, Repr

/-- How an error reads. A text that is no TOML is not blamed on a line. -/
def SettingsError.message (file : String) : SettingsError → String
  | unopened reason => reason
  | unread reason => s!"{file}: {reason}"
  | notToml => s!"{file}, line ?: invalid TOML syntax"
  | atLine line (some field) problem =>
    s!"{file}, line {line}: (config.fileConfig.{field}) {problem.message}"
  | atLine line none problem => s!"{file}, line {line}: {problem.message}"
  | badColor color => s!"{file}: invalid Color '{color}' (want auto, always or never)"
  | unknownWarning name => s!"{file}: unknown warning '{name}'"
  | unknownFeature name => s!"{file}: unknown feature '{name}'"

/-- A way to read the text of a settings file. -/
abbrev FileDecoder := List Char → Except SettingsError FileSettings

namespace FileSettings

/-- What a value is. -/
def kindOf : Toml.Value → Found
  | .integer => .integer
  | .float _ => .float
  | .boolean _ => .boolean
  | .text _ | .malformed _ => .text
  | .datetime _ => .datetime
  | .array _ => .array
  | .inline .. => .table

/-- Why a value is not what is wanted. A time that does not exist and a float that is out of range are
blamed for that first. -/
def mismatch (value : Toml.Value) (wanted : Wanted) : FileProblem :=
  match value with
  | .datetime written =>
    match Toml.datetimeProblem? written with
    | some problem => .noSuchTime written problem
    | none => .mismatch .datetime wanted
  | .float written =>
    if (Toml.Decimal.ofText written.toList).overflows then .floatOutOfRange written
    else .mismatch .float wanted
  | value => .mismatch (kindOf value) wanted

/-- The text a field holds. -/
def readText (field : String) : Toml.Item → Except SettingsError String
  | .value (.text text) _ => .ok text
  | .value value line => .error (.atLine line (some field) (mismatch value .text))
  | .table line _ _ => .error (.atLine line none (.mismatch .table .text))
  | .tables line _ => .error (.atLine line (some field) (.mismatch .tables .text))

/-- The switch a key of a table holds. -/
def readSwitch : Toml.Item → Except SettingsError Bool
  | .value (.boolean on) _ => .ok on
  | .value value line => .error (.atLine line none (mismatch value .switch))
  | .table line _ _ => .error (.atLine line none (.mismatch .table .switch))
  | .tables line _ => .error (.atLine line none (.mismatch .tables .switch))

/-- The switches a field holds. -/
def readSwitches (field : String) : Toml.Item → Except SettingsError (List (String × Bool))
  | .table _ _ fields => fields.mapM fun (name, item) => do return (name, ← readSwitch item)
  | .value value line => .error (.atLine line (some field) (mismatch value .switches))
  | .tables line _ => .error (.atLine line (some field) (.mismatch .tables .switches))

/-- The line of a field. -/
def lineOf : Toml.Item → Nat
  | .value _ line | .table line _ _ | .tables line _ => line

/-- Settings with one more field. -/
def readField (settings : FileSettings) (field : String × Toml.Item) :
    Except SettingsError FileSettings :=
  match field with
  | ("Color", item) => do return { settings with color := ← readText "Color" item }
  | ("Warnings", item) => do return { settings with warnings := ← readSwitches "Warnings" item }
  | ("Features", item) => do return { settings with features := ← readSwitches "Features" item }
  | (name, item) => .error (.atLine (lineOf item) none (.unknownField name))

/-- The settings that a TOML document lists. -/
def ofText : FileDecoder := fun text =>
  match Toml.read? text with
  | none => .error .notToml
  | some statements =>
    match Toml.assemble statements with
    | .error refused => .error (.atLine refused.line none (.refused refused.refusal))
    | .ok fields => fields.foldlM readField {}

end FileSettings

namespace Settings

/-- Names in order. -/
def inOrder (listed : List (String × Bool)) : List (String × Bool) :=
  listed.mergeSort fun first second => decide (first.1 ≤ second.1)

/-- Settings after the listed warnings, up to the first unknown one. -/
def applyWarnings (settings : Settings) :
    List (String × Bool) → Settings × Option SettingsError
  | [] => (settings, none)
  | (name, on) :: rest =>
    match Warning.ofName? name with
    | some warning => (settings.setWarning warning on).applyWarnings rest
    | none => (settings, some (.unknownWarning name))

/-- Settings after the listed features, up to the first unknown one. -/
def applyFeatures (settings : Settings) :
    List (String × Bool) → Settings × Option SettingsError
  | [] => (settings, none)
  | (name, on) :: rest =>
    match Feature.ofName? name with
    | some feature => (settings.setFeature feature on).applyFeatures rest
    | none => (settings, some (.unknownFeature name))

/-- Settings after a settings file. -/
def applyFile (settings : Settings) (file : FileSettings) : Settings × Option SettingsError :=
  if file.color ≠ "" ∧ ColorMode.ofName? file.color = none then
    (settings, some (.badColor file.color))
  else
    let settings := if file.color = "" then settings else { settings with color := file.color }
    match settings.applyWarnings (inOrder file.warnings) with
    | (settings, some error) => (settings, some error)
    | (settings, none) => settings.applyFeatures (inOrder file.features)

/-- Settings after the text of a settings file, given how such a text is read. -/
def load (decode : FileDecoder) (settings : Settings) (text : List Char) :
    Settings × Option SettingsError :=
  match decode text with
  | .ok file => settings.applyFile file
  | .error error => (settings, some error)

end Settings

end WinZig
