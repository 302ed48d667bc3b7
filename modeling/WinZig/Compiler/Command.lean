import WinZig.CommandLine.App
import WinZig.Compiler.Session
import WinZig.Settings.Flags
import WinZig.Settings.Load

/-!
# The command

The command reads its flags, then a settings file, then compiles the files it is given. Settings come
in layers: what they start from, the settings file, the flags.

It ends with status 0 if nothing is wrong with the files, 1 if something is, and 2 if the flags or
the settings are at fault or no file is given.
-/

namespace WinZig.Command

/-- The flags of the command itself. -/
def ownFlags : List Flag := [
  { name := "config", shorthand := "c", content := .text "", expects := "file"
    usage := s!"Read settings from <file> (default ./{Settings.defaultFile} when present)." },
  { name := "color", content := .text "", expects := "mode"
    usage := "Colour diagnostics: auto, always or never." },
  { name := "dump-tokens", shorthand := "t", content := .switch false
    usage := "Print the token table of each input." },
  { name := "dump-ast", shorthand := "a", content := .switch false
    usage := "Print the type-annotated AST of each input." },
  { name := "dump-symbols", shorthand := "s", content := .switch false
    usage := "Print the global symbol table of each input." },
  { name := "plain", shorthand := "p", content := .switch false
    usage := "Print diagnostics as bare ':line:col: message' lines on stdout." },
  { name := "verbose", shorthand := "v", content := .switch false
    usage := "Report each compilation stage." }]

/-- The command with its flags. -/
def app : App where
  name := "winzigc"
  synopsis := "[options] <input.wz> ..."
  description := "A front end for the WinZig teaching language. It scans, parses and type checks, " ++
    "and reports every semantic error it can find before giving up."
  authors := ["xplshn"]
  repository := "<https://github.com/xplshn/winzigc>"
  flags := (Settings.addFlags {} { flags := ownFlags }).add App.helpFlag

/-- The first year of the copyright line. -/
def since : Int := 2025

/-- The end of a run. -/
structure Outcome where
  exit : Nat
  output : Output
deriving DecidableEq, Repr

/-- Whether a flag governs a switch of the settings. -/
def isSettingsFlag (name : String) : Bool :=
  match name.toList with
  | 'W' :: _ | 'F' :: _ => true
  | _ => false

/-- The path of the settings file: the one named by a flag, else the default one if there is such a
file. -/
def settingsPath (tree : FileTree) (flags : FlagSet) : Option String :=
  if flags.text "config" ≠ "" then some (flags.text "config")
  else if tree.leadsSomewhere Settings.defaultFile then some Settings.defaultFile
  else none

/-- Settings after the flags of a command line. -/
def applyFlags (settings : Settings) (flags : FlagSet) : Settings :=
  let settings := settings.applyNames ((flags.visited.map Flag.name).filter isSettingsFlag)
  if flags.text "color" = "" then settings else { settings with color := flags.text "color" }

/-- The settings after the settings file, or why there are none. -/
def loadedSettings (decode : FileDecoder) (tree : FileTree) (flags : FlagSet) :
    Except String Settings :=
  match settingsPath tree flags with
  | none => .ok {}
  | some path =>
    match Settings.loadFrom decode {} tree path with
    | (settings, none) => .ok settings
    | (_, some error) => .error s!"config: {error.message path}"

/-- The settings of a run and its colour mode, or why there are none, given how a settings file is
read. -/
def configure (decode : FileDecoder) (tree : FileTree) (flags : FlagSet) :
    Except String (Settings × ColorMode) :=
  match loadedSettings decode tree flags with
  | .error message => .error message
  | .ok loaded =>
    let settings := applyFlags loaded flags
    match ColorMode.ofName? settings.color with
    | some mode => .ok (settings, mode)
    | none => .error (ColorMode.refusal settings.color)

/-- What flags say about printing. A stream that is not a terminal is coloured only if colour is
asked for. -/
def compileOptions (flags : FlagSet) (mode : ColorMode) : CompileOptions where
  tokens := flags.isOn "dump-tokens"
  tree := flags.isOn "dump-ast"
  symbols := flags.isOn "dump-symbols"
  plain := flags.isOn "plain"
  verbose := flags.isOn "verbose"
  colored := mode = .always

/-- An end at which the command line or the settings are at fault. -/
def usageError (colored : Bool) (message : String) : Outcome :=
  ⟨2, .err (Reporter.plainError { colored } message)⟩

/-- Compiles the files a command line names. -/
def action (tree : FileTree) (flags : FlagSet) : Outcome :=
  match configure FileSettings.ofText tree flags with
  | .error message => usageError false message
  | .ok (settings, mode) =>
    let options := compileOptions flags mode
    if flags.args.isEmpty then usageError options.colored "no input files specified."
    else
      let session := Session.compileAll options settings tree flags.args
      let tally := Output.when options.verbose <| .out
        s!"Checked {flags.args.length} file(s), {session.problems} diagnostic(s).\n"
      ⟨if session.failed then 1 else 0, session.output ++ tally⟩

/-- Runs the command. `years` are the years of the copyright line. -/
def run (years : String) (tree : FileTree) (arguments : List String) : Outcome :=
  match app.request arguments with
  | .refused error => ⟨2, .err (app.refusal error)⟩
  | .help => ⟨0, .out (app.helpPage years)⟩
  | .action flags => action tree flags

end WinZig.Command
