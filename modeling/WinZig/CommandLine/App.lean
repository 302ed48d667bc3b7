import WinZig.CommandLine.FlagSet
import WinZig.Layout.Wrap

/-!
# Commands

A command is a flag set with texts about it. Its argument list is in error, asks for the help page,
or asks for the action with the positional arguments.

The help page lists the flags outside groups in the order of their names, then every group in the
order of the names of groups: how a member is switched on and off, and the members with their first
state. Texts are wrapped at half the width of the page.
-/

namespace WinZig

/-- A command. The flag `help` is a flag like any other and is expected in the set. -/
structure App where
  name : String
  synopsis : String := ""
  description : String := ""
  authors : List String := []
  repository : String := ""
  flags : FlagSet := {}

namespace App

/-- The flag that asks for the help page. -/
def helpFlag : Flag where
  name := "help"
  shorthand := "h"
  usage := "Display this information"
  content := .switch false

/-- The years of a copyright line: the first year, unless there is none or it is the current one,
and the current year. -/
def copyrightYears (since : Int) (year : String) : String :=
  if since = 0 ∨ toString since = year then year else s!"{since}-{year}"

/-- The width of texts in the help page. -/
def textWidth : Nat := 40

/-- What is printed below a refused argument. -/
def usagePage (app : App) : String :=
  s!"Usage: {app.name} {app.synopsis}\n" ++
    s!"Run '{app.name} --help' for all available options and flags.\n"

/-- How a flag is written in the help page. -/
def flagText (flag : Flag) : String :=
  let shorthand := if flag.shorthand = "" then "" else s!"-{flag.shorthand}, "
  let expects :=
    if flag.content.isSwitch ∨ flag.expects = "" then "" else s!" <{flag.expects}>"
  s!"{shorthand}--{flag.name}{expects}"

/-- How the default of a flag is written in the help page. -/
def defaultText (flag : Flag) : String :=
  if flag.content.isSwitch ∨ flag.initial = "" ∨ flag.initial = "[]" then ""
  else s!"|{flag.initial}|"

/-- Whether a flag belongs to a group. -/
def isGrouped (groups : List FlagGroup) (name : String) : Bool :=
  groups.any fun group => group.entries.any fun entry =>
    name == entry.onName || name == entry.offName

/-- Items in the order of their names. -/
def byName {α : Type} (name : α → String) (items : List α) : List α :=
  items.mergeSort fun first second => decide (name first ≤ name second)

/-- The flags outside groups. -/
def optionsText (set : FlagSet) : String :=
  let options := set.flags.filter fun flag => !isGrouped set.groups flag.name
  if options.isEmpty then "" else
    "\n    Options\n" ++ Layout.spaced textWidth ((byName Flag.name options).map fun flag =>
      [flagText flag, flag.usage, defaultText flag])

/-- A group of flags. -/
def groupText (group : FlagGroup) : String :=
  match group.entries with
  | [] => ""
  | first :: _ =>
    let kind := if group.kind = "" then "flag" else group.kind
    let header := if group.header = "" then "" else s!"    {group.header}\n"
    s!"\n    {group.name}\n" ++
      Layout.spaced textWidth [
        [s!"-{first.family}<{kind}>", s!"Enable a specific {kind}", ""],
        [s!"-{first.family}no-<{kind}>", s!"Disable a specific {kind}", ""]] ++
      header ++
      Layout.spaced textWidth ((byName GroupEntry.name group.entries).map fun entry =>
        [entry.name, entry.usage, if entry.initiallyOn then "|x|" else "|-|"])

/-- The help page. `years` are the years of the copyright line. -/
def helpPage (app : App) (years : String) : String :=
  let authors := String.intercalate ", " app.authors
  let repository :=
    if app.repository = "" then "" else s!"    For more details refer to {app.repository}\n"
  let synopsis :=
    if app.synopsis = "" then "" else s!"\n    Synopsis\n        {app.name} {app.synopsis}\n"
  let description :=
    if app.description = "" then "" else s!"\n    Description\n        {app.description}\n"
  s!"\n    Copyright (c) {years}: {authors} and contributors\n" ++ repository ++ synopsis ++
    description ++ optionsText app.flags ++
    String.join ((byName FlagGroup.name app.flags.groups).map groupText)

/-- What an argument list asks for. -/
inductive Request where
  /-- An argument is refused. -/
  | refused (error : ArgumentError)
  /-- The help page. -/
  | help
  /-- The action, with the flags as they were given. -/
  | action (flags : FlagSet)

/-- What an argument list asks for. -/
def request (app : App) (arguments : List String) : Request :=
  match app.flags.parse arguments with
  | (_, some error) => .refused error
  | (flags, none) => if flags.isOn helpFlag.name then .help else .action flags

/-- What a refused argument prints. -/
def refusal (app : App) (error : ArgumentError) : String := error.message ++ "\n" ++ app.usagePage

end App

end WinZig
