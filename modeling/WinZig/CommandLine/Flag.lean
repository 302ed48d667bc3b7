import WinZig.Text.Quoted

/-!
# Flags

A flag has a name, perhaps a shorthand of one character, and a content that arguments change: a
text, a switch, or a list that grows. A flag remembers whether an argument has named it.

A group is a family of switches that share their first letters. Every entry of a group stands for
two flags, one to switch something on and one, with `no-` in its name, to switch it off.
-/

namespace WinZig

/-- Why an argument is refused. -/
inductive ArgumentError where
  /-- Nothing stands between the hyphens and the equals sign. -/
  | emptyName
  /-- No flag has this name; hyphens included. -/
  | unknownFlag (spelling : String)
  | unknownShorthand (shorthand : String)
  /-- The value of the flag should follow, and nothing does; hyphens included. -/
  | missingValue (spelling : String)
  | notBoolean (value : String)
deriving DecidableEq, Repr

/-- How a refusal reads. -/
def ArgumentError.message : ArgumentError → String
  | emptyName => "empty flag name"
  | unknownFlag spelling => s!"unknown flag: {spelling}"
  | unknownShorthand shorthand => s!"unknown shorthand flag: -{shorthand}"
  | missingValue spelling => s!"flag needs an argument: {spelling}"
  | notBoolean value =>
    s!"invalid boolean value '{value}': strconv.ParseBool: parsing {Text.quote value}" ++
      ": invalid syntax"

/-- What a flag holds. -/
inductive Content where
  | text (value : String)
  | switch (on : Bool)
  /-- A list; `none` is a list that was never given. -/
  | list (items : Option (List String))
deriving DecidableEq, Repr

namespace Content

/-- The truth value a word stands for; no word at all stands for true. -/
def truth? : String → Option Bool
  | "" | "1" | "t" | "T" | "TRUE" | "true" | "True" => some true
  | "0" | "f" | "F" | "FALSE" | "false" | "False" => some false
  | _ => none

/-- What a flag holds after it was given a value. -/
def assign (value : String) : Content → Except ArgumentError Content
  | text _ => .ok (text value)
  | switch _ =>
    match truth? value with
    | some on => .ok (switch on)
    | none => .error (.notBoolean value)
  | list items => .ok (list (some (items.getD [] ++ [value])))

/-- How a content is written. -/
def render : Content → String
  | text value => value
  | switch on => toString on
  | list items => String.intercalate ", " (items.getD [])

/-- How a content is written as the default of a flag. -/
def renderDefault : Content → String
  | list items => "[" ++ String.intercalate " " (items.getD []) ++ "]"
  | content => content.render

/-- Whether a content is a switch. -/
def isSwitch : Content → Bool
  | switch _ => true
  | _ => false

end Content

/-- A flag. -/
structure Flag where
  name : String
  /-- The shorthand; empty if there is none. -/
  shorthand : String := ""
  usage : String
  content : Content
  /-- The content before any argument, as text. -/
  initial : String := content.renderDefault
  /-- What the value stands for; empty if nothing is said about it. -/
  expects : String := ""
  /-- Whether an argument has named the flag. -/
  given : Bool := false
deriving Repr

/-- A flag that was named by an argument. -/
def Flag.mark (flag : Flag) : Flag := { flag with given := true }

/-- A flag that was given a value. -/
def Flag.assign (flag : Flag) (value : String) : Except ArgumentError Flag :=
  match flag.content.assign value with
  | .ok content => .ok { flag with content }
  | .error error => .error error

/-- One member of a family of switches. -/
structure GroupEntry where
  name : String
  /-- The letters all members of the family start with. -/
  family : String
  usage : String
  /-- The first content of the flag that switches on; `none` if there is no such flag. -/
  enabling : Option Bool := some false
  /-- The first content of the flag that switches off; `none` if there is no such flag. -/
  disabling : Option Bool := some false
  /-- Whether it is shown as switched on to begin with. -/
  initiallyOn : Bool
deriving Repr

namespace GroupEntry

/-- The name of the flag that switches on. -/
def onName (entry : GroupEntry) : String := entry.family ++ entry.name

/-- The name of the flag that switches off. -/
def offName (entry : GroupEntry) : String := entry.family ++ "no-" ++ entry.name

/-- The flags of an entry. -/
def flags (entry : GroupEntry) : List Flag :=
  let switch (name usage : String) (on : Bool) : Flag := { name, usage, content := .switch on }
  (entry.enabling.map (switch entry.onName entry.usage)).toList ++
    (entry.disabling.map (switch entry.offName s!"Disable '{entry.name}'")).toList

end GroupEntry

/-- A family of switches. -/
structure FlagGroup where
  name : String
  description : String
  /-- What one member is called; empty for `flag`. -/
  kind : String
  /-- The line above the members in the help page; empty for none. -/
  header : String
  entries : List GroupEntry
deriving Repr

end WinZig
