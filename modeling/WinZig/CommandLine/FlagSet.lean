import WinZig.CommandLine.Flag
import WinZig.Text.Cut

/-!
# Flag sets

A flag set is a list of flags of different names. It reads an argument list: arguments that start
with a hyphen name flags, a flag that is not a switch takes a value, and all else is kept as
positional. Two hyphens by themselves make everything after them positional.

A flag is named by its full name after one or two hyphens, or by its shorthand after one. A value
follows an equals sign, or directly the shorthand, or is the next argument. Flags keep what they
were given from one argument list to the next; positional arguments are forgotten.
-/

namespace WinZig

/-- Why a flag cannot be defined. -/
inductive DefinitionError where
  | emptyName
  | redefined (name : String)
  | shorthandRedefined (shorthand : String)
deriving DecidableEq, Repr

/-- How the reason reads. -/
def DefinitionError.message : DefinitionError → String
  | emptyName => "flag name cannot be empty"
  | redefined name => s!"flag redefined: {name}"
  | shorthandRedefined shorthand => s!"shorthand flag redefined: {shorthand}"

/-- Flags, groups of flags, and the positional arguments read last. -/
structure FlagSet where
  flags : List Flag := []
  groups : List FlagGroup := []
  args : List String := []
deriving Repr

namespace FlagSet

/-- The flag with a given name. -/
def find? (set : FlagSet) (name : String) : Option Flag :=
  set.flags.find? fun flag => flag.name == name

/-- The flag with a given shorthand. -/
def findShorthand? (set : FlagSet) (shorthand : String) : Option Flag :=
  set.flags.find? fun flag => flag.shorthand == shorthand

/-- What stands in the way of a flag. -/
def clash? (set : FlagSet) (flag : Flag) : Option DefinitionError :=
  if flag.name = "" then some .emptyName
  else if (set.find? flag.name).isSome then some (.redefined flag.name)
  else if flag.shorthand ≠ "" ∧ (set.findShorthand? flag.shorthand).isSome then
    some (.shorthandRedefined flag.shorthand)
  else none

/-- A set with one more flag. -/
def add (set : FlagSet) (flag : Flag) : FlagSet := { set with flags := set.flags ++ [flag] }

/-- A set with one more flag, unless something stands in its way. -/
def define (set : FlagSet) (flag : Flag) : Except DefinitionError FlagSet :=
  match set.clash? flag with
  | some error => .error error
  | none => .ok (set.add flag)

/-- The flags of a group. -/
def groupFlags (group : FlagGroup) : List Flag := group.entries.flatMap GroupEntry.flags

/-- A set with the flags of one more group. -/
def addGroup (set : FlagSet) (group : FlagGroup) : FlagSet :=
  { set with flags := set.flags ++ groupFlags group, groups := set.groups ++ [group] }

/-- A set with the flags of one more group, unless something stands in the way of one of them. -/
def defineGroup (set : FlagSet) (group : FlagGroup) : Except DefinitionError FlagSet := do
  let set ← (groupFlags group).foldlM define set
  return { set with groups := set.groups ++ [group] }

/-- Whether a switch is on. -/
def isOn (set : FlagSet) (name : String) : Bool :=
  (set.find? name).any fun flag => flag.content == .switch true

/-- The text a flag holds. -/
def text (set : FlagSet) (name : String) : String :=
  ((set.find? name).map fun flag => flag.content.render).getD ""

/-- The flags that arguments have named, in the order of their names. -/
def visited (set : FlagSet) : List Flag :=
  (set.flags.filter Flag.given).mergeSort fun first second => decide (first.name ≤ second.name)

/-- What an argument means by itself. -/
inductive Reading where
  | positional
  /-- All that follows is positional. -/
  | separator
  | refused (error : ArgumentError)
  /-- A flag and its value. -/
  | complete (name value : String)
  /-- A flag whose value follows; `spelling` is the argument. -/
  | awaiting (name spelling : String)
deriving DecidableEq, Repr

/-- The name and the value around the first equals sign. -/
def splitValue (body : List Char) : String × Option String :=
  match Text.cutAt? '=' body with
  | some (name, value) => (String.ofList name, some (String.ofList value))
  | none => (String.ofList body, none)

/-- What a full name after some hyphens means. -/
def readName (set : FlagSet) (dashes : String) (body : List Char) : Reading :=
  match splitValue body with
  | ("", _) => .refused .emptyName
  | (name, value) =>
    match set.find? name with
    | none => .refused (.unknownFlag (dashes ++ name))
    | some flag =>
      match value with
      | some value => .complete name value
      | none =>
        if flag.content.isSwitch then .complete name "" else .awaiting name (dashes ++ name)

/-- What a shorthand after a hyphen means. A shorthand is an ASCII character; one that is not is
shown by the replacement character. A switch takes no notice of what follows its shorthand. -/
def readShorthand (set : FlagSet) (c : Char) (rest : List Char) : Reading :=
  if 128 ≤ c.toNat then .refused (.unknownShorthand "�") else
  let shorthand := String.ofList [c]
  match set.findShorthand? shorthand with
  | none => .refused (.unknownShorthand shorthand)
  | some flag =>
    if flag.content.isSwitch then .complete flag.name ""
    else if rest.isEmpty then .awaiting flag.name ("-" ++ shorthand)
    else .complete flag.name (String.ofList rest)

/-- What an argument means by itself. -/
def read (set : FlagSet) (argument : String) : Reading :=
  match argument.toList with
  | ['-', '-'] => .separator
  | '-' :: '-' :: body => set.readName "--" body
  | '-' :: c :: rest =>
    if (set.find? (splitValue (c :: rest)).1).isSome then set.readName "-" (c :: rest)
    else set.readShorthand c rest
  | _ => .positional

/-- A set in which one flag was changed. -/
def update (set : FlagSet) (name : String) (change : Flag → Flag) : FlagSet :=
  { set with flags := set.flags.map fun flag => if flag.name = name then change flag else flag }

/-- A set in which one flag was named. -/
def mark (set : FlagSet) (name : String) : FlagSet := set.update name Flag.mark

/-- A set in which one flag was named and given a value. A flag counts as named even if it refuses
the value. -/
def assign (set : FlagSet) (name value : String) : FlagSet × Option ArgumentError :=
  let set := set.mark name
  match set.find? name with
  | none => (set, none)
  | some flag =>
    match flag.assign value with
    | .ok changed => (set.update name fun _ => changed, none)
    | .error error => (set, some error)

/-- A set with further positional arguments. -/
def keep (set : FlagSet) (arguments : List String) : FlagSet :=
  { set with args := set.args ++ arguments }

/-- Reads arguments up to the first that is refused. -/
def readAll (set : FlagSet) : List String → FlagSet × Option ArgumentError
  | [] => (set, none)
  | argument :: rest =>
    match set.read argument with
    | .positional => (set.keep [argument]).readAll rest
    | .separator => (set.keep rest, none)
    | .refused error => (set, some error)
    | .complete name value =>
      match set.assign name value with
      | (set, none) => set.readAll rest
      | (set, some error) => (set, some error)
    | .awaiting name spelling =>
      match rest with
      | [] => (set.mark name, some (.missingValue spelling))
      | value :: rest =>
        match set.assign name value with
        | (set, none) => set.readAll rest
        | (set, some error) => (set, some error)

/-- Reads an argument list; positional arguments of an earlier one are forgotten. -/
def parse (set : FlagSet) (arguments : List String) : FlagSet × Option ArgumentError :=
  { set with args := [] }.readAll arguments

end FlagSet

end WinZig
