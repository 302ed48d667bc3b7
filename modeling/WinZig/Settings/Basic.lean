import WinZig.Settings.Switch

/-!
# Settings

Settings hold the value of every switch and the colour mode. Switches are read and set one by one;
setting one leaves the others as they are.
-/

namespace WinZig

/-- The switches and the colour mode. -/
structure Settings where
  /-- When reports are coloured: `auto`, `always` or `never` once accepted. -/
  color : String := "auto"
  feature : Feature → Bool := Feature.initial
  warning : Warning → Bool := Warning.initial

namespace Settings

/-- Sets one feature. -/
def setFeature (settings : Settings) (feature : Feature) (on : Bool) : Settings :=
  { settings with feature := fun other => if other = feature then on else settings.feature other }

/-- Sets one warning. -/
def setWarning (settings : Settings) (warning : Warning) (on : Bool) : Settings :=
  { settings with warning := fun other => if other = warning then on else settings.warning other }

/-- Sets all warnings. -/
def setAllWarnings (settings : Settings) (on : Bool) : Settings :=
  { settings with warning := fun _ => on }

end Settings

/-- The modes a report can be coloured in. -/
inductive ColorMode where
  /-- Coloured on a terminal only. -/
  | auto
  | always
  | never
deriving DecidableEq, Repr

/-- The mode with a given name; no name means `auto`. -/
def ColorMode.ofName? : String → Option ColorMode
  | "" | "auto" => some auto
  | "always" => some always
  | "never" => some never
  | _ => none

/-- Why a name of no mode is refused. -/
def ColorMode.refusal (name : String) : String :=
  s!"invalid color mode '{name}' (want auto, always or never)"

end WinZig
