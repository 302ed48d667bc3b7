import WinZig.CommandLine.FlagSet
import WinZig.Settings.Directive

/-!
# Settings on the command line

Every warning and every feature has a flag that switches it on and one that switches it off, and
two flags govern all warnings. The flags that were named are directives, taken in the order of
their names.
-/

namespace WinZig.Settings

/-- The flags of the warnings. -/
def warningGroup (settings : Settings) : FlagGroup where
  name := "Warning Flags"
  description := "Enable or disable specific warnings"
  kind := "warning"
  header := "Available Warnings:"
  entries := Warning.all.map fun warning =>
    { name := warning.name, family := "W", usage := warning.description
      initiallyOn := settings.warning warning }

/-- The flags of the features. -/
def featureGroup (settings : Settings) : FlagGroup where
  name := "Feature Flags"
  description := "Enable or disable specific features"
  kind := "feature"
  header := "Available Features:"
  entries := Feature.all.map fun feature =>
    { name := feature.name, family := "F", usage := feature.description
      initiallyOn := settings.feature feature }

/-- A flag set with the flags of the settings. -/
def addFlags (settings : Settings) (set : FlagSet) : FlagSet :=
  (((set.addGroup settings.warningGroup).addGroup settings.featureGroup).add
    { name := "Wall", usage := "Enable all warnings", content := .switch false }).add
    { name := "Wno-all", usage := "Disable all warnings", content := .switch false }

/-- Settings after the flags of some names were given. -/
def applyNames (settings : Settings) (names : List String) : Settings :=
  settings.applyWords (names.map String.toList)

end WinZig.Settings
