import WinZig.Files.Tree
import WinZig.Settings.File
import WinZig.Text.Utf8

/-!
# Loading a settings file
-/

namespace WinZig.Settings

/-- The settings file that is used when none is named. -/
def defaultFile : String := "winzigc.toml"

/-- Settings after the settings file at a path, given how its text is read. -/
def loadFrom (decode : FileDecoder) (settings : Settings) (tree : FileTree) (path : String) :
    Settings × Option SettingsError :=
  match tree.read path with
  | .ok content => settings.load decode (Text.decode content)
  | .error error =>
    if error.problem = .isDirectory then (settings, some (.unread error.message))
    else (settings, some (.unopened error.message))

end WinZig.Settings
