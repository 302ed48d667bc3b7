import WinZig.Proofs.Settings.Directives
import WinZig.Proofs.Settings.Switches

/-!
# Settings come in layers

Settings start from fixed values. The settings file is applied to them, then the switches of the
command line in the order of their names, then the colour option. From what each of these leaves
behind, the value of every switch can be read off: its own flag comes first, then the flags for all
warnings, then the settings file, then the value it starts from.
-/

namespace WinZig

/-- The settings of a command line: each switch is as its own flag says, else, if it is a warning,
as the flags for all warnings say, else as the settings file says, else as it starts. -/
def Settings.layered (names : List String) (color : String) (file : FileSettings) : Settings where
  color := if color ≠ "" then color else if file.color ≠ "" then file.color else "auto"
  warning warning :=
    (chosen? names ("W" ++ warning.name) ("Wno-" ++ warning.name)
      |>.or (chosen? names "Wall" "Wno-all")
      |>.or (file.warnings.lookup warning.name)).getD warning.initial
  feature feature :=
    (chosen? names ("F" ++ feature.name) ("Fno-" ++ feature.name)
      |>.or (file.features.lookup feature.name)).getD feature.initial

namespace Command

open FlagSet Settings

variable {decode : FileDecoder} {tree : FileTree} {flags : FlagSet} {file : FileSettings}
  {name : String} {names names' options arguments arguments' : List String}

/-- What the settings file of a command line lists; nothing if there is no settings file. -/
inductive Lists (decode : FileDecoder) (tree : FileTree) (flags : FlagSet) : FileSettings → Prop
  | none (absent : settingsPath tree flags = .none) : Lists decode tree flags {}
  | file (path : String) (content : List UInt8) (file : FileSettings)
      (found : settingsPath tree flags = some path) (read : tree.read path = .ok content)
      (decoded : decode (Text.decode content) = .ok file) : Lists decode tree flags file

/-- What a settings file lists are maps if what is decoded are. -/
theorem Lists.isMap (listed : Lists decode tree flags file) (maps : decode.YieldsMaps) :
    file.IsMap := by
  cases listed with
  | none => exact ⟨List.nodup_nil, List.nodup_nil⟩
  | file path content file found read decoded => exact maps decoded

/-- The settings loaded are those of what the settings file lists. -/
theorem Lists.loadedSettings (listed : Lists decode tree flags file) (valid : file.IsValid) :
    loadedSettings decode tree flags = .ok (ofFile file) := by
  cases listed with
  | none absent =>
    rw [Command.loadedSettings, absent]
    simp [ofFile, fileDirectives, listedDirectives, inOrder, Directive.applyAll]
  | file path content file found read decoded =>
    rw [Command.loadedSettings, found]
    simp only [loadFrom, read, load, decoded, applyFile_of_valid valid, ofFile]

/-- A known name about settings is a flag. -/
theorem isFlag_of_find? (governs : isSettingsFlag name = true)
    (known : (app.flags.find? name).isSome = true) : IsFlag name := by
  have cases : ∀ shape ∈ app.flags.shapes, isSettingsFlag shape.1 = true →
      (∃ on ∈ [true, false], shape.1 = sweepingFlag on) ∨
        ∃ switch ∈ Switch.all, ∃ on ∈ [true, false], shape.1 = switch.flag on := by
    decide
  obtain ⟨flag, found⟩ := Option.isSome_iff_exists.mp known
  obtain rfl := FlagSet.name_of_find? found
  have listed : flag.shape ∈ app.flags.shapes :=
    List.mem_map_of_mem (List.mem_of_find?_eq_some found)
  rcases cases flag.shape listed governs with ⟨on, _, same⟩ | ⟨switch, _, on, _, same⟩
  · exact (show flag.name = _ from same) ▸ .sweeping on
  · exact (show flag.name = _ from same) ▸ .own switch on

/-- All names on an accepted line are flags. -/
theorem isFlag_of_accepted (line : Interspersed names options arguments)
    (accepted : app.flags.parse arguments = (flags, none)) : ∀ name ∈ names, IsFlag name := by
  intro name named
  have known := ((parse_interspersed line).mp accepted).1 name named
  exact isFlag_of_find? (line.governed name named) known

/-- The colour is the one on the command line, if there is one. -/
theorem color_applyFlags (settings : Settings) (flags : FlagSet) :
    (applyFlags settings flags).color =
      if flags.text "color" = "" then settings.color else flags.text "color" := by
  rw [applyFlags]
  split
  · exact color_applyNames settings _
  · rfl

/-- Switches depend on the visited flags about settings only. -/
theorem value_applyFlags (settings : Settings) (flags : FlagSet) (switch : Switch) :
    (applyFlags settings flags).value switch =
      (settings.applyNames ((flags.visited.map Flag.name).filter isSettingsFlag)).value switch := by
  rw [applyFlags]
  split
  · rfl
  · cases switch <;> rfl

/-- The settings after all layers. -/
theorem applyFlags_ofFile (line : Interspersed names options arguments)
    (accepted : app.flags.parse arguments = (flags, none)) (consistent : Consistent names)
    (isMap : file.IsMap) :
    applyFlags (ofFile file) flags = layered names (flags.text "color") file := by
  have same (name : String) : name ∈ (flags.visited.map Flag.name).filter isSettingsFlag
      ↔ name ∈ names := mem_visited line accepted
  have visited := value_applyFlags (ofFile file) flags
  generalize (flags.visited.map Flag.name).filter isSettingsFlag = given at same visited
  have chosen : chosen? given = chosen? names := by
    funext onFlag offFlag
    simp only [chosen?, same]
  have isFlag : ∀ name ∈ given, IsFlag name :=
    fun name named => isFlag_of_accepted line accepted name ((same name).mp named)
  have consistent' : Consistent given := by
    constructor <;> simp only [same]
    · exact consistent.warnings
    · exact consistent.features
    · exact consistent.sweeping
  apply eq_of_values
  · rw [color_applyFlags, color_ofFile, layered]
    simp only [ite_not]
  · intro switch
    rw [visited]
    have listed := value_ofFile isMap switch
    cases switch with
    | warning warning =>
      refine (warning_applyNames isFlag consistent' _ warning).trans ?_
      rw [chosen, show (ofFile file).warning warning = _ from listed, ← Option.getD_or]
      rfl
    | feature feature =>
      refine (feature_applyNames isFlag consistent' _ feature).trans ?_
      rw [chosen, show (ofFile file).feature feature = _ from listed, ← Option.getD_or]
      rfl

/-- Settings come in layers. Switches of the settings stand anywhere in an accepted argument list,
in any order and any number of times, and none is given both ways; the settings file, if there is
one, lists known names and a colour mode, decoded in whatever way that yields maps. Then every
switch is as its own flag says, else, if it is
a warning, as the flags for all warnings say, else as the file says, else as it starts. The colour
mode is the one of the option, else of the file, else `auto`, and configuring fails exactly if it is
none. Only which switches are named matters: any argument list with the same options and the same
switches leads to the same flags, and so does any permutation of a list of switches. -/
theorem configure_layers (line : Interspersed names options arguments)
    (accepted : app.flags.parse arguments = (flags, none)) (consistent : Consistent names)
    (maps : decode.YieldsMaps) (listed : Lists decode tree flags file) (valid : file.IsValid) :
    let settings := layered names (flags.text "color") file
    (ColorMode.IsName settings.color →
      ∃ mode, ColorMode.ofName? settings.color = some mode ∧
        configure decode tree flags = .ok (settings, mode)) ∧
    (¬ ColorMode.IsName settings.color →
      configure decode tree flags = .error (ColorMode.refusal settings.color)) ∧
    (∀ names' arguments', (∀ name, name ∈ names ↔ name ∈ names') →
      Interspersed names' options arguments' → app.flags.parse arguments' = (flags, none)) ∧
    (options = [] → ∀ arguments', arguments.Perm arguments' →
      app.flags.parse arguments' = (flags, none)) := by
  intro settings
  have layers : applyFlags (ofFile file) flags = settings :=
    applyFlags_ofFile line accepted consistent (listed.isMap maps)
  have named : settings.color ≠ "" := by
    simp only [settings, layered]
    split
    · assumption
    · split
      · assumption
      · decide
  refine ⟨fun accepted => ?_, fun refused => ?_, ?_, ?_⟩
  · obtain ⟨mode, known⟩ := Option.ne_none_iff_exists'.mp
      (mt (ColorMode.ofName?_eq_none named).mp (not_not_intro accepted))
    refine ⟨mode, known, ?_⟩
    simp only [configure, listed.loadedSettings valid, layers, known]
  · have unknown := (ColorMode.ofName?_eq_none named).mpr refused
    simp only [configure, listed.loadedSettings valid, layers, unknown]
  · intro names' arguments' same line'
    exact parse_of_same_switches line line' same accepted
  · rintro rfl arguments' same
    obtain ⟨names', line', same⟩ := Interspersed.perm same line
    exact parse_of_same_switches line line' (fun _ => same.mem_iff) accepted

/-- A settings file. -/
def someSettings : String :=
  "Color = \"always\"\n[Warnings]\nextra = false\n[Features]\neof-literal = false\n"

/-- What this settings file lists. -/
def someListed : FileSettings where
  color := "always"
  warnings := [("extra", false)]
  features := [("eof-literal", false)]

/-- A directory with this settings file. -/
def someTree : FileTree where
  entries := [(["winzigc.toml"], .file someSettings.toUTF8.toList)]

/-- All warnings but one, and one feature less. -/
def someArguments : List String :=
  ["--Wno-shadow", "--color=never", "-Wall", "-Fno-ordinal-funcs", "-Wall"]

/-- The colour on the line is read as a complete flag. -/
theorem read_someColor : app.flags.read "--color=never" = .complete "color" "never" := by
  decide

/-- The arguments are four flags with an option between them. -/
theorem someArguments_interspersed :
    Interspersed ["Wno-shadow", "Wall", "Fno-ordinal-funcs", "Wall"] ["--color=never"]
      someArguments := by
  refine .switch _ _ ⟨.inr rfl, rfl, by decide⟩ (.complete _ _ _ read_someColor rfl ?_)
  refine .switch _ _ ⟨.inl rfl, rfl, by decide⟩ (.switch _ _ ⟨.inl rfl, rfl, by decide⟩ ?_)
  exact .switch _ _ ⟨.inl rfl, rfl, by decide⟩ .nil

/-- No two of the flags contradict each other. -/
theorem someArguments_consistent :
    Consistent ["Wno-shadow", "Wall", "Fno-ordinal-funcs", "Wall"] := by
  constructor
  · intro warning
    cases warning <;> decide
  · intro feature
    cases feature <;> decide
  · decide

/-- The exception stands in front of the rule and holds. The settings file has no say about the
warnings any more, but it has about the features. -/
theorem configure_layers_someArguments :
    ∃ settings, configure FileSettings.ofText someTree (app.flags.parse someArguments).1 =
        .ok (settings, .never) ∧
      Warning.all.filter (!settings.warning ·) = [.shadow] ∧
      Feature.all.filter (!settings.feature ·) = [.ordinalFunctions, .endOfFileLiteral] ∧
      app.flags.parse ["-Fno-ordinal-funcs", "-Wall", "--Wno-shadow", "--color=never"]
        = app.flags.parse someArguments := by
  have accepted : app.flags.parse someArguments = ((app.flags.parse someArguments).1, none) :=
    Prod.ext rfl (by decide)
  have path : settingsPath someTree (app.flags.parse someArguments).1 = some "winzigc.toml" := by
    decide
  have text : Text.decode someSettings.toUTF8.toList = someSettings.toList := by decide +kernel
  have decoded : FileSettings.ofText (Text.decode someSettings.toUTF8.toList) = .ok someListed := by
    rw [text]
    cbv
  have listed : Lists FileSettings.ofText _ _ _ := .file _ _ _ path rfl decoded
  have valid : someListed.IsValid :=
    ⟨by simpa [someListed] using ⟨.extra, rfl⟩,
      by simpa [someListed] using ⟨.endOfFileLiteral, rfl⟩, .inr (.inr (.inl rfl))⟩
  have option : (app.flags.parse someArguments).1.text "color" = "never" := by decide
  obtain ⟨named, _, same, _⟩ := configure_layers someArguments_interspersed accepted
    someArguments_consistent FileSettings.ofText_yieldsMaps listed valid
  rw [option] at named
  obtain ⟨mode, known, configured⟩ := named (.inr (.inr rfl))
  obtain rfl : ColorMode.never = mode := Option.some.inj known
  refine ⟨_, configured, by decide, by decide +kernel, ?_⟩
  have reordered : Interspersed ["Fno-ordinal-funcs", "Wall", "Wno-shadow"] ["--color=never"]
      ["-Fno-ordinal-funcs", "-Wall", "--Wno-shadow", "--color=never"] := by
    refine .switch _ _ ⟨.inl rfl, rfl, by decide⟩ (.switch _ _ ⟨.inl rfl, rfl, by decide⟩ ?_)
    exact .switch _ _ ⟨.inr rfl, rfl, by decide⟩ (.complete _ _ _ read_someColor rfl .nil)
  exact (same _ _ (fun name => by grind) reordered).trans accepted.symm

end Command

end WinZig
