import WinZig.Proofs.Settings.Tables
import WinZig.Settings.Flags

/-!
# What directives leave behind

A directive changes the switches it is about and nothing else. So a switch has the value the last
directive about it gave it, and where a sequence of directives does not contradict itself, its order
does not matter.

A settings file that lists known names is such a sequence, and it does not contradict itself, for it
is a map from names. The names of flags are two: those for all warnings, which come first, and the
others.
-/

namespace WinZig

/-! ## Directives -/

/-- One switch of the settings. -/
inductive Switch where
  | warning (warning : Warning)
  | feature (feature : Feature)
deriving DecidableEq, Repr

/-- The value of a switch. -/
def Settings.value (settings : Settings) : Switch → Bool
  | .warning warning => settings.warning warning
  | .feature feature => settings.feature feature

/-- Settings are their colour and the values of their switches. -/
theorem Settings.eq_of_values {first second : Settings} (color : first.color = second.color)
    (values : ∀ switch, first.value switch = second.value switch) : first = second := by
  have warnings : first.warning = second.warning := funext fun warning => values (.warning warning)
  have features : first.feature = second.feature := funext fun feature => values (.feature feature)
  cases first
  cases second
  simp_all

namespace Directive

variable {directives : List Directive} {settings : Settings} {switch : Switch} {on : Bool}

/-- The value a directive gives to a switch, if it is about it. -/
def gives? (switch : Switch) : Directive → Option Bool
  | allWarnings on => if switch matches .warning _ then some on else none
  | warning found on => if switch = .warning found then some on else none
  | feature found on => if switch = .feature found then some on else none
  | nothing => none

/-- The directive about one switch. -/
def ofSwitch (on : Bool) : Switch → Directive
  | .warning found => warning found on
  | .feature found => feature found on

/-- A directive for one switch gives a value to that one only. -/
theorem gives?_ofSwitch {own : Switch} {value : Bool} :
    (ofSwitch value own).gives? switch = some on ↔ own = switch ∧ value = on := by
  cases own <;> simp [ofSwitch, gives?, eq_comm]

/-- A directive gives values to some switches and leaves the others. -/
theorem value_apply (directive : Directive) (settings : Settings) (switch : Switch) :
    (directive.apply settings).value switch
      = (directive.gives? switch).getD (settings.value switch) := by
  cases directive with
  | allWarnings on => cases switch <;> rfl
  | warning found on =>
    cases switch with
    | warning warning =>
      by_cases same : warning = found <;>
        simp [apply, Settings.value, Settings.setWarning, gives?, same]
    | feature feature => rfl
  | feature found on =>
    cases switch with
    | warning warning => rfl
    | feature feature =>
      by_cases same : feature = found <;>
        simp [apply, Settings.value, Settings.setFeature, gives?, same]
  | nothing => rfl

/-- A directive leaves the colour. -/
theorem color_apply (directive : Directive) (settings : Settings) :
    (directive.apply settings).color = settings.color := by
  cases directive <;> rfl

/-- Settings after some directives. -/
def applyAll (settings : Settings) (directives : List Directive) : Settings :=
  directives.foldl apply settings

/-- Directives leave the colour. -/
theorem color_applyAll (directives : List Directive) (settings : Settings) :
    (applyAll settings directives).color = settings.color := by
  induction directives generalizing settings with
  | nil => rfl
  | cons directive directives inductionHypothesis =>
    exact (inductionHypothesis _).trans (color_apply directive settings)

/-- Directives about other things leave a switch as it is. -/
theorem value_of_silent (silent : ∀ directive ∈ directives, directive.gives? switch = none) :
    (applyAll settings directives).value switch = settings.value switch := by
  induction directives generalizing settings with
  | nil => rfl
  | cons directive directives inductionHypothesis =>
    rw [List.forall_mem_cons] at silent
    have first := value_apply directive settings switch
    rw [silent.1, Option.getD_none] at first
    exact (inductionHypothesis silent.2).trans first

/-- Directives that do not contradict each other about a switch can be given in any order. -/
theorem value_of_agreed
    (agreed : ∀ directive ∈ directives, ∀ value, directive.gives? switch = some value → value = on)
    (given : ∃ directive ∈ directives, directive.gives? switch = some on) :
    (applyAll settings directives).value switch = on := by
  induction directives generalizing settings with
  | nil => simp at given
  | cons directive directives inductionHypothesis =>
    rw [List.forall_mem_cons] at agreed
    by_cases later : ∃ directive ∈ directives, directive.gives? switch = some on
    · exact inductionHypothesis agreed.2 later
    · have silent : ∀ directive ∈ directives, directive.gives? switch = none := by
        intro other listed
        cases gives : other.gives? switch with
        | none => rfl
        | some value =>
          obtain rfl := agreed.2 other listed value gives
          exact absurd ⟨other, listed, gives⟩ later
      have first : directive.gives? switch = some on := by
        obtain ⟨other, listed, gives⟩ := given
        rcases List.mem_cons.mp listed with rfl | listed
        · exact gives
        · exact absurd ⟨other, listed, gives⟩ later
      have last : (directive.apply settings).value switch = on := by
        rw [value_apply, first, Option.getD_some]
      exact (value_of_silent silent).trans last

/-- The value of a switch after directives that say one thing about it, or nothing. -/
theorem value_applyAll {told : Option Bool}
    (exact : ∀ on, (∃ directive ∈ directives, directive.gives? switch = some on) ↔ told = some on) :
    (applyAll settings directives).value switch = told.getD (settings.value switch) := by
  cases told with
  | none =>
    apply value_of_silent
    intro directive listed
    cases gives : directive.gives? switch with
    | none => rfl
    | some on => exact absurd ((exact on).mp ⟨directive, listed, gives⟩) (by simp)
  | some on =>
    apply value_of_agreed
    · intro directive listed value gives
      exact (Option.some.inj ((exact value).mp ⟨directive, listed, gives⟩)).symm
    · exact (exact on).mpr rfl

end Directive

/-! ## The settings file -/

/-- A name finds the warning that has it. -/
theorem Warning.ofName?_eq_some {name : String} {warning : Warning} :
    Warning.ofName? name = some warning ↔ warning.name = name := by
  constructor
  · intro found
    simpa using List.find?_some found
  · rintro rfl
    cases warning <;> decide

/-- A name finds the feature that has it. -/
theorem Feature.ofName?_eq_some {name : String} {feature : Feature} :
    Feature.ofName? name = some feature ↔ feature.name = name := by
  constructor
  · intro found
    simpa using List.find?_some found
  · rintro rfl
    cases feature <;> decide

/-- The names of the colour modes. -/
def ColorMode.IsName (name : String) : Prop := name = "auto" ∨ name = "always" ∨ name = "never"

/-- A name finds no colour mode exactly when none has it. -/
theorem ColorMode.ofName?_eq_none {name : String} (some : name ≠ "") :
    ColorMode.ofName? name = none ↔ ¬ IsName name := by
  unfold ofName? IsName
  split <;> simp_all

/-- A settings file lists known names and a colour mode, or none. -/
structure FileSettings.IsValid (file : FileSettings) : Prop where
  warnings : ∀ entry ∈ file.warnings, ∃ warning : Warning, warning.name = entry.1
  features : ∀ entry ∈ file.features, ∃ feature : Feature, feature.name = entry.1
  color : file.color = "" ∨ ColorMode.IsName file.color

namespace Settings

open Directive

variable {settings : Settings} {listed : List (String × Bool)} {file : FileSettings}

/-- The switch of a warning, by name. -/
def warningSwitch? (name : String) : Option Switch := (Warning.ofName? name).map .warning

/-- The switch of a feature, by name. -/
def featureSwitch? (name : String) : Option Switch := (Feature.ofName? name).map .feature

/-- What listed switches of a family direct. -/
def listedDirectives (find? : String → Option Switch) (listed : List (String × Bool)) :
    List Directive :=
  listed.filterMap fun entry => (find? entry.1).map (ofSwitch entry.2)

/-- Listed directives give a switch the values that are listed for its name. -/
theorem gives?_listedDirectives {find? : String → Option Switch} {switch : Switch} {on : Bool} :
    (∃ directive ∈ listedDirectives find? listed, directive.gives? switch = some on)
      ↔ ∃ name, find? name = some switch ∧ (name, on) ∈ listed := by
  constructor
  · rintro ⟨directive, directs, gives⟩
    obtain ⟨⟨name, value⟩, member, made⟩ := List.mem_filterMap.mp directs
    obtain ⟨own, found, rfl⟩ := Option.map_eq_some_iff.mp made
    obtain ⟨rfl, rfl⟩ := gives?_ofSwitch.mp gives
    exact ⟨name, found, member⟩
  · rintro ⟨name, found, member⟩
    have made : (find? name).map (ofSwitch on) = some (ofSwitch on switch) := by rw [found]; rfl
    exact ⟨ofSwitch on switch, List.mem_filterMap.mpr ⟨(name, on), member, made⟩,
      gives?_ofSwitch.mpr ⟨rfl, rfl⟩⟩

/-- Listed warnings that are all known are applied in turn. -/
theorem applyWarnings_of_known
    (known : ∀ entry ∈ listed, ∃ warning : Warning, warning.name = entry.1) :
    settings.applyWarnings listed
      = (applyAll settings (listedDirectives warningSwitch? listed), none) := by
  induction listed generalizing settings with
  | nil => rfl
  | cons entry listed inductionHypothesis =>
    obtain ⟨⟨warning, named⟩, others⟩ := List.forall_mem_cons.mp known
    have found := Warning.ofName?_eq_some.mpr named
    rw [applyWarnings, found, listedDirectives, List.filterMap_cons, warningSwitch?, found]
    exact inductionHypothesis others

/-- Listed features that are all known are applied in turn. -/
theorem applyFeatures_of_known
    (known : ∀ entry ∈ listed, ∃ feature : Feature, feature.name = entry.1) :
    settings.applyFeatures listed
      = (applyAll settings (listedDirectives featureSwitch? listed), none) := by
  induction listed generalizing settings with
  | nil => rfl
  | cons entry listed inductionHypothesis =>
    obtain ⟨⟨feature, named⟩, others⟩ := List.forall_mem_cons.mp known
    have found := Feature.ofName?_eq_some.mpr named
    rw [applyFeatures, found, listedDirectives, List.filterMap_cons, featureSwitch?, found]
    exact inductionHypothesis others

/-- Entries in order are the same entries. -/
theorem inOrder_perm (listed : List (String × Bool)) : (inOrder listed).Perm listed :=
  List.mergeSort_perm listed _

/-- An entry is among those in order exactly when it is listed. -/
theorem mem_inOrder {entry : String × Bool} : entry ∈ inOrder listed ↔ entry ∈ listed :=
  (inOrder_perm listed).mem_iff

/-- What a settings file directs. -/
def fileDirectives (file : FileSettings) : List Directive :=
  listedDirectives warningSwitch? (inOrder file.warnings) ++
    listedDirectives featureSwitch? (inOrder file.features)

/-- A valid file sets the colour if it names one, and applies its directives. -/
theorem applyFile_of_valid (valid : file.IsValid) :
    settings.applyFile file =
      (applyAll { settings with color := if file.color = "" then settings.color else file.color }
        (fileDirectives file), none) := by
  have accepted : ¬ (file.color ≠ "" ∧ ColorMode.ofName? file.color = none) := by
    rintro ⟨some, refused⟩
    rcases valid.color with none | named
    · exact some none
    · exact (ColorMode.ofName?_eq_none some).mp refused named
  have warnings : ∀ entry ∈ inOrder file.warnings, ∃ warning : Warning, warning.name = entry.1 :=
    fun entry listed => valid.warnings entry (mem_inOrder.mp listed)
  have features : ∀ entry ∈ inOrder file.features, ∃ feature : Feature, feature.name = entry.1 :=
    fun entry listed => valid.features entry (mem_inOrder.mp listed)
  rw [applyFile, if_neg accepted]
  simp only [applyWarnings_of_known warnings, applyFeatures_of_known features, fileDirectives,
    applyAll, List.foldl_append]
  split <;> rfl

end Settings

/-- What a settings file lists about a switch. -/
def FileSettings.entry? (file : FileSettings) : Switch → Option Bool
  | .warning warning => file.warnings.lookup warning.name
  | .feature feature => file.features.lookup feature.name

/-- With distinct names the entry for a name is the listed one. -/
theorem mem_iff_lookup {listed : List (String × Bool)} (unique : (listed.map Prod.fst).Nodup)
    {name : String} {on : Bool} : (name, on) ∈ listed ↔ listed.lookup name = some on := by
  constructor
  · intro member
    cases found : listed.lookup name with
    | none =>
      have different := List.lookup_eq_none_iff.mp found (name, on) member
      simp at different
    | some first =>
      obtain ⟨before, after, rfl, _⟩ := List.lookup_eq_some_iff.mp found
      have listed : (name, first) ∈ before ++ (name, first) :: after :=
        List.mem_append_right before List.mem_cons_self
      exact congrArg some (congrArg Prod.snd (List.inj_on_of_nodup_map unique listed member rfl))
  · intro found
    obtain ⟨before, after, rfl, _⟩ := List.lookup_eq_some_iff.mp found
    exact List.mem_append_right before List.mem_cons_self

/-- The directives of a file give a switch the value of its entry. -/
theorem gives?_fileDirectives {file : FileSettings} (isMap : file.IsMap) (switch : Switch)
    (on : Bool) :
    (∃ directive ∈ Settings.fileDirectives file, directive.gives? switch = some on)
      ↔ file.entry? switch = some on := by
  simp only [Settings.fileDirectives, List.mem_append, or_and_right, exists_or,
    Settings.gives?_listedDirectives, Settings.mem_inOrder, Settings.warningSwitch?,
    Settings.featureSwitch?, Option.map_eq_some_iff, Warning.ofName?_eq_some,
    Feature.ofName?_eq_some]
  cases switch with
  | warning warning => simp [FileSettings.entry?, ← mem_iff_lookup isMap.1]
  | feature feature => simp [FileSettings.entry?, ← mem_iff_lookup isMap.2]

/-- The settings after a settings file. -/
def Settings.ofFile (file : FileSettings) : Settings :=
  Directive.applyAll { color := if file.color = "" then "auto" else file.color }
    (Settings.fileDirectives file)

/-- The colour is that of the file, if it names one. -/
theorem Settings.color_ofFile (file : FileSettings) :
    (ofFile file).color = if file.color = "" then "auto" else file.color :=
  Directive.color_applyAll _ _

/-- A switch has the value of its entry, or its default without one. -/
theorem Settings.value_ofFile {file : FileSettings} (isMap : file.IsMap) (switch : Switch) :
    (ofFile file).value switch = (file.entry? switch).getD (Settings.value {} switch) := by
  rw [ofFile, Directive.value_applyAll (gives?_fileDirectives isMap switch)]
  cases switch <;> rfl

/-! ## Switches on the command line -/

namespace Switch

/-- All switches. -/
def all : List Switch := Warning.all.map warning ++ Feature.all.map feature

/-- The flag that gives a switch a value. -/
def flag (on : Bool) : Switch → String
  | warning found => (if on then "W" else "Wno-") ++ found.name
  | feature found => (if on then "F" else "Fno-") ++ found.name

/-- The word of a switch's flag is the directive for the switch. -/
theorem ofWord_flag (switch : Switch) (on : Bool) :
    Directive.ofWord (switch.flag on).toList = .ofSwitch on switch := by
  rcases switch with warning | feature
  · cases warning <;> cases on <;> decide
  · cases feature <;> cases on <;> decide

/-- The flag of one switch is not one for all warnings. -/
theorem isSweeping_flag (switch : Switch) (on : Bool) :
    Settings.isSweeping (switch.flag on).toList = false := by
  rcases switch with warning | feature
  · cases warning <;> cases on <;> decide
  · cases feature <;> cases on <;> decide

end Switch

namespace Settings

open Directive

variable {settings : Settings} {names : List String} {switch : Switch} {on : Bool} {name : String}

/-- The flag that gives all warnings a value. -/
def sweepingFlag (on : Bool) : String := if on then "Wall" else "Wno-all"

/-- A name is that of a flag of the settings. -/
inductive IsFlag : String → Prop
  | sweeping (on : Bool) : IsFlag (sweepingFlag on)
  | own (switch : Switch) (on : Bool) : IsFlag (switch.flag on)

/-- What the names for all warnings direct. -/
def sweepingDirectives (names : List String) : List Directive :=
  ((names.map String.toList).filter isSweeping).map ofWord

/-- What all other names direct. -/
def ownDirectives (names : List String) : List Directive :=
  ((names.map String.toList).filter (!isSweeping ·)).map ofWord

/-- Names are applied in two rounds: those for all warnings first, then the others. -/
theorem applyNames_eq (settings : Settings) (names : List String) :
    settings.applyNames names
      = applyAll (applyAll settings (sweepingDirectives names)) (ownDirectives names) := by
  simp only [applyNames, applyWords, applyAll, sweepingDirectives, ownDirectives, List.foldl_map]
  rfl

/-- The flags for all warnings are for all warnings. -/
theorem isSweeping_sweepingFlag (on : Bool) : isSweeping (sweepingFlag on).toList = true := by
  cases on <;> decide

/-- The own directives give a switch a value exactly when its flag for that value is named. -/
theorem gives?_ownDirectives (flags : ∀ name ∈ names, IsFlag name) :
    (∃ directive ∈ ownDirectives names, directive.gives? switch = some on)
      ↔ switch.flag on ∈ names := by
  constructor
  · rintro ⟨directive, directs, gives⟩
    obtain ⟨word, kept, rfl⟩ := List.mem_map.mp directs
    obtain ⟨listed, single⟩ := List.mem_filter.mp kept
    obtain ⟨name, member, rfl⟩ := List.mem_map.mp listed
    cases flags name member with
    | sweeping value => simp [isSweeping_sweepingFlag] at single
    | own own value =>
      rw [Switch.ofWord_flag] at gives
      obtain ⟨rfl, rfl⟩ := gives?_ofSwitch.mp gives
      exact member
  · intro member
    refine ⟨ofSwitch on switch, List.mem_map.mpr ⟨(switch.flag on).toList, ?_, ?_⟩, ?_⟩
    · rw [List.mem_filter, Switch.isSweeping_flag]
      exact ⟨List.mem_map_of_mem member, rfl⟩
    · exact Switch.ofWord_flag switch on
    · exact gives?_ofSwitch.mpr ⟨rfl, rfl⟩

/-- The word of a flag for all warnings is the directive for all of them. -/
theorem ofWord_sweepingFlag (on : Bool) : ofWord (sweepingFlag on).toList = allWarnings on := by
  cases on <;> decide

/-- The sweeping directives give warnings a value exactly when the flag for all of them is named. -/
theorem gives?_sweepingDirectives (flags : ∀ name ∈ names, IsFlag name) :
    (∃ directive ∈ sweepingDirectives names, directive.gives? switch = some on)
      ↔ (∃ warning, switch = .warning warning) ∧ sweepingFlag on ∈ names := by
  constructor
  · rintro ⟨directive, directs, gives⟩
    obtain ⟨word, kept, rfl⟩ := List.mem_map.mp directs
    obtain ⟨listed, sweeping⟩ := List.mem_filter.mp kept
    obtain ⟨name, member, rfl⟩ := List.mem_map.mp listed
    cases flags name member with
    | own own value => simp [Switch.isSweeping_flag] at sweeping
    | sweeping value =>
      rw [ofWord_sweepingFlag] at gives
      cases switch with
      | feature => contradiction
      | warning warning =>
        cases gives
        exact ⟨⟨warning, rfl⟩, member⟩
  · rintro ⟨⟨warning, rfl⟩, member⟩
    refine ⟨allWarnings on, List.mem_map.mpr ⟨(sweepingFlag on).toList, ?_, ?_⟩, rfl⟩
    · rw [List.mem_filter]
      exact ⟨List.mem_map_of_mem member, isSweeping_sweepingFlag on⟩
    · exact ofWord_sweepingFlag on

/-- What two flags say together, one to switch on and one to switch off. -/
def chosen? (names : List String) (onFlag offFlag : String) : Option Bool :=
  if onFlag ∈ names then some true else if offFlag ∈ names then some false else none

/-- No switch is given both ways, nor are all warnings. -/
structure Consistent (names : List String) : Prop where
  warnings : ∀ warning : Warning, ¬ ("W" ++ warning.name ∈ names ∧ "Wno-" ++ warning.name ∈ names)
  features : ∀ feature : Feature, ¬ ("F" ++ feature.name ∈ names ∧ "Fno-" ++ feature.name ∈ names)
  sweeping : ¬ ("Wall" ∈ names ∧ "Wno-all" ∈ names)

/-- Without a contradiction a flag is named exactly when it is the one chosen. -/
theorem mem_iff_chosen? (flag : Bool → String)
    (consistent : ¬ (flag true ∈ names ∧ flag false ∈ names)) (on : Bool) :
    flag on ∈ names ↔ chosen? names (flag true) (flag false) = some on := by
  cases on with
  | true => by_cases given : flag true ∈ names <;> simp [chosen?, given]
  | false =>
    by_cases given : flag true ∈ names
    · have off : flag false ∉ names := fun other => consistent ⟨given, other⟩
      simp [chosen?, given, off]
    · by_cases off : flag false ∈ names <;> simp [chosen?, given, off]

/-- Names leave the colour. -/
theorem color_applyNames (settings : Settings) (names : List String) :
    (settings.applyNames names).color = settings.color := by
  rw [applyNames_eq, color_applyAll, color_applyAll]

/-- A warning has the value chosen by its own flags, by those for all warnings, or as before. -/
theorem warning_applyNames (flags : ∀ name ∈ names, IsFlag name) (consistent : Consistent names)
    (settings : Settings) (warning : Warning) :
    (settings.applyNames names).warning warning =
      ((chosen? names ("W" ++ warning.name) ("Wno-" ++ warning.name)).or
        (chosen? names "Wall" "Wno-all")).getD (settings.warning warning) := by
  have own (on : Bool) := (gives?_ownDirectives flags).trans
    (mem_iff_chosen? (Switch.flag · (.warning warning)) (consistent.warnings warning) on)
  have all (on : Bool) : (∃ directive ∈ sweepingDirectives names,
      directive.gives? (.warning warning) = some on) ↔ chosen? names "Wall" "Wno-all" = some on := by
    rw [gives?_sweepingDirectives flags]
    exact (and_iff_right ⟨warning, rfl⟩).trans (mem_iff_chosen? sweepingFlag consistent.sweeping on)
  rw [applyNames_eq, Option.getD_or]
  exact (value_applyAll own).trans (congrArg (Option.getD _) (value_applyAll all))

/-- A feature has the value chosen by its own flags, or as before. -/
theorem feature_applyNames (flags : ∀ name ∈ names, IsFlag name) (consistent : Consistent names)
    (settings : Settings) (feature : Feature) :
    (settings.applyNames names).feature feature =
      (chosen? names ("F" ++ feature.name) ("Fno-" ++ feature.name)).getD
        (settings.feature feature) := by
  have own (on : Bool) := (gives?_ownDirectives flags).trans
    (mem_iff_chosen? (Switch.flag · (.feature feature)) (consistent.features feature) on)
  have untouched : ∀ directive ∈ sweepingDirectives names,
      directive.gives? (.feature feature) = none := by
    intro directive directs
    cases gives : directive.gives? (.feature feature) with
    | none => rfl
    | some on =>
      obtain ⟨⟨warning, same⟩, _⟩ := (gives?_sweepingDirectives flags).mp ⟨directive, directs, gives⟩
      contradiction
  rw [applyNames_eq]
  exact (value_applyAll own).trans (congrArg (Option.getD _) (value_of_silent untouched))

end Settings

end WinZig
