import WinZig.Proofs.Settings.Directives
import WinZig.Proofs.Texts
import WinZig.Settings.Load

/-!
# What a settings file leaves behind

A settings file is applied entry by entry: the colour mode, then the warnings in the order of their
names, then the features in the order of their names. It is applied up to the first entry that is not
valid, and what comes before it stays. So a file is not all or nothing: from the error alone it can
be told which of its entries were applied, and they are those that come before the one it names.

Warnings and features are two families of switches, and both are applied alike. What is said about a
family is that listed entries with names below the first unknown name take effect, and no others.
-/

namespace WinZig

/-! ## Families of switches -/

/-- Switches that are listed under their own names, and the error for a name of none of them. -/
structure Family where
  find? : String → Option Switch
  name? : Switch → Option String
  refusal : String → SettingsError
  exact : ∀ {name switch}, find? name = some switch ↔ name? switch = some name

/-- The warnings. -/
def Family.warnings : Family where
  find? := Settings.warningSwitch?
  name?
    | .warning warning => some warning.name
    | .feature _ => none
  refusal := .unknownWarning
  exact {name switch} := by
    cases switch <;> simp [Settings.warningSwitch?, Warning.ofName?_eq_some]

/-- The features. -/
def Family.features : Family where
  find? := Settings.featureSwitch?
  name?
    | .warning _ => none
    | .feature feature => some feature.name
  refusal := .unknownFeature
  exact {name switch} := by
    cases switch <;> simp [Settings.featureSwitch?, Feature.ofName?_eq_some]

namespace Family

variable (family : Family) {settings : Settings} {listed front : List (String × Bool)}

/-- A name is that of a switch of a family. -/
def Knows (name : String) : Prop := ∃ switch, family.name? switch = some name

/-- Settings after the listed switches of a family, up to the first unknown one. -/
def apply (settings : Settings) : List (String × Bool) → Settings × Option SettingsError
  | [] => (settings, none)
  | (name, on) :: rest =>
    match family.find? name with
    | some switch => apply ((Directive.ofSwitch on switch).apply settings) rest
    | none => (settings, some (family.refusal name))

/-- Listed warnings are applied as a family. -/
theorem applyWarnings_eq (settings : Settings) (listed : List (String × Bool)) :
    settings.applyWarnings listed = warnings.apply settings listed := by
  induction listed generalizing settings with
  | nil => rfl
  | cons entry listed inductionHypothesis =>
    have found : warnings.find? entry.1 = (Warning.ofName? entry.1).map .warning := rfl
    rw [Settings.applyWarnings, apply, found]
    cases Warning.ofName? entry.1 with
    | none => rfl
    | some warning => exact inductionHypothesis _

/-- Listed features are applied as a family. -/
theorem applyFeatures_eq (settings : Settings) (listed : List (String × Bool)) :
    settings.applyFeatures listed = features.apply settings listed := by
  induction listed generalizing settings with
  | nil => rfl
  | cons entry listed inductionHypothesis =>
    have found : features.find? entry.1 = (Feature.ofName? entry.1).map .feature := rfl
    rw [Settings.applyFeatures, apply, found]
    cases Feature.ofName? entry.1 with
    | none => rfl
    | some feature => exact inductionHypothesis _

/-- Where a list stops: nowhere if all its names are known, or else at the least unknown one. -/
def Stops (listed : List (String × Bool)) : Option String → Prop
  | none => ∀ entry ∈ listed, family.Knows entry.1
  | some name => name ∈ listed.map Prod.fst ∧ ¬ family.Knows name ∧
      ∀ entry ∈ listed, entry.1 < name → family.Knows entry.1

/-- Whether a name comes before the one where a list stops. -/
def reached (stop : Option String) (name : String) : Bool := stop.all fun bound => name < bound

/-- Up to a bound, the names before it are reached. -/
theorem reached_some {bound name : String} : reached (some bound) name = true ↔ name < bound :=
  decide_eq_true_iff

/-- The run: a list in the order of names takes effect up to where it stops. -/
theorem apply_sorted (sorted : listed.Pairwise fun first second => first.1 < second.1)
    (settings : Settings) :
    ∃ stop, family.Stops listed stop ∧
      family.apply settings listed =
        (Directive.applyAll settings (Settings.listedDirectives family.find?
          (listed.filter fun entry => reached stop entry.1)), stop.map family.refusal) := by
  induction listed generalizing settings with
  | nil => exact ⟨none, List.forall_mem_nil _, rfl⟩
  | cons entry listed inductionHypothesis =>
    obtain ⟨name, on⟩ := entry
    obtain ⟨above, sorted⟩ := List.pairwise_cons.mp sorted
    cases found : family.find? name with
    | none =>
      have unknown : ¬ family.Knows name := by
        rintro ⟨switch, named⟩
        rw [← family.exact, found] at named
        contradiction
      have nothing :
          ((name, on) :: listed).filter (fun entry => reached (some name) entry.1) = [] := by
        simp only [List.filter_eq_nil_iff, reached_some, List.forall_mem_cons]
        exact ⟨lt_irrefl name, fun entry member => lt_asymm (above entry member)⟩
      refine ⟨some name, ⟨List.mem_cons_self, unknown, ?_⟩, ?_⟩
      · rw [List.forall_mem_cons]
        refine ⟨fun below => absurd below (lt_irrefl name), fun entry member below => ?_⟩
        exact absurd below (lt_asymm (above entry member))
      · rw [apply, found, nothing]
        rfl
    | some switch =>
      obtain ⟨stop, stops, applied⟩ :=
        inductionHypothesis sorted ((Directive.ofSwitch on switch).apply settings)
      have known : family.Knows name := ⟨switch, family.exact.mp found⟩
      have below : reached stop name = true := by
        cases stop with
        | none => rfl
        | some bound =>
          obtain ⟨entry, member, rfl⟩ := List.mem_map.mp stops.1
          exact reached_some.mpr (above entry member)
      refine ⟨stop, ?_, ?_⟩
      · cases stop with
        | none => exact List.forall_mem_cons.mpr ⟨known, stops⟩
        | some bound =>
          exact ⟨List.mem_cons_of_mem _ stops.1, stops.2.1,
            List.forall_mem_cons.mpr ⟨fun _ => known, stops.2.2⟩⟩
      · have kept : ((name, on) :: listed).filter (fun entry => reached stop entry.1)
            = (name, on) :: listed.filter fun entry => reached stop entry.1 :=
          List.filter_cons_of_pos below
        rw [apply, found, kept, Settings.listedDirectives, List.filterMap_cons, found]
        exact applied

/-- What a list says about a switch before it stops. -/
def told? (listed : List (String × Bool)) (stop : Option String) (switch : Switch) : Option Bool :=
  (family.name? switch).bind fun name => if reached stop name then listed.lookup name else none

/-- Entries with distinct names are in the strict order of their names. -/
theorem sorted_inOrder (unique : (listed.map Prod.fst).Nodup) :
    (Settings.inOrder listed).Pairwise fun first second => first.1 < second.1 := by
  have different : ((Settings.inOrder listed).map Prod.fst).Nodup :=
    ((Settings.inOrder_perm listed).map Prod.fst).nodup_iff.mpr unique
  have weakly := Text.pairwise_mergeSort Prod.fst listed
  exact (weakly.and (List.pairwise_map.mp different)).imp fun both => lt_of_le_of_ne both.1 both.2

/-- Where entries stop does not depend on their order. -/
theorem stops_inOrder (stop : Option String) :
    family.Stops (Settings.inOrder listed) stop ↔ family.Stops listed stop := by
  cases stop <;> simp only [Stops, Settings.mem_inOrder, List.mem_map]

/-- What a family leaves behind: a switch is as it is listed before the stop, and otherwise as it
was. -/
theorem apply_inOrder (unique : (listed.map Prod.fst).Nodup) (settings : Settings) :
    ∃ stop, family.Stops listed stop ∧
      (family.apply settings (Settings.inOrder listed)).2 = stop.map family.refusal ∧
      (family.apply settings (Settings.inOrder listed)).1.color = settings.color ∧
      ∀ switch, (family.apply settings (Settings.inOrder listed)).1.value switch =
        (family.told? listed stop switch).getD (settings.value switch) := by
  obtain ⟨stop, stops, applied⟩ := family.apply_sorted (sorted_inOrder unique) settings
  refine ⟨stop, (family.stops_inOrder stop).mp stops, by rw [applied], ?_, fun switch => ?_⟩
  · rw [applied]
    exact Directive.color_applyAll _ _
  · rw [applied]
    apply Directive.value_applyAll
    intro on
    simp only [Settings.gives?_listedDirectives, family.exact, List.mem_filter,
      Settings.mem_inOrder, mem_iff_lookup unique, told?, Option.bind_eq_some_iff]
    refine exists_congr fun name => and_congr_right fun _ => ?_
    by_cases before : reached stop name = true <;> simp [before]

/-- A list stops at one name at most. -/
theorem Stops.unique {stop stop' : Option String} (stops : family.Stops listed stop)
    (stops' : family.Stops listed stop') : stop = stop' := by
  have all {name : String} (known : family.Stops listed none)
      (stops : family.Stops listed (some name)) : False := by
    obtain ⟨entry, member, rfl⟩ := List.mem_map.mp stops.1
    exact stops.2.1 (known entry member)
  have least {name name' : String} (stops : family.Stops listed (some name))
      (stops' : family.Stops listed (some name')) : ¬ name < name' := by
    obtain ⟨entry, member, rfl⟩ := List.mem_map.mp stops.1
    exact fun below => stops.2.1 (stops'.2.2 entry member below)
  cases stop with
  | none =>
    cases stop' with
    | none => rfl
    | some name' => exact (all stops stops').elim
  | some name =>
    cases stop' with
    | none => exact (all stops' stops).elim
    | some name' =>
      exact congrArg some (le_antisymm (le_of_not_gt (least stops' stops))
        (le_of_not_gt (least stops stops')))

end Family

/-! ## Files -/

namespace FileSettings

/-- The colour mode of a file can be used: there is none, or it is the name of one. -/
def HasColor (file : FileSettings) : Prop := file.color = "" ∨ ColorMode.IsName file.color

/-- What is first wrong with a file, in the order in which it is applied; `none` if nothing is. -/
inductive FirstFault (file : FileSettings) : Option SettingsError → Prop
  | color (refused : ¬ file.HasColor) : FirstFault file (some (.badColor file.color))
  | warning {name : String} (color : file.HasColor)
      (stops : Family.warnings.Stops file.warnings (some name)) :
      FirstFault file (some (.unknownWarning name))
  | feature {name : String} (color : file.HasColor)
      (warnings : Family.warnings.Stops file.warnings none)
      (stops : Family.features.Stops file.features (some name)) :
      FirstFault file (some (.unknownFeature name))
  | nothing (color : file.HasColor) (warnings : Family.warnings.Stops file.warnings none)
      (features : Family.features.Stops file.features none) : FirstFault file none

variable {file : FileSettings}

/-- There is one first fault. -/
theorem FirstFault.unique {fault fault' : Option SettingsError} (first : file.FirstFault fault)
    (first' : file.FirstFault fault') : fault = fault' := by
  cases first <;> cases first' <;>
    grind [Family.Stops.unique]

/-- A colour is refused exactly when the file has one that is none. -/
theorem ofName?_eq_none_iff : file.color ≠ "" ∧ ColorMode.ofName? file.color = none ↔
    ¬ file.HasColor := by
  rw [HasColor, not_or]
  exact and_congr_right fun some => ColorMode.ofName?_eq_none some

end FileSettings

/-- Whether a switch comes before the entry that an error is about, in the order in which a file is
applied. Where no entry is to blame, the file was not applied at all. -/
def Switch.precedes (switch : Switch) : Option SettingsError → Bool
  | none => true
  | some (.unknownWarning bound) => (Family.warnings.name? switch).any fun name => name < bound
  | some (.unknownFeature bound) => (Family.features.name? switch).all fun name => name < bound
  | some _ => false

namespace Settings

variable {file : FileSettings}

/-- Settings after the entries of a file that come before what is first wrong with it. -/
def upTo (fault : Option SettingsError) (file : FileSettings) (settings : Settings) : Settings where
  color :=
    if file.color = "" ∨ fault = some (.badColor file.color) then settings.color else file.color
  warning warning :=
    if (Switch.warning warning).precedes fault then
      (file.warnings.lookup warning.name).getD (settings.warning warning)
    else settings.warning warning
  feature feature :=
    if (Switch.feature feature).precedes fault then
      (file.features.lookup feature.name).getD (settings.feature feature)
    else settings.feature feature

/-- Up to a fault, the switches that precede it take their values from the file, and the others
stay. -/
theorem value_upTo (fault : Option SettingsError) (file : FileSettings) (settings : Settings)
    (switch : Switch) :
    (settings.upTo fault file).value switch =
      if switch.precedes fault then (file.entry? switch).getD (settings.value switch)
      else settings.value switch := by
  cases switch <;> rfl

/-- Choosing what is told and then taking a default is choosing between the two. -/
theorem getD_ite (condition : Bool) (told : Option Bool) (before : Bool) :
    (if condition = true then told else none).getD before =
      if condition = true then told.getD before else before := by
  cases condition <;> rfl

/-- Settings after the switches of a file. -/
def applySwitches (file : FileSettings) (settings : Settings) : Settings × Option SettingsError :=
  match settings.applyWarnings (inOrder file.warnings) with
  | (settings, some error) => (settings, some error)
  | (settings, none) => settings.applyFeatures (inOrder file.features)

/-- Applying the switches of a file reaches its first fault and everything before it. -/
theorem applySwitches_upTo (isMap : file.IsMap) (color : file.HasColor) (settings : Settings) :
    ∃ fault, file.FirstFault fault ∧ (settings.applySwitches file).2 = fault ∧
      (settings.applySwitches file).1.color = settings.color ∧
      ∀ switch, (settings.applySwitches file).1.value switch =
        if switch.precedes fault then (file.entry? switch).getD (settings.value switch)
        else settings.value switch := by
  obtain ⟨stop, stops, error, kept, values⟩ := Family.warnings.apply_inOrder isMap.1 settings
  rw [← Family.applyWarnings_eq] at error kept values
  rcases warned : settings.applyWarnings (inOrder file.warnings) with ⟨halfway, refused⟩
  rw [warned] at error kept values
  cases stop with
  | some name =>
    have stopped : settings.applySwitches file = (halfway, some (.unknownWarning name)) := by
      rw [applySwitches, warned, show refused = _ from error]
      rfl
    refine ⟨_, .warning color stops, ?_⟩
    rw [stopped]
    refine ⟨rfl, kept, fun switch => (values switch).trans ?_⟩
    cases switch with
    | feature feature => rfl
    | warning warning => exact getD_ite (Family.reached (some name) warning.name) _ _
  | none =>
    obtain ⟨stop, stops', error', kept', values'⟩ := Family.features.apply_inOrder isMap.2 halfway
    rw [← Family.applyFeatures_eq] at error' kept' values'
    have went : settings.applySwitches file = halfway.applyFeatures (inOrder file.features) := by
      rw [applySwitches, warned, show refused = _ from error]
      rfl
    cases stop with
    | none =>
      refine ⟨none, .nothing color stops stops', ?_⟩
      rw [went, kept', kept]
      refine ⟨error', rfl, fun switch => (values' switch).trans ?_⟩
      rw [values]
      cases switch <;> rfl
    | some name =>
      refine ⟨_, .feature color stops stops', ?_⟩
      rw [went, kept', kept]
      refine ⟨error', rfl, fun switch => (values' switch).trans ?_⟩
      rw [values]
      cases switch with
      | warning warning => rfl
      | feature feature => exact getD_ite (Family.reached (some name) feature.name) _ _

/-- A file is applied up to what is first wrong with it. -/
theorem applyFile_upTo (isMap : file.IsMap) (settings : Settings) :
    ∃ fault, file.FirstFault fault ∧
      settings.applyFile file = (settings.upTo fault file, fault) := by
  by_cases color : file.HasColor
  · have colored : settings.applyFile file =
        applySwitches file (if file.color = "" then settings
          else { settings with color := file.color }) :=
      if_neg (mt FileSettings.ofName?_eq_none_iff.mp (not_not_intro color))
    generalize start : (if file.color = "" then settings
      else { settings with color := file.color }) = started at colored
    have values (switch : Switch) : started.value switch = settings.value switch := by
      rw [← start]
      split
      · rfl
      · cases switch <;> rfl
    obtain ⟨fault, first, error, kept, switches⟩ := applySwitches_upTo isMap color started
    refine ⟨fault, first, ?_⟩
    rw [colored]
    refine Prod.ext (eq_of_values ?_ fun switch => ?_) error
    · have blameless : ¬ fault = some (.badColor file.color) := by
        rintro rfl
        cases first
        contradiction
      rw [kept, ← start]
      by_cases none : file.color = "" <;> simp [upTo, none, blameless]
    · rw [switches, value_upTo, values]
  · refine ⟨_, .color color, ?_⟩
    rw [applyFile, if_pos (FileSettings.ofName?_eq_none_iff.mpr color)]
    refine Prod.ext (eq_of_values ?_ fun switch => ?_) rfl
    · simp [upTo]
    · rw [value_upTo]
      rfl

/-- What a file that can be read and decoded lists is applied; from any other file nothing is. -/
theorem loadFrom_cases {decode : FileDecoder} (maps : decode.YieldsMaps) (settings : Settings)
    (tree : FileTree) (path : String) :
    (∀ problem, tree.read path = .error problem →
      ∃ error, settings.loadFrom decode tree path = (settings, some error)) ∧
    (∀ content error, tree.read path = .ok content →
      decode (Text.decode content) = .error error →
      settings.loadFrom decode tree path = (settings, some error)) ∧
    ∀ content file, tree.read path = .ok content → decode (Text.decode content) = .ok file →
      file.IsMap ∧ settings.loadFrom decode tree path = settings.applyFile file := by
  refine ⟨?_, ?_, ?_⟩
  · intro problem failed
    rw [loadFrom, failed]
    dsimp only
    split
    · exact ⟨_, rfl⟩
    · exact ⟨_, rfl⟩
  · intro content error read refused
    simp only [loadFrom, read, load, refused]
  · intro content file read decoded
    refine ⟨maps decoded, ?_⟩
    simp only [loadFrom, read, load, decoded]

/-- Loading stops at the first fault. However files are decoded, as long as what is decoded lists a
colour mode and two maps from names, a file that cannot be read or decoded changes nothing. Any other
is applied up to what is first wrong with it in the order of the colour mode, the warnings by name
and the features by name: this is the error, what comes before it has taken effect, and nothing else
has changed. If nothing is wrong, all listed switches have the listed values, the colour mode is
replaced if there is one, and all else is unchanged. TOML documents are decoded in such a way. -/
theorem loading_stops_at_fault (settings : Settings) :
    (∀ file : FileSettings, file.IsMap → ∃ fault,
      (∀ other, file.FirstFault other ↔ other = fault) ∧
      settings.applyFile file = (settings.upTo fault file, fault) ∧
      (fault = none →
        (settings.applyFile file).1.color =
          (if file.color = "" then settings.color else file.color) ∧
        ∀ switch, (settings.applyFile file).1.value switch =
          (file.entry? switch).getD (settings.value switch))) ∧
    (∀ decode : FileDecoder, decode.YieldsMaps → ∀ tree path,
      (∀ problem, tree.read path = .error problem →
        ∃ error, settings.loadFrom decode tree path = (settings, some error)) ∧
      (∀ content error, tree.read path = .ok content →
        decode (Text.decode content) = .error error →
        settings.loadFrom decode tree path = (settings, some error)) ∧
      ∀ content file, tree.read path = .ok content → decode (Text.decode content) = .ok file →
        file.IsMap ∧ settings.loadFrom decode tree path = settings.applyFile file) ∧
    FileDecoder.YieldsMaps FileSettings.ofText := by
  refine ⟨fun file isMap => ?_, fun decode maps => settings.loadFrom_cases maps,
    FileSettings.ofText_yieldsMaps⟩
  obtain ⟨fault, first, applied⟩ := applyFile_upTo isMap settings
  refine ⟨fault, fun other => ⟨fun also => also.unique first, fun same => same ▸ first⟩, applied, ?_⟩
  rintro rfl
  rw [applied]
  exact ⟨by simp [upTo], fun switch => value_upTo none file settings switch⟩

/-- A file with an unknown feature between two that are known. -/
def strayFeature : FileSettings where
  color := "never"
  warnings := [("shadow", true), ("extra", false)]
  features := [("ordinal-funcs", false), ("ghost", true), ("eof-literal", false)]

/-- The feature with the lesser name is switched off, and the one with the greater name is not,
although it is listed first. -/
theorem loading_stops_at_fault_strayFeature :
    strayFeature.IsMap ∧
      (applyFile {} strayFeature).2 = some (.unknownFeature "ghost") ∧
      (applyFile {} strayFeature).1.color = "never" ∧
      Warning.all.filter (applyFile {} strayFeature).1.warning =
        [.programName, .overflow, .shadow] ∧
      Feature.all.filter (applyFile {} strayFeature).1.feature =
        [.nestedComments, .ordinalFunctions] := by
  have isMap : strayFeature.IsMap := ⟨by decide, by decide⟩
  have known : Family.warnings.Stops strayFeature.warnings none := by
    simp only [Family.Stops, strayFeature, List.forall_mem_cons]
    exact ⟨⟨.warning .shadow, rfl⟩, ⟨.warning .extra, rfl⟩, List.forall_mem_nil _⟩
  have unknown : ¬ Family.features.Knows "ghost" := by
    rintro ⟨switch, named⟩
    rcases switch with warning | feature
    · contradiction
    · cases feature <;> exact absurd named (by decide)
  have stops : Family.features.Stops strayFeature.features (some "ghost") := by
    refine ⟨by decide, unknown, ?_⟩
    simp only [strayFeature, List.forall_mem_cons]
    exact ⟨fun _ => ⟨.feature .ordinalFunctions, rfl⟩, fun below => absurd below (lt_irrefl _),
      fun _ => ⟨.feature .endOfFileLiteral, rfl⟩, List.forall_mem_nil _⟩
  obtain ⟨fault, exactly, applied, -⟩ := (loading_stops_at_fault {}).1 strayFeature isMap
  obtain rfl := (exactly _).mp (.feature (.inr (.inr (.inr rfl))) known stops)
  rw [applied]
  exact ⟨isMap, rfl, by decide, by decide, by decide⟩

/-- The text of a file with an unknown warning behind a known one. -/
def strayWarning : String := "Color = \"never\"\n[Warnings]\nextra = false\nnope = true\n"

/-- Loading a file fails, and yet the colour mode and a warning are not what they were. -/
theorem failed_load_leaves_traces :
    (load FileSettings.ofText {} strayWarning.toList).2 = some (.unknownWarning "nope") ∧
      (load FileSettings.ofText {} strayWarning.toList).1.color ≠ ({} : Settings).color ∧
      (load FileSettings.ofText {} strayWarning.toList).1.warning .extra ≠
        ({} : Settings).warning .extra := by
  have decoded : FileSettings.ofText strayWarning.toList = .ok
      { color := "never", warnings := [("extra", false), ("nope", true)] } := by
    cbv
  have stops : applyFile {} { color := "never", warnings := [("extra", false), ("nope", true)] } =
      (({ color := "never" } : Settings).setWarning .extra false, some (.unknownWarning "nope")) := by
    cbv
  rw [load, decoded]
  dsimp only
  rw [stops]
  exact ⟨rfl, by decide, by decide⟩

end Settings

end WinZig
