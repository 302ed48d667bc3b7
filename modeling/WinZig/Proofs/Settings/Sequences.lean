import WinZig.Proofs.Settings.Directives
import WinZig.Proofs.Texts

/-!
# What a sequence of names says

Every switch has the value that was told last. For a warning its own names come before those for all
warnings, wherever these stand; a bare `all` counts among its own names. For a feature there are its
own names only. Names that tell nothing about a switch leave it as it is, so a sequence can be read
for each switch alone.

A text is such a sequence: its words, each without one leading hyphen.
-/

namespace WinZig

open Text

/-! ## Words of a text -/

namespace Text

variable {gap word text : List Char} {held : List (List Char)}

/-- A text holds words: they are not empty, there is no white space in them, and white space stands
between them and perhaps at both ends. -/
inductive Holds : List Char → List (List Char) → Prop
  | nil {gap : List Char} (blank : ∀ c ∈ gap, isSpace c = true) : Holds gap []
  | cons {gap word text : List Char} {held : List (List Char)} (blank : ∀ c ∈ gap, isSpace c = true)
      (nonempty : word ≠ []) (solid : ∀ c ∈ word, isSpace c = false)
      (apart : ∀ c ∈ text.head?, isSpace c = true) (others : Holds text held) :
      Holds (gap ++ (word ++ text)) (word :: held)

/-- No word goes on over white space. -/
theorem words_append_space {c : Char} (space : isSpace c = true) (before behind : List Char) :
    words (before ++ c :: behind) = words before ++ words behind := by
  rw [words, List.splitOnP_append_cons before behind space, List.filter_append]
  rfl

/-- White space in front adds no word. -/
theorem words_gap (blank : ∀ c ∈ gap, isSpace c = true) (text : List Char) :
    words (gap ++ text) = words text := by
  induction gap with
  | nil => rfl
  | cons c gap inductionHypothesis =>
    rw [List.forall_mem_cons] at blank
    exact (words_append_space blank.1 [] _).trans (inductionHypothesis blank.2)

/-- A text without white space is one word. -/
theorem words_solid (nonempty : word ≠ []) (solid : ∀ c ∈ word, isSpace c = false) :
    words word = [word] := by
  rw [words, List.splitOnP_eq_singleton solid]
  simp [nonempty]

/-- A word in front of white space, or of nothing, is the first one. -/
theorem words_word (nonempty : word ≠ []) (solid : ∀ c ∈ word, isSpace c = false)
    (apart : ∀ c ∈ text.head?, isSpace c = true) : words (word ++ text) = word :: words text := by
  cases text with
  | nil => rw [List.append_nil, words_solid nonempty solid]; rfl
  | cons c text =>
    have space : isSpace c = true := apart c rfl
    have behind : words (c :: text) = words text := words_append_space space [] text
    rw [words_append_space space, words_solid nonempty solid, behind]
    rfl

/-- The words of a text are those it holds. -/
theorem words_of_holds (holds : Holds text held) : words text = held := by
  induction holds with
  | @nil gap blank =>
    have none := words_gap blank []
    rwa [List.append_nil] at none
  | cons blank nonempty solid apart others inductionHypothesis =>
    rw [words_gap blank, words_word nonempty solid apart, inductionHypothesis]

/-- Every text holds words.

Proof: by induction on the text. White space in front joins the gap; any other character joins the
first word if that stands at the front, and is a word by itself if not. -/
theorem exists_holds (text : List Char) : ∃ held, Holds text held := by
  induction text with
  | nil => exact ⟨[], .nil (List.forall_mem_nil _)⟩
  | cons c text inductionHypothesis =>
    obtain ⟨held, holds⟩ := inductionHypothesis
    cases space : isSpace c with
    | true =>
      cases holds with
      | nil blank => exact ⟨[], .nil (List.forall_mem_cons.mpr ⟨space, blank⟩)⟩
      | cons blank nonempty solid apart others =>
        exact ⟨_, .cons (List.forall_mem_cons.mpr ⟨space, blank⟩) nonempty solid apart others⟩
    | false =>
      have single : ∀ d ∈ [c], isSpace d = false := List.forall_mem_singleton.mpr space
      have alone (apart : ∀ d ∈ text.head?, isSpace d = true) : Holds (c :: text) ([c] :: held) :=
        .cons (List.forall_mem_nil _) (List.cons_ne_nil c []) single apart holds
      cases holds with
      | nil blank => exact ⟨_, alone fun d first => blank d (List.mem_of_mem_head? first)⟩
      | @cons gap word text held blank nonempty solid apart others =>
        cases gap with
        | nil =>
          exact ⟨_, .cons (List.forall_mem_nil _) (List.cons_ne_nil c word)
            (List.forall_mem_cons.mpr ⟨space, solid⟩) apart others⟩
        | cons d gap =>
          refine ⟨_, alone fun e first => ?_⟩
          obtain rfl : d = e := Option.some.inj first
          exact blank d List.mem_cons_self

end Text

/-! ## What a name says -/

/-- What a name says about a warning by itself. -/
def Warning.told? (warning : Warning) (name : String) : Option Bool :=
  if name = "W" ++ warning.name ∨ name = warning.name ∨ name = "all" then some true
  else if name = "Wno-" ++ warning.name then some false
  else none

/-- What a name says about a feature. -/
def Feature.told? (feature : Feature) (name : String) : Option Bool :=
  if name = "F" ++ feature.name then some true
  else if name = "Fno-" ++ feature.name then some false
  else none

/-- What a name says about all warnings, if it comes before the names of single ones. -/
def Settings.allTold? (name : String) : Option Bool :=
  if name = "Wall" then some true else if name = "Wno-all" then some false else none

/-- One of two alternatives that exclude each other is taken exactly when it holds. -/
theorem ite_eq_some_iff {positive negative : Prop} [Decidable positive] [Decidable negative]
    (apart : negative → ¬ positive) {on : Bool} :
    (if positive then some true else if negative then some false else none) = some on ↔
      on = true ∧ positive ∨ on = false ∧ negative := by
  by_cases said : positive
  · have other : ¬ negative := fun denied => apart denied said
    simp [said, other, eq_comm]
  · by_cases denied : negative <;> simp [said, denied, eq_comm]

/-- A warning is told on by its flag, its name or `all`, and off by its flag. -/
theorem Warning.told?_eq_some {warning : Warning} {name : String} {on : Bool} :
    warning.told? name = some on ↔
      name = Switch.flag on (.warning warning) ∨
        on = true ∧ (name = warning.name ∨ name = "all") := by
  have apart : name = "Wno-" ++ warning.name →
      ¬ (name = "W" ++ warning.name ∨ name = warning.name ∨ name = "all") := by
    rintro rfl
    cases warning <;> decide
  rw [told?, ite_eq_some_iff apart]
  cases on <;> simp [Switch.flag]

/-- A feature is told by its flags. -/
theorem Feature.told?_eq_some {feature : Feature} {name : String} {on : Bool} :
    feature.told? name = some on ↔ name = Switch.flag on (.feature feature) := by
  have apart : name = "Fno-" ++ feature.name → ¬ name = "F" ++ feature.name := by
    rintro rfl
    cases feature <;> decide
  rw [told?, ite_eq_some_iff apart]
  cases on <;> simp [Switch.flag]

/-- All warnings are told by the sweeping flags. -/
theorem Settings.allTold?_eq_some {name : String} {on : Bool} :
    allTold? name = some on ↔ name = sweepingFlag on := by
  have apart : name = "Wno-all" → ¬ name = "Wall" := by
    rintro rfl
    decide
  rw [allTold?, ite_eq_some_iff apart]
  cases on <;> simp [sweepingFlag]

namespace Directive

variable {on value : Bool} {warning : Warning} {feature : Feature} {name : String}
  {word : List Char}

/-- Words about warnings give a warning a value only by its name or `all`. -/
theorem gives?_aboutWarnings
    (gives : (aboutWarnings word value).gives? (.warning warning) = some on) :
    value = on ∧ (word = "all".toList ∨ word = warning.name.toList) := by
  unfold aboutWarnings at gives
  split at gives
  · next all => exact ⟨Option.some.inj gives, .inl all⟩
  · split at gives
    · next found known =>
      change (ofSwitch value (.warning found)).gives? _ = _ at gives
      obtain ⟨same, rfl⟩ := gives?_ofSwitch.mp gives
      cases same
      have spelled := congrArg String.toList (Warning.ofName?_eq_some.mp known)
      rw [String.toList_ofList] at spelled
      exact ⟨rfl, .inr spelled.symm⟩
    · contradiction

/-- Words about features give a feature a value only by its name. -/
theorem gives?_aboutFeatures
    (gives : (aboutFeatures word value).gives? (.feature feature) = some on) :
    value = on ∧ word = feature.name.toList := by
  unfold aboutFeatures at gives
  split at gives
  · next found known =>
    change (ofSwitch value (.feature found)).gives? _ = _ at gives
    obtain ⟨same, rfl⟩ := gives?_ofSwitch.mp gives
    cases same
    have spelled := congrArg String.toList (Feature.ofName?_eq_some.mp known)
    rw [String.toList_ofList] at spelled
    exact ⟨rfl, spelled.symm⟩
  · contradiction

/-- Words about warnings leave features. -/
theorem gives?_aboutWarnings_feature (word : List Char) (value : Bool) (feature : Feature) :
    (aboutWarnings word value).gives? (.feature feature) = none := by
  unfold aboutWarnings
  split
  · rfl
  · split <;> rfl

/-- Words about features leave warnings. -/
theorem gives?_aboutFeatures_warning (word : List Char) (value : Bool) (warning : Warning) :
    (aboutFeatures word value).gives? (.warning warning) = none := by
  unfold aboutFeatures
  split <;> rfl

/-- What a word directs about a warning is what it says as a name. -/
theorem gives?_ofWord_warning :
    (ofWord name.toList).gives? (.warning warning) = some on ↔
      warning.told? name = some on ∨ Settings.allTold? name = some on := by
  rw [Warning.told?_eq_some, Settings.allTold?_eq_some]
  constructor
  · intro gives
    unfold ofWord at gives
    split at gives
    · next rest spelled =>
      split at gives
      · next word off =>
        rw [after?_eq_some.mp off] at spelled
        obtain ⟨rfl, rfl | rfl⟩ := gives?_aboutWarnings gives
        · exact .inr (String.ext spelled)
        · exact .inl (.inl (String.ext (by simp [spelled, Switch.flag])))
      · obtain ⟨rfl, rfl | rfl⟩ := gives?_aboutWarnings gives
        · exact .inr (String.ext spelled)
        · exact .inl (.inl (String.ext (by simp [spelled, Switch.flag])))
    · split at gives <;> simp [gives?_aboutFeatures_warning] at gives
    · obtain ⟨rfl, all | own⟩ := gives?_aboutWarnings gives
      · exact .inl (.inr ⟨rfl, .inr (String.ext all)⟩)
      · exact .inl (.inr ⟨rfl, .inl (String.ext own)⟩)
  · rintro ((rfl | ⟨rfl, rfl | rfl⟩) | rfl)
    · rw [Switch.ofWord_flag]
      exact gives?_ofSwitch.mpr ⟨rfl, rfl⟩
    · cases warning <;> decide +kernel
    · rfl
    · rw [Settings.ofWord_sweepingFlag]
      rfl

/-- What a word directs about a feature is what it says as a name. -/
theorem gives?_ofWord_feature :
    (ofWord name.toList).gives? (.feature feature) = some on ↔ feature.told? name = some on := by
  rw [Feature.told?_eq_some]
  constructor
  · intro gives
    unfold ofWord at gives
    split at gives
    · split at gives <;> simp [gives?_aboutWarnings_feature] at gives
    · next rest spelled =>
      split at gives
      · next word off =>
        rw [after?_eq_some.mp off] at spelled
        obtain ⟨rfl, rfl⟩ := gives?_aboutFeatures gives
        exact String.ext (by simp [spelled, Switch.flag])
      · obtain ⟨rfl, rfl⟩ := gives?_aboutFeatures gives
        exact String.ext (by simp [spelled, Switch.flag])
    · simp [gives?_aboutWarnings_feature] at gives
  · rintro rfl
    rw [Switch.ofWord_flag]
    exact gives?_ofSwitch.mpr ⟨rfl, rfl⟩

end Directive

namespace Switch

variable {switch : Switch} {name : String} {on : Bool}

/-- What a name says about a switch by itself. -/
def told? : Switch → String → Option Bool
  | warning found => found.told?
  | feature found => found.told?

/-- What a name says about a switch along with all warnings. -/
def swept? : Switch → String → Option Bool
  | warning _ => Settings.allTold?
  | feature _ => fun _ => none

/-- The word of a name gives a switch what the name tells it, by itself or with all others. -/
theorem gives?_ofWord :
    (Directive.ofWord name.toList).gives? switch = some on ↔
      switch.told? name = some on ∨ switch.swept? name = some on := by
  cases switch with
  | warning warning => exact Directive.gives?_ofWord_warning
  | feature feature => simp [Directive.gives?_ofWord_feature, told?, swept?]

/-- A name is sweeping exactly when it tells all warnings something. -/
theorem isSweeping_eq_true :
    Settings.isSweeping name.toList = true ↔ ∃ on, Settings.allTold? name = some on := by
  simp only [Settings.allTold?_eq_some, Bool.exists_bool, Settings.sweepingFlag,
    Settings.isSweeping, decide_eq_true_eq, ← String.ext_iff]
  simp [or_comm]

/-- A name for all warnings is not one of a single switch. -/
theorem told?_of_isSweeping (sweeping : Settings.isSweeping name.toList = true) :
    switch.told? name = none := by
  obtain ⟨on, told⟩ := isSweeping_eq_true.mp sweeping
  obtain rfl := Settings.allTold?_eq_some.mp told
  rcases switch with warning | feature
  · cases on <;> cases warning <;> decide
  · cases on <;> cases feature <;> decide

/-- A name that is not sweeping sweeps no switch. -/
theorem swept?_of_not_isSweeping (single : Settings.isSweeping name.toList = false) :
    switch.swept? name = none := by
  cases switch with
  | warning warning =>
    refine Option.eq_none_iff_forall_ne_some.mpr fun on told => ?_
    rw [isSweeping_eq_true.mpr ⟨on, told⟩] at single
    contradiction
  | feature feature => rfl

end Switch

/-! ## Sequences -/

/-- After some directives a switch is as the last of them about it says.

Proof: by induction on the directives. The first one counts only if none of the others is about the
switch. -/
theorem Directive.value_applyAll_last (directives : List Directive) (settings : Settings)
    (switch : Switch) :
    (applyAll settings directives).value switch =
      (directives.filterMap (gives? switch)).getLast?.getD (settings.value switch) := by
  induction directives generalizing settings with
  | nil => rfl
  | cons directive directives inductionHypothesis =>
    refine (inductionHypothesis _).trans ?_
    rw [value_apply, List.filterMap_cons]
    cases directive.gives? switch with
    | none => rfl
    | some on => simp [List.getLast?_cons]

namespace Settings

open Directive

variable {settings : Settings} {names names' : List String} {name : String}

/-- What is told last by a sequence of names. -/
def lastTold? (told? : String → Option Bool) (names : List String) : Option Bool :=
  (names.filterMap told?).getLast?

/-- The own directives give a switch what it is told by name. -/
theorem filterMap_ownDirectives (switch : Switch) (names : List String) :
    (ownDirectives names).filterMap (gives? switch) = names.filterMap switch.told? := by
  simp only [ownDirectives, List.filterMap_map, List.filterMap_filter]
  congr 1
  funext name
  cases sweeping : isSweeping name.toList with
  | true => simp [sweeping, Switch.told?_of_isSweeping sweeping]
  | false =>
    refine Option.ext fun on => Iff.trans ?_ (or_iff_left (b := switch.swept? name = some on) ?_)
    · simp [sweeping, Switch.gives?_ofWord]
    · simp [Switch.swept?_of_not_isSweeping sweeping]

/-- The sweeping directives give a switch what it is told with all others. -/
theorem filterMap_sweepingDirectives (switch : Switch) (names : List String) :
    (sweepingDirectives names).filterMap (gives? switch) = names.filterMap switch.swept? := by
  simp only [sweepingDirectives, List.filterMap_map, List.filterMap_filter]
  congr 1
  funext name
  cases sweeping : isSweeping name.toList with
  | true =>
    refine Option.ext fun on => Iff.trans ?_ (or_iff_right (a := switch.told? name = some on) ?_)
    · simp [sweeping, Switch.gives?_ofWord]
    · simp [Switch.told?_of_isSweeping sweeping]
  | false => simp [sweeping, Switch.swept?_of_not_isSweeping sweeping]

/-- A switch is as it was told last by its own names, else along with all warnings, else as it
was. -/
theorem value_applyNames_last (settings : Settings) (names : List String) (switch : Switch) :
    (settings.applyNames names).value switch =
      ((lastTold? switch.told? names).or (lastTold? switch.swept? names)).getD
        (settings.value switch) := by
  rw [applyNames_eq, value_applyAll_last, value_applyAll_last, filterMap_ownDirectives,
    filterMap_sweepingDirectives, Option.getD_or]
  rfl

/-- Without anything told nothing is told last. -/
theorem lastTold?_none (names : List String) : lastTold? (fun _ => none) names = none := by
  simp [lastTold?]

/-- The names and descriptions of all switches. -/
def labels (settings : Settings) : List (String × String) :=
  (settings.warningGroup.entries ++ settings.featureGroup.entries).map fun entry =>
    (entry.name, entry.usage)

/-- Whether a name is one for all warnings that comes before the others. -/
def isForAll (name : String) : Bool := (allTold? name).isSome

/-- A word without one leading hyphen, as a name. -/
def nameOfWord : List Char → String
  | '-' :: rest => String.ofList rest
  | word => String.ofList word

/-- Words lose one leading hyphen and are applied as names. -/
theorem applyWords_map_dropFront (settings : Settings) (words : List (List Char)) :
    settings.applyWords (words.map (dropFront ['-']))
      = settings.applyNames (words.map nameOfWord) := by
  have same : (fun word => (nameOfWord word).toList) = dropFront ['-'] := by
    funext word
    cases word with
    | nil => rfl
    | cons c word =>
      by_cases hyphen : c = '-'
      · simp [nameOfWord, dropFront, after?, hyphen]
      · simp [nameOfWord, dropFront, after?, hyphen, Ne.symm hyphen]
  rw [applyNames, List.map_map]
  exact congrArg (fun read => settings.applyWords (words.map read)) same.symm

/-- The two tests for names about all warnings agree. -/
theorem isForAll_eq (name : String) : isForAll name = isSweeping name.toList := by
  rw [Bool.eq_iff_iff, isForAll, Option.isSome_iff_exists, Switch.isSweeping_eq_true]

/-- Only the order of the names for all warnings, and the order of the others, matter. -/
theorem applyNames_congr (forAll : names'.filter isForAll = names.filter isForAll)
    (others : names'.filter (!isForAll ·) = names.filter (!isForAll ·)) (settings : Settings) :
    settings.applyNames names' = settings.applyNames names := by
  have sweeping (names : List String) : (names.map String.toList).filter isSweeping
      = (names.filter isForAll).map String.toList := by
    rw [List.filter_map, funext isForAll_eq]
    rfl
  have single (names : List String) : (names.map String.toList).filter (!isSweeping ·)
      = (names.filter (!isForAll ·)).map String.toList := by
    rw [List.filter_map, funext isForAll_eq]
    rfl
  simp only [applyNames, applyWords, sweeping, single, forAll, others]

/-- What a sequence of names means. -/
structure TakesLast (settings : Settings) (names : List String) : Prop where
  /-- A warning is as the last of its own names says, else as the last name for all warnings does,
  else as before. -/
  warnings : ∀ warning : Warning, (settings.applyNames names).warning warning =
    ((lastTold? warning.told? names).or (lastTold? allTold? names)).getD (settings.warning warning)
  /-- A feature is as the last of its names says, else as before. -/
  features : ∀ feature : Feature, (settings.applyNames names).feature feature =
    (lastTold? feature.told? names).getD (settings.feature feature)
  /-- Nothing else changes. -/
  color : (settings.applyNames names).color = settings.color
  labels : (settings.applyNames names).labels = settings.labels
  /-- A name that says nothing about any switch can stand anywhere. -/
  silent : ∀ other, (∀ warning : Warning, warning.told? other = none) → allTold? other = none →
    (∀ feature : Feature, feature.told? other = none) → ∀ before behind, before ++ behind = names →
      settings.applyNames (before ++ other :: behind) = settings.applyNames names
  /-- The names for all warnings can be moved anywhere, if they stay in order. -/
  moved : ∀ names', names'.filter isForAll = names.filter isForAll →
    names'.filter (!isForAll ·) = names.filter (!isForAll ·) →
      settings.applyNames names' = settings.applyNames names

/-- A name that tells nothing changes nothing about what is told last. -/
theorem lastTold?_silent {told? : String → Option Bool} (silent : told? name = none)
    (before behind : List String) :
    lastTold? told? (before ++ name :: behind) = lastTold? told? (before ++ behind) := by
  simp [lastTold?, silent]

/-- A name that tells no switch anything can be left out. -/
theorem applyNames_silent (silent : ∀ switch : Switch, switch.told? name = none)
    (sweepsNothing : allTold? name = none) (settings : Settings) (before behind : List String) :
    settings.applyNames (before ++ name :: behind) = settings.applyNames (before ++ behind) := by
  apply eq_of_values
  · rw [color_applyNames, color_applyNames]
  · intro switch
    have swept : switch.swept? name = none := by
      cases switch with
      | warning warning => exact sweepsNothing
      | feature feature => rfl
    rw [value_applyNames_last, value_applyNames_last, lastTold?_silent (silent switch),
      lastTold?_silent swept]

/-- In every sequence of names each switch takes the value that it is told last. So it does in a
text: its words, each without one leading hyphen, are such a sequence. -/
theorem applyNames_takes_last (settings : Settings) :
    (∀ names, settings.TakesLast names) ∧
    ∀ text : String, (∃ words, Holds text.toList words) ∧
      ∀ words, Holds text.toList words →
        settings.applyText text = settings.applyNames (words.map nameOfWord) := by
  constructor
  · intro names
    constructor
    case warnings => exact fun warning => value_applyNames_last settings names (.warning warning)
    case features =>
      intro feature
      refine (value_applyNames_last settings names (.feature feature)).trans ?_
      rw [show lastTold? (Switch.swept? (.feature feature)) names = none from lastTold?_none names,
        Option.or_none]
      rfl
    case color => exact color_applyNames settings names
    case labels => rfl
    case silent =>
      rintro other warnings sweepsNothing features before behind rfl
      refine applyNames_silent (fun switch => ?_) sweepsNothing settings before behind
      cases switch with
      | warning warning => exact warnings warning
      | feature feature => exact features feature
    case moved => exact fun names' forAll others => applyNames_congr forAll others settings
  · intro text
    refine ⟨exists_holds text.toList, fun words holds => ?_⟩
    rw [applyText, words_of_holds holds, applyWords_map_dropFront]

/-- A text of directives. An exception stands before the rule, a bare name behind its opposite, and
one word has two hyphens, so that it says nothing. -/
def someDirectives : String :=
  " -Wno-extra\t-Wno-shadow shadow\n --Wno-overflow -Wall -Fno-eof-literal "

/-- The names in this text. -/
def someNames : List String :=
  ["Wno-extra", "Wno-shadow", "shadow", "-Wno-overflow", "Wall", "Fno-eof-literal"]

/-- Words in a text tell some switches more than once, and each takes what was told last. -/
theorem applyNames_takes_last_someDirectives :
    Warning.all.filter (applyText {} someDirectives).warning
      = [.programName, .overflow, .caseRange, .shadow] ∧
    Feature.all.filter (applyText {} someDirectives).feature
      = [.nestedComments, .ordinalFunctions] := by
  obtain ⟨sequences, texts⟩ := applyNames_takes_last {}
  obtain ⟨⟨words, holds⟩, reads⟩ := texts someDirectives
  have names : words.map nameOfWord = someNames := by
    rw [← words_of_holds holds]
    decide +kernel
  have meaning := sequences someNames
  rw [reads words holds, names, funext meaning.warnings, funext meaning.features]
  exact ⟨by decide +kernel, by decide +kernel⟩

end Settings

end WinZig
