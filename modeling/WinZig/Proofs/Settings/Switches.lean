import WinZig.Compiler.Command
import WinZig.Proofs.CommandLine.Spellings

/-!
# Switches among other arguments

An argument that names a switch of the settings can stand anywhere among the other arguments of the
command. The others are read as if it were not there, and in the end the switch has been named,
however often it was. So the flags are those of the other arguments alone, with the named switches
turned on, and the order of the switches does not matter.
-/

namespace WinZig

namespace Command

open FlagSet

variable {set flags rest : FlagSet} {name argument spelling : String}
  {names names' options arguments arguments' already : List String}

/-! ## The switches of the settings -/

/-- The names of the flags are distinct. -/
theorem names_unique : (app.flags.shapes.map Prod.fst).Nodup := by decide

/-- All flags about settings are switches. -/
theorem isSwitch_of_isSettingsFlag :
    ∀ shape ∈ app.flags.shapes, isSettingsFlag shape.1 = true → shape.2.2 = true := by decide

/-- An argument names a switch of the settings and gives it no value. -/
structure NamesSwitch (argument name : String) : Prop where
  spelled : argument = "-" ++ name ∨ argument = "--" ++ name
  governs : isSettingsFlag name = true
  bare : '=' ∉ name.toList

/-- A name about settings starts with the letter of its family. -/
theorem exists_family (governs : isSettingsFlag name = true) :
    ∃ family chars, (family = 'W' ∨ family = 'F') ∧ name.toList = family :: chars := by
  unfold isSettingsFlag at governs
  split at governs
  · next chars same => exact ⟨'W', chars, .inl rfl, same⟩
  · next chars same => exact ⟨'F', chars, .inr rfl, same⟩
  · contradiction

/-- A name that is no flag is refused. -/
theorem readName_unknown (bare : '=' ∉ name.toList) (unknown : app.flags.find? name = none)
    (dashes : String) : ∃ error, app.flags.readName dashes name.toList = .refused error := by
  rw [readName, splitValue_bare bare]
  by_cases empty : name = ""
  · exact ⟨.emptyName, by simp [empty]⟩
  · exact ⟨.unknownFlag (dashes ++ name), by simp [unknown]⟩

/-- A flag that is found under a name about settings is a switch. -/
theorem isSwitch_of_find? {flag : Flag} (governs : isSettingsFlag name = true)
    (found : app.flags.find? name = some flag) : flag.content.isSwitch = true := by
  obtain rfl := name_of_find? found
  exact isSwitch_of_isSettingsFlag flag.shape (List.mem_map_of_mem (List.mem_of_find?_eq_some found))
    governs

/-- Behind one hyphen a name is read as one if it is known, and as a shorthand otherwise. -/
theorem read_single {family : Char} {chars : List Char} (letter : family = 'W' ∨ family = 'F')
    (same : name.toList = family :: chars) (set : FlagSet) :
    set.read ("-" ++ name) =
      if (set.find? (splitValue name.toList).1).isSome then set.readName "-" name.toList
      else set.readShorthand family chars := by
  have single : ("-" ++ name).toList = '-' :: family :: chars := by simp [same]
  rw [FlagSet.read, single, same]
  rcases letter with rfl | rfl <;> rfl

/-- Behind two hyphens a name is read as one. -/
theorem read_double {family : Char} {chars : List Char} (same : name.toList = family :: chars)
    (set : FlagSet) : set.read ("--" ++ name) = set.readName "--" name.toList := by
  have double : ("--" ++ name).toList = '-' :: '-' :: family :: chars := by simp [same]
  rw [FlagSet.read, double, same]
  rfl

/-- An argument that names a switch names it as a flag is named. -/
theorem NamesSwitch.isFlagName (named : NamesSwitch argument name) : IsFlagName name := by
  obtain ⟨family, chars, letter, same⟩ := exists_family named.governs
  refine ⟨fun empty => ?_, named.bare, ?_⟩
  · rw [empty] at same
    contradiction
  · rw [same, List.head?_cons]
    rcases letter with rfl | rfl <;> simp

/-- A switch is read by its name, after one hyphen or two. -/
theorem NamesSwitch.read (named : NamesSwitch argument name)
    (known : (app.flags.find? name).isSome = true) :
    app.flags.read argument = .complete name "" := by
  obtain ⟨flag, found⟩ := Option.isSome_iff_exists.mp known
  have switch := isSwitch_of_find? named.governs found
  rcases named.spelled with rfl | rfl
  · rw [read_bare (.inl rfl) named.isFlagName found, if_pos switch]
  · rw [read_bare (.inr rfl) named.isFlagName found, if_pos switch]

/-- An unknown name is refused, for no shorthand is the letter of a family. -/
theorem NamesSwitch.refused (named : NamesSwitch argument name)
    (unknown : app.flags.find? name = none) : ∃ error, app.flags.read argument = .refused error := by
  obtain ⟨spelled, governs, bare⟩ := named
  obtain ⟨family, chars, letter, same⟩ := exists_family governs
  rcases spelled with rfl | rfl
  · have free : ∀ chars, ∃ error, app.flags.readShorthand family chars = .refused error := by
      intro chars
      rcases letter with rfl | rfl <;> exact ⟨_, rfl⟩
    rw [read_single letter same, splitValue_bare bare, unknown]
    exact free chars
  · rw [read_double same]
    exact readName_unknown bare unknown "--"

/-- Only a flag that is no switch waits for a value. -/
theorem isSettingsFlag_of_awaiting (awaiting : app.flags.read argument = .awaiting name spelling) :
    isSettingsFlag name = false := by
  obtain ⟨flag, listed, rfl, valued⟩ := exists_of_read (congrArg Reading.named? awaiting)
  by_contra governs
  have switch := isSwitch_of_isSettingsFlag flag.shape (List.mem_map_of_mem listed)
    (Bool.not_eq_false _ ▸ governs)
  rw [Flag.shape, valued rfl] at switch
  contradiction

/-! ## Argument lists -/

/-- An argument list is made of options among which switches of the settings stand, given by their
names. Options are whatever else the command takes. -/
inductive Interspersed : (names options arguments : List String) → Prop
  | nil : Interspersed [] [] []
  | switch {names options arguments : List String} (argument name : String)
      (named : NamesSwitch argument name) (rest : Interspersed names options arguments) :
      Interspersed (name :: names) options (argument :: arguments)
  | positional {names options arguments : List String} (argument : String)
      (read : app.flags.read argument = .positional) (rest : Interspersed names options arguments) :
      Interspersed names (argument :: options) (argument :: arguments)
  | complete {names options arguments : List String} (argument flag value : String)
      (read : app.flags.read argument = .complete flag value) (foreign : isSettingsFlag flag = false)
      (rest : Interspersed names options arguments) :
      Interspersed names (argument :: options) (argument :: arguments)
  | awaiting {names options arguments : List String} (argument flag spelling value : String)
      (read : app.flags.read argument = .awaiting flag spelling)
      (rest : Interspersed names options arguments) :
      Interspersed names (argument :: value :: options) (argument :: value :: arguments)
  | separator (arguments : List String) :
      Interspersed [] ("--" :: arguments) ("--" :: arguments)

/-- The flags of the command, with no switch of the settings named. -/
structure Plain (set : FlagSet) : Prop where
  shapes : set.shapes = app.flags.shapes
  unnamed : ∀ flag ∈ set.flags, isSettingsFlag flag.name = true → flag.given = false

/-- The flags at the start are plain. -/
theorem plain_start : Plain { app.flags with args := [] } where
  shapes := rfl
  unnamed := by decide

/-- Positional arguments leave flags plain. -/
theorem Plain.keep (plain : Plain set) (arguments : List String) : Plain (set.keep arguments) :=
  ⟨plain.shapes, plain.unnamed⟩

/-- Assigning a flag that is not about settings leaves flags plain. -/
theorem Plain.assign (plain : Plain set) (foreign : isSettingsFlag name = false) (value : String) :
    Plain (set.assign name value).1 := by
  have unique : (set.shapes.map Prod.fst).Nodup := plain.shapes ▸ names_unique
  constructor
  · rw [shapes_assign unique, plain.shapes]
  · intro flag listed governs
    rcases mem_assign listed with own | old
    · rw [own, foreign] at governs
      contradiction
    · exact plain.unnamed flag old governs

/-- Flags that were switched on have the shapes of all flags. -/
theorem shapes_switched (plain : Plain set)
    (governed : ∀ name ∈ already, isSettingsFlag name = true) :
    (set.turnOn already).shapes = app.flags.shapes := by
  rw [← plain.shapes]
  apply shapes_turnOn
  intro shape listed named
  rw [plain.shapes] at listed
  exact isSwitch_of_isSettingsFlag shape listed (governed shape.1 named)

/-- Assigning a known flag about settings turns it on. -/
theorem assign_known {flag : Flag} (shapes : set.shapes = app.flags.shapes)
    (governs : isSettingsFlag name = true) (found : app.flags.find? name = some flag) :
    set.assign name "" = (set.turnOn [name], none) := by
  have same := set.find?_shape name
  rw [shapes, ← app.flags.find?_shape, found] at same
  obtain ⟨flag', found', same⟩ := Option.map_eq_some_iff.mp same
  have switch : flag'.content.isSwitch = flag.content.isSwitch :=
    congrArg (fun shape : String × String × Bool => shape.2.2) same
  exact assign_switch (shapes ▸ names_unique) found' (switch.trans (isSwitch_of_find? governs found))

/-- Reading on behind a flag that is not about settings commutes with what is turned on already. -/
theorem readOn_assign {value : String} {known : Prop} (plain : Plain set)
    (foreign : isSettingsFlag name = false)
    (governed : ∀ name ∈ already, isSettingsFlag name = true)
    (goesOn : ∀ {changed}, Plain changed →
      ((changed.turnOn already).readAll arguments = (flags, none) ↔
        known ∧ ∃ rest, changed.readAll options = (rest, none) ∧ flags = rest.turnOn names)) :
    readOn arguments ((set.turnOn already).assign name value) = (flags, none) ↔
      known ∧ ∃ rest, readOn options (set.assign name value) = (rest, none) ∧
        flags = rest.turnOn names := by
  have unnamed : name ∉ already := by
    intro named
    rw [governed name named] at foreign
    contradiction
  have plain' := plain.assign foreign value
  rw [assign_turnOn unnamed]
  generalize set.assign name value = assigned at plain' ⊢
  rcases assigned with ⟨changed, _ | error⟩
  · exact goesOn plain'
  · simp [readOn]

/-- Switches are turned on, and all else is read as if they were not there.

Proof: by induction along the argument list. The switches turned on so far are kept apart from the
flags that the options alone have led to; both are read alike, as they differ in no shape. -/
theorem readAll_interspersed (line : Interspersed names options arguments) (plain : Plain set)
    (governed : ∀ name ∈ already, isSettingsFlag name = true) :
    (set.turnOn already).readAll arguments = (flags, none) ↔
      (∀ name ∈ names, (app.flags.find? name).isSome = true) ∧
        ∃ rest, set.readAll options = (rest, none) ∧ flags = rest.turnOn (already ++ names) := by
  induction line generalizing set already with
  | nil =>
    simp only [readAll, Prod.mk.injEq, and_true, List.append_nil]
    constructor
    · rintro rfl
      exact ⟨List.forall_mem_nil _, set, rfl, rfl⟩
    · rintro ⟨_, rest, rfl, rfl⟩
      rfl
  | @switch names options arguments argument name named rest inductionHypothesis =>
    have shapes := shapes_switched plain governed
    cases found : app.flags.find? name with
    | none =>
      obtain ⟨error, refused⟩ := named.refused found
      rw [readAll, read_congr shapes, refused]
      simp [found]
    | some flag =>
      have read := (read_congr shapes argument).trans (named.read (Option.isSome_of_mem found))
      have governed' : ∀ other ∈ already ++ [name], isSettingsFlag other = true := by
        rw [List.forall_mem_append, List.forall_mem_singleton]
        exact ⟨governed, named.governs⟩
      rw [readAll_complete read, assign_known shapes named.governs found, turnOn_turnOn]
      refine (inductionHypothesis plain governed').trans ?_
      simp [found, List.append_assoc]
  | @positional names options arguments argument read rest inductionHypothesis =>
    have shapes := shapes_switched plain governed
    have same : set.read argument = .positional := by rw [read_congr plain.shapes, read]
    rw [readAll, readAll, read_congr shapes, read, same]
    exact inductionHypothesis (plain.keep [argument]) governed
  | @complete names options arguments argument flag value read foreign rest inductionHypothesis =>
    have first := (read_congr (shapes_switched plain governed) argument).trans read
    have second := (read_congr plain.shapes argument).trans read
    rw [readAll_complete first, readAll_complete second]
    exact readOn_assign plain foreign governed fun plain' => inductionHypothesis plain' governed
  | @awaiting names options arguments argument flag spelling value read rest inductionHypothesis =>
    have first := (read_congr (shapes_switched plain governed) argument).trans read
    have second := (read_congr plain.shapes argument).trans read
    rw [readAll_awaiting first, readAll_awaiting second]
    exact readOn_assign plain (isSettingsFlag_of_awaiting read) governed
      fun plain' => inductionHypothesis plain' governed
  | separator arguments =>
    have same (set : FlagSet) : set.read "--" = .separator := rfl
    simp only [readAll, same, Prod.mk.injEq, and_true, List.append_nil]
    constructor
    · rintro rfl
      exact ⟨List.forall_mem_nil _, _, rfl, rfl⟩
    · rintro ⟨_, rest, rfl, rfl⟩
      rfl

/-- Reading on behind such a flag starts from plain flags. -/
theorem plain_of_readOn {value : String} (plain : Plain set) (foreign : isSettingsFlag name = false)
    (read : readOn options (set.assign name value) = (rest, none)) :
    ∃ changed, Plain changed ∧ changed.readAll options = (rest, none) := by
  have plain' := plain.assign foreign value
  generalize set.assign name value = assigned at plain' read
  rcases assigned with ⟨changed, _ | error⟩
  · exact ⟨changed, plain', read⟩
  · simp [readOn] at read

/-- Options name no switch of the settings. -/
theorem Interspersed.plain (line : Interspersed names options arguments) (plain : Plain set)
    (read : set.readAll options = (rest, none)) : Plain rest := by
  induction line generalizing set with
  | nil =>
    cases read
    exact plain
  | switch argument name named line inductionHypothesis => exact inductionHypothesis plain read
  | positional argument positional line inductionHypothesis =>
    rw [readAll, read_congr plain.shapes, positional] at read
    exact inductionHypothesis (plain.keep [argument]) read
  | complete argument flag value complete foreign line inductionHypothesis =>
    rw [readAll_complete ((read_congr plain.shapes argument).trans complete)] at read
    obtain ⟨changed, plain', read⟩ := plain_of_readOn plain foreign read
    exact inductionHypothesis plain' read
  | awaiting argument flag spelling value awaiting line inductionHypothesis =>
    rw [readAll_awaiting ((read_congr plain.shapes argument).trans awaiting)] at read
    have foreign := isSettingsFlag_of_awaiting awaiting
    obtain ⟨changed, plain', read⟩ := plain_of_readOn plain foreign read
    exact inductionHypothesis plain' read
  | separator arguments =>
    cases read
    exact plain.keep arguments

/-- Interspersed names are about settings. -/
theorem Interspersed.governed (line : Interspersed names options arguments) :
    ∀ name ∈ names, isSettingsFlag name = true := by
  induction line with
  | nil | separator => exact List.forall_mem_nil _
  | switch argument name named line inductionHypothesis =>
    exact List.forall_mem_cons.mpr ⟨named.governs, inductionHypothesis⟩
  | positional _ _ _ inductionHypothesis | complete _ _ _ _ _ _ inductionHypothesis
  | awaiting _ _ _ _ _ _ inductionHypothesis => exact inductionHypothesis

/-- Permuting switches permutes their names. -/
theorem Interspersed.perm (same : arguments.Perm arguments') :
    ∀ {names}, Interspersed names [] arguments →
      ∃ names', Interspersed names' [] arguments' ∧ names.Perm names' := by
  induction same with
  | nil => exact fun line => ⟨_, line, .refl _⟩
  | cons argument same inductionHypothesis =>
    rintro _ (_ | ⟨_, name, named, line⟩)
    obtain ⟨names', line', same⟩ := inductionHypothesis line
    exact ⟨name :: names', .switch argument name named line', same.cons name⟩
  | swap first second others =>
    rintro _ (_ | ⟨_, name, named, _ | ⟨_, name', named', line⟩⟩)
    exact ⟨_, .switch first name' named' (.switch second name named line), .swap ..⟩
  | trans _ _ former latter =>
    intro names line
    obtain ⟨middle, line', same⟩ := former line
    obtain ⟨last, line'', same'⟩ := latter line'
    exact ⟨last, line'', same.trans same'⟩

/-- An argument list is accepted if its options are and there are such switches, and its flags are
those of the options with the switches turned on. -/
theorem parse_interspersed (line : Interspersed names options arguments) :
    app.flags.parse arguments = (flags, none) ↔
      (∀ name ∈ names, (app.flags.find? name).isSome = true) ∧
        ∃ rest, app.flags.parse options = (rest, none) ∧ flags = rest.turnOn names := by
  rw [parse, ← turnOn_nil { app.flags with args := [] }]
  exact readAll_interspersed line plain_start (List.forall_mem_nil _)

/-- The order of the switches does not matter, nor how often one is named. -/
theorem parse_of_same_switches (line : Interspersed names options arguments)
    (line' : Interspersed names' options arguments') (same : ∀ name, name ∈ names ↔ name ∈ names')
    (accepted : app.flags.parse arguments = (flags, none)) :
    app.flags.parse arguments' = (flags, none) := by
  obtain ⟨known, rest, parsed, rfl⟩ := (parse_interspersed line).mp accepted
  refine (parse_interspersed line').mpr ⟨fun name named => known name ((same name).mpr named), ?_⟩
  exact ⟨rest, parsed, turnOn_congr same rest⟩

/-- The switches that were named are those of the argument list. -/
theorem mem_visited (line : Interspersed names options arguments)
    (accepted : app.flags.parse arguments = (flags, none)) :
    name ∈ (flags.visited.map Flag.name).filter isSettingsFlag ↔ name ∈ names := by
  obtain ⟨known, rest, parsed, rfl⟩ := (parse_interspersed line).mp accepted
  have plain := line.plain plain_start parsed
  have visited : (rest.turnOn names).visited.Perm ((rest.turnOn names).flags.filter Flag.given) :=
    List.mergeSort_perm _ _
  rw [List.mem_filter, List.mem_map]
  constructor
  · rintro ⟨⟨flag, listed, rfl⟩, governs⟩
    obtain ⟨member, given⟩ := List.mem_filter.mp (visited.mem_iff.mp listed)
    obtain ⟨old, earlier, rfl⟩ := List.mem_map.mp member
    by_cases named : old.name ∈ names
    · rw [if_pos named]
      exact named
    · rw [if_neg named] at given governs
      rw [plain.unnamed old earlier governs] at given
      contradiction
  · intro named
    obtain ⟨flag, found⟩ := Option.isSome_iff_exists.mp (known name named)
    have same := rest.find?_shape name
    rw [plain.shapes, ← app.flags.find?_shape, found] at same
    obtain ⟨flag', found', _⟩ := Option.map_eq_some_iff.mp same
    obtain rfl := name_of_find? found'
    refine ⟨⟨flag'.turnedOn, ?_, rfl⟩, line.governed _ named⟩
    refine visited.mem_iff.mpr (List.mem_filter.mpr ⟨List.mem_map.mpr ?_, rfl⟩)
    exact ⟨flag', List.mem_of_find?_eq_some found', if_pos named⟩

end Command

end WinZig
