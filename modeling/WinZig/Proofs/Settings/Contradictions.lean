import WinZig.Proofs.CommandLine.Spellings
import WinZig.Proofs.Settings.Layers
import WinZig.Proofs.Settings.Sequences
import WinZig.Proofs.Texts

/-!
# Switches that are mentioned both ways

The flags of a command line are applied in the order of their names, and only which flags were
mentioned counts: neither the order of the arguments nor the values behind their names. So a switch
that is mentioned by one of its two flags is as this flag says. If it is mentioned by both, the flag
with the greater name decides, and which one that is depends on the spelling of the switch.

Mentions are collected argument by argument, as they are read. A flag that was not named before has
been named after reading exactly if it is mentioned.
-/

namespace WinZig

/-- Taking a value does not mark a flag as given. -/
theorem Flag.given_assign {value : String} {flag changed : Flag}
    (assigned : flag.assign value = .ok changed) : changed.given = flag.given := by
  unfold assign at assigned
  split at assigned
  · cases assigned
    rfl
  · contradiction

namespace FlagSet

variable {set other flags : FlagSet} {name own value argument : String} {arguments : List String}

/-! ## Mentions -/

/-- The flags that arguments mention, each with its value. -/
def mentions (set : FlagSet) : List String → List (String × String)
  | [] => []
  | argument :: rest =>
    match set.read argument with
    | .positional => set.mentions rest
    | .separator | .refused _ => []
    | .complete name value => (name, value) :: set.mentions rest
    | .awaiting name _ =>
      match rest with
      | [] => []
      | value :: rest => (name, value) :: set.mentions rest

/-- Arguments mention the flag of a name. -/
def Mentions (set : FlagSet) (arguments : List String) (name : String) : Prop :=
  name ∈ (set.mentions arguments).map Prod.fst

instance (set : FlagSet) (arguments : List String) (name : String) :
    Decidable (set.Mentions arguments name) :=
  inferInstanceAs (Decidable (name ∈ (set.mentions arguments).map Prod.fst))

/-- A complete argument mentions its flag with its value. -/
theorem mentions_complete (read : set.read argument = .complete name value) (rest : List String) :
    set.mentions (argument :: rest) = (name, value) :: set.mentions rest := by
  rw [mentions, read]

/-- An argument that awaits a value mentions its flag with the next argument. -/
theorem mentions_awaiting {spelling : String} (read : set.read argument = .awaiting name spelling)
    (value : String) (rest : List String) :
    set.mentions (argument :: value :: rest) = (name, value) :: set.mentions rest := by
  rw [mentions, read]

/-- Which flags are mentioned depends on the shapes only. -/
theorem mentions_congr (same : set.shapes = other.shapes) (arguments : List String) :
    set.mentions arguments = other.mentions arguments := by
  fun_induction mentions set arguments with
  | case1 => rfl
  | case2 argument rest read inductionHypothesis =>
    rw [mentions, ← read_congr same, read]
    exact inductionHypothesis
  | case3 argument rest read =>
    rw [mentions, ← read_congr same, read]
  | case4 argument rest error read =>
    rw [mentions, ← read_congr same, read]
  | case5 argument rest name value read inductionHypothesis =>
    rw [read_congr same] at read
    rw [mentions_complete read, inductionHypothesis]
  | case6 argument name spelling read =>
    rw [mentions, ← read_congr same, read]
  | case7 argument name spelling read value rest inductionHypothesis =>
    rw [read_congr same] at read
    rw [mentions_awaiting read, inductionHypothesis]

/-- Whether a flag is mentioned depends on the shapes only. -/
theorem mentions_iff (same : set.shapes = other.shapes) :
    set.Mentions arguments name ↔ other.Mentions arguments name := by
  rw [Mentions, mentions_congr same]
  rfl

/-! ## Flags that were named -/

/-- The names of the flags that arguments have named. -/
def given (set : FlagSet) : List String := (set.flags.filter Flag.given).map Flag.name

/-- Given names are those of given flags. -/
theorem mem_given :
    name ∈ set.given ↔ ∃ flag ∈ set.flags, flag.given = true ∧ flag.name = name := by
  simp [given, and_assoc]

/-- Giving a flag adds its name to the given ones. -/
theorem mem_given_update {change : Flag → Flag}
    (names : ∀ flag ∈ set.flags, flag.name = own →
      (change flag).name = own ∧ (change flag).given = true)
    (known : ∃ flag ∈ set.flags, flag.name = own) :
    name ∈ (set.update own change).given ↔ name ∈ set.given ∨ name = own := by
  rw [mem_given, mem_given]
  constructor
  · rintro ⟨flag, listed, isGiven, rfl⟩
    obtain ⟨old, member, rfl⟩ := List.mem_map.mp listed
    by_cases named : old.name = own
    · right
      rw [if_pos named]
      exact (names old member named).1
    · left
      rw [if_neg named] at isGiven ⊢
      exact ⟨old, member, isGiven, rfl⟩
  · intro before
    by_cases same : name = own
    · obtain ⟨flag, member, named⟩ := known
      obtain ⟨stays, isGiven⟩ := names flag member named
      exact ⟨change flag, List.mem_map.mpr ⟨flag, member, if_pos named⟩, isGiven,
        stays.trans same.symm⟩
    · obtain ⟨old, member, isGiven, rfl⟩ := before.resolve_right same
      exact ⟨old, List.mem_map.mpr ⟨old, member, if_neg same⟩, isGiven, rfl⟩

/-- The step: a flag that is given a value has been named. -/
theorem mem_given_assign (known : ∃ flag ∈ set.flags, flag.name = own) (value : String) :
    name ∈ (set.assign own value).1.given ↔ name ∈ set.given ∨ name = own := by
  have marked : name ∈ (set.mark own).given ↔ name ∈ set.given ∨ name = own :=
    mem_given_update (fun _ _ named => ⟨named, rfl⟩) known
  rcases set.assign_cases own value with same | ⟨flag, changed, found, assigned, replaced⟩
  · rw [same, marked]
  · have named : changed.name = own := (Flag.name_assign assigned).trans (name_of_find? found)
    have isGiven : changed.given = true := by
      rw [find?_mark] at found
      obtain ⟨old, _, rfl⟩ := Option.map_eq_some_iff.mp found
      exact Flag.given_assign assigned
    rw [replaced, mem_given_update (fun _ _ _ => ⟨named, isGiven⟩)
      ⟨flag, List.mem_of_find?_eq_some found, name_of_find? found⟩, marked, or_assoc, or_self]

/-- A flag that is given a value is mentioned, and the others are those behind it. -/
theorem mem_given_of_assign {changed : FlagSet} {rest : List String}
    (distinct : (set.shapes.map Prod.fst).Nodup) (known : ∃ flag ∈ set.flags, flag.name = own)
    (assigned : set.assign own value = (changed, none))
    (mentioned : set.mentions arguments = (own, value) :: set.mentions rest)
    (behind : (changed.shapes.map Prod.fst).Nodup →
      (name ∈ flags.given ↔ name ∈ changed.given ∨ changed.Mentions rest name)) :
    name ∈ flags.given ↔ name ∈ set.given ∨ set.Mentions arguments name := by
  obtain rfl : (set.assign own value).1 = changed := congrArg Prod.fst assigned
  have same := shapes_assign distinct own value
  have first : set.Mentions arguments name ↔ name = own ∨ set.Mentions rest name := by
    simp [Mentions, mentioned]
  rw [behind (same ▸ distinct), mem_given_assign known, first, mentions_iff same, or_assoc]

/-- The run: after arguments that are accepted, the flags that they mention have been named too. -/
theorem mem_given_readAll (distinct : (set.shapes.map Prod.fst).Nodup)
    (accepted : set.readAll arguments = (flags, none)) :
    name ∈ flags.given ↔ name ∈ set.given ∨ set.Mentions arguments name := by
  fun_induction readAll set arguments with
  | case1 set =>
    cases accepted
    simp [Mentions, mentions]
  | case2 set argument rest read inductionHypothesis =>
    have behind := inductionHypothesis distinct accepted
    have same : (set.keep [argument]).shapes = set.shapes := rfl
    rw [mentions_iff same] at behind
    rw [Mentions, mentions, read]
    exact behind
  | case3 set argument rest read =>
    cases accepted
    rw [Mentions, mentions, read]
    simp [keep, given]
  | case4 | case6 | case7 | case9 => cases accepted
  | case5 set argument rest own value read changed assigned inductionHypothesis =>
    obtain ⟨flag, listed, named, _⟩ := exists_of_read (congrArg Reading.named? read)
    exact mem_given_of_assign distinct ⟨flag, listed, named⟩ assigned
      (mentions_complete read rest) fun unique => inductionHypothesis unique accepted
  | case8 set argument own spelling read value rest changed assigned inductionHypothesis =>
    obtain ⟨flag, listed, named, _⟩ := exists_of_read (congrArg Reading.named? read)
    exact mem_given_of_assign distinct ⟨flag, listed, named⟩ assigned
      (mentions_awaiting read value rest) fun unique => inductionHypothesis unique accepted

/-- Visited flags are in the order of their names. -/
theorem visited_sorted (set : FlagSet) : (set.visited.map Flag.name).Pairwise (· ≤ ·) := by
  rw [List.pairwise_map]
  exact Text.pairwise_mergeSort Flag.name _

/-- Exactly the flags that are mentioned are visited. -/
theorem mem_visited_parse (distinct : (set.shapes.map Prod.fst).Nodup)
    (fresh : ∀ flag ∈ set.flags, flag.given = false)
    (accepted : set.parse arguments = (flags, none)) :
    name ∈ flags.visited.map Flag.name ↔ set.Mentions arguments name := by
  rw [parse] at accepted
  have nothing : name ∉ { set with args := [] }.given := by
    rw [mem_given]
    rintro ⟨flag, listed, isGiven, _⟩
    rw [fresh flag listed] at isGiven
    contradiction
  have visited : (flags.visited.map Flag.name).Perm flags.given :=
    (List.mergeSort_perm _ _).map Flag.name
  have same : { set with args := [] }.shapes = set.shapes := rfl
  rw [← same] at distinct
  rw [visited.mem_iff, mem_given_readAll distinct accepted, or_iff_right nothing, mentions_iff same]

end FlagSet

/-! ## Which flag decides -/

namespace Switch

variable {switch : Switch} {name : String} {on : Bool}

/-- A switch is told its value by its own flags. -/
theorem told?_flag (switch : Switch) (on : Bool) : switch.told? (switch.flag on) = some on := by
  cases switch with
  | warning warning => exact Warning.told?_eq_some.mpr (.inl rfl)
  | feature feature => exact Feature.told?_eq_some.mpr rfl

/-- A switch is told to be off by one name only. -/
theorem told?_eq_some_false : switch.told? name = some false ↔ name = switch.flag false := by
  cases switch with
  | warning warning => simp [told?, Warning.told?_eq_some]
  | feature feature => exact Feature.told?_eq_some

/-- Among the names that start with the letter of a family only its flags tell about a switch. -/
theorem told?_of_isSettingsFlag (governs : Command.isSettingsFlag name = true) :
    switch.told? name = some on ↔ name = switch.flag on := by
  cases switch with
  | feature feature => exact Feature.told?_eq_some
  | warning warning =>
    refine Warning.told?_eq_some.trans (or_iff_left ?_)
    rintro ⟨_, rfl | rfl⟩
    · cases warning <;> contradiction
    · contradiction

/-- The flags of switches are about settings. -/
theorem isSettingsFlag_flag (switch : Switch) (on : Bool) :
    Command.isSettingsFlag (switch.flag on) = true := by
  rcases switch with warning | feature
  · cases warning <;> cases on <;> decide
  · cases feature <;> cases on <;> decide

/-- The flags of switches can be written on a command line. -/
theorem isFlagName_flag (switch : Switch) (on : Bool) : IsFlagName (switch.flag on) := by
  rcases switch with warning | feature
  · cases warning <;> cases on <;> decide
  · cases feature <;> cases on <;> decide

end Switch

namespace Settings

variable {set flags : FlagSet} {names arguments : List String} {switch : Switch}

/-- Where names stand in order, the greatest one that tells anything tells it last.

Proof: by induction from the end. The last name is not below any other, so if it tells anything, no
other one is above it; if it does not, it can be left out. -/
theorem lastTold?_of_sorted (told? : String → Option Bool) (sorted : names.Pairwise (· ≤ ·)) :
    lastTold? told? names = some true ↔
      ∃ name ∈ names, told? name = some true ∧
        ∀ other ∈ names, told? other = some false → other < name := by
  induction names using List.reverseRecOn with
  | nil => simp [lastTold?]
  | append_singleton names last inductionHypothesis =>
    obtain ⟨earlier, _, below⟩ := List.pairwise_append.mp sorted
    have greatest : ∀ name ∈ names ++ [last], name ≤ last := by
      intro name listed
      rcases List.mem_append.mp listed with before | here
      · exact below name before last List.mem_cons_self
      · exact le_of_eq (List.mem_singleton.mp here)
    cases said : told? last with
    | none =>
      have silent := lastTold?_silent said names []
      rw [List.append_nil] at silent
      rw [silent, inductionHypothesis earlier]
      simp [said, or_imp, forall_and, -String.lt_iff_ltb]
    | some on =>
      have told : lastTold? told? (names ++ [last]) = some on := by
        simp [lastTold?, said]
      have listed : last ∈ names ++ [last] := List.mem_append_right names List.mem_cons_self
      rw [told, Option.some.injEq]
      constructor
      · rintro rfl
        refine ⟨last, listed, said, fun other member denied => ?_⟩
        have different : other ≠ last := by
          rintro rfl
          rw [said] at denied
          contradiction
        exact lt_of_le_of_ne (greatest other member) different
      · rintro ⟨name, member, _, above⟩
        cases on with
        | true => rfl
        | false => exact absurd (above last listed said) (not_lt_of_ge (greatest name member))

/-- Of the flags of a switch, applied in the order of their names, the greatest decides. -/
theorem value_applyNames_sorted (sorted : names.Pairwise (· ≤ ·))
    (named : ∃ on, switch.flag on ∈ names) (settings : Settings) :
    (settings.applyNames names).value switch = true ↔
      ∃ name ∈ names, switch.told? name = some true ∧
        (switch.flag false ∈ names → switch.flag false < name) := by
  obtain ⟨on, member⟩ := named
  have told : lastTold? switch.told? names ≠ none := by
    rw [lastTold?, ne_eq, List.getLast?_eq_none_iff]
    exact List.ne_nil_of_mem (List.mem_filterMap.mpr ⟨_, member, switch.told?_flag on⟩)
  obtain ⟨last, said⟩ := Option.ne_none_iff_exists'.mp told
  have order := lastTold?_of_sorted switch.told? sorted
  rw [value_applyNames_last, said, Option.some_or, Option.getD_some]
  rw [said, Option.some.injEq] at order
  rw [order]
  refine exists_congr fun name => and_congr_right fun _ => and_congr_right fun _ => ?_
  constructor
  · exact fun above listed => above _ listed (switch.told?_flag false)
  · intro above other listed denied
    obtain rfl := Switch.told?_eq_some_false.mp denied
    exact above listed

/-- What is visited after arguments decides about a switch that they mention. -/
theorem value_applyNames_visited (distinct : (set.shapes.map Prod.fst).Nodup)
    (fresh : ∀ flag ∈ set.flags, flag.given = false)
    (accepted : set.parse arguments = (flags, none))
    (named : ∃ on, set.Mentions arguments (switch.flag on)) (settings : Settings) :
    (settings.applyNames (flags.visited.map Flag.name)).value switch = true ↔
      ∃ name, set.Mentions arguments name ∧ switch.told? name = some true ∧
        (set.Mentions arguments (switch.flag false) → switch.flag false < name) := by
  simp only [← FlagSet.mem_visited_parse distinct fresh accepted] at named ⊢
  exact value_applyNames_sorted flags.visited_sorted named settings

/-- Of these, the flags of the settings decide in the command. -/
theorem value_applyFlags_visited (distinct : (set.shapes.map Prod.fst).Nodup)
    (fresh : ∀ flag ∈ set.flags, flag.given = false)
    (accepted : set.parse arguments = (flags, none))
    (named : ∃ on, set.Mentions arguments (switch.flag on)) (settings : Settings) :
    (Command.applyFlags settings flags).value switch = true ↔
      set.Mentions arguments (switch.flag true) ∧
        (set.Mentions arguments (switch.flag false) → switch.flag false < switch.flag true) := by
  have governed (on : Bool) :
      switch.flag on ∈ (flags.visited.map Flag.name).filter Command.isSettingsFlag ↔
        set.Mentions arguments (switch.flag on) := by
    rw [List.mem_filter, FlagSet.mem_visited_parse distinct fresh accepted,
      and_iff_left (switch.isSettingsFlag_flag on)]
  have sorted := flags.visited_sorted.filter Command.isSettingsFlag
  rw [Command.value_applyFlags,
    value_applyNames_sorted sorted (named.imp fun on => (governed on).mpr)]
  constructor
  · rintro ⟨name, listed, told, above⟩
    have governs : Command.isSettingsFlag name = true := (List.mem_filter.mp listed).2
    obtain rfl := (Switch.told?_of_isSettingsFlag governs).mp told
    exact ⟨(governed true).mp listed, fun off => above ((governed false).mpr off)⟩
  · rintro ⟨switchedOn, above⟩
    exact ⟨_, (governed true).mpr switchedOn, switch.told?_flag true,
      fun off => above ((governed false).mp off)⟩

/-- Every switch has its two flags, and they have no shorthands. -/
theorem exists_flag (settings : Settings) (switch : Switch) (on : Bool) :
    ∃ flag ∈ (settings.addFlags {}).flags, flag.name = switch.flag on ∧
      flag.content.isSwitch = true ∧ flag.shorthand = "" := by
  have listed : (switch.flag on, "", true) ∈ (addFlags {} {}).shapes := by
    rcases switch with warning | feature
    · cases warning <;> cases on <;> decide
    · cases feature <;> cases on <;> decide
  have same : (settings.addFlags {}).shapes = (addFlags {} {}).shapes := rfl
  rw [← same] at listed
  obtain ⟨flag, member, shape⟩ := List.mem_map.mp listed
  rw [Flag.shape, Prod.mk.injEq, Prod.mk.injEq] at shape
  obtain ⟨named, shorthand, isSwitch⟩ := shape
  exact ⟨flag, member, named, isSwitch, shorthand⟩

/-- Of a command line that is accepted it counts which flags it mentions, and nothing else: neither
their order nor their values. A switch that it mentions is on exactly if the flag to switch it on is
mentioned, and if the flag to switch it off is mentioned too, its name comes first in the order of
names. A flag is mentioned by its name behind one hyphen or two, perhaps with a value. -/
theorem mentioned_flags_decide_by_name (settings later : Settings) (switch : Switch)
    (distinct : (set.flags.map Flag.name).Nodup)
    (prepared : (settings.addFlags {}).flags ⊆ set.flags)
    (fresh : ∀ flag ∈ set.flags, flag.given = false)
    (accepted : set.parse arguments = (flags, none))
    (named : ∃ on, set.Mentions arguments (switch.flag on)) :
    ((later.applyNames (flags.visited.map Flag.name)).value switch = true ↔
      ∃ name, set.Mentions arguments name ∧ switch.told? name = some true ∧
        (set.Mentions arguments (switch.flag false) → switch.flag false < name)) ∧
    ((Command.applyFlags later flags).value switch = true ↔
      set.Mentions arguments (switch.flag true) ∧
        (set.Mentions arguments (switch.flag false) → switch.flag false < switch.flag true)) ∧
    ∀ on argument value, set.read argument = .complete (switch.flag on) value ↔
      FlagSet.Spells argument (switch.flag on) value := by
  have unique : (set.shapes.map Prod.fst).Nodup := by
    rw [FlagSet.map_fst_shapes]
    exact distinct
  refine ⟨value_applyNames_visited unique fresh accepted named later,
    value_applyFlags_visited unique fresh accepted named later, ?_⟩
  intro on argument value
  obtain ⟨flag, listed, called, isSwitch, shorthand⟩ := settings.exists_flag switch on
  have found := FlagSet.find?_of_mem unique (prepared listed)
  rw [called] at found
  exact FlagSet.read_eq_complete unique (switch.isFlagName_flag on) found isSwitch shorthand

/-- Arguments that contradict themselves about two warnings, and a file between them. -/
def contradictingLine : List String :=
  ["-Wcase-range", "-Wno-shadow", "--Wshadow=false", "a.wz", "-Wno-case-range=0", "--Wcase-range"]

/-- Both warnings are mentioned last by the flag to switch them on, once with the value false. -/
theorem mentioned_flags_decide_by_name_contradictingLine :
    (Command.app.flags.parse contradictingLine).2 = none ∧
      Command.app.flags.mentions contradictingLine =
        [("Wcase-range", ""), ("Wno-shadow", ""), ("Wshadow", "false"), ("Wno-case-range", "0"),
         ("Wcase-range", "")] ∧
      (Command.applyFlags {} (Command.app.flags.parse contradictingLine).1).warning .shadow = true ∧
      (Command.applyFlags {} (Command.app.flags.parse contradictingLine).1).warning .caseRange
        = false := by
  have accepted : (Command.app.flags.parse contradictingLine).2 = none := by decide
  have mentions : Command.app.flags.mentions contradictingLine =
      [("Wcase-range", ""), ("Wno-shadow", ""), ("Wshadow", "false"), ("Wno-case-range", "0"),
       ("Wcase-range", "")] := by decide
  have distinct : (Command.app.flags.flags.map Flag.name).Nodup := by decide
  have fresh : ∀ flag ∈ Command.app.flags.flags, flag.given = false := by decide
  have prepared : (addFlags {} {}).flags ⊆ Command.app.flags.flags := by
    intro flag listed
    simp only [addFlags, FlagSet.addGroup, FlagSet.add, Command.app, List.mem_append] at listed ⊢
    tauto
  have decided (warning : Warning) (named : ∃ on, Command.app.flags.Mentions contradictingLine
      (Switch.flag on (.warning warning))) :=
    (mentioned_flags_decide_by_name {} {} (.warning warning) distinct prepared fresh
      (Prod.ext rfl accepted) named).2.1
  have shadow := decided .shadow ⟨true, by decide⟩
  have caseRange := decided .caseRange ⟨true, by decide⟩
  refine ⟨accepted, mentions, shadow.mpr (by decide), ?_⟩
  exact Bool.eq_false_iff.mpr (caseRange.not.mpr (by decide))

end Settings

/-! ## The last argument -/

/-- What a mention says about a switch by its name and its value. -/
def Switch.says? (switch : Switch) (mention : String × String) : Option Bool :=
  if mention.1 = switch.flag true then Content.truth? mention.2
  else if mention.1 = switch.flag false then some false
  else none

/-- Two switches, each of which is mentioned last by an argument that says that it is off. -/
def Settings.lastOff : List String := ["-Wshadow", "-Wno-shadow", "-Feof-literal=false"]

/-- The last argument is overruled by the name of an earlier one, and its value is not looked at. -/
theorem Settings.last_mention_overruled :
    ((addFlags {} {}).parse lastOff).2 = none ∧
      ∀ switch ∈ [Switch.warning .shadow, .feature .endOfFileLiteral],
        (((addFlags {} {}).mentions lastOff).filterMap switch.says?).getLast? = some false ∧
          (applyNames {} (((addFlags {} {}).parse lastOff).1.visited.map Flag.name)).value switch
            = true := by
  have accepted : ((addFlags {} {}).parse lastOff).2 = none := by decide
  have distinct : ((addFlags {} {}).shapes.map Prod.fst).Nodup := by decide
  have fresh : ∀ flag ∈ (addFlags {} {}).flags, flag.given = false := by decide
  have decided (switch : Switch) (on : (addFlags {} {}).Mentions lastOff (switch.flag true))
      (above : (addFlags {} {}).Mentions lastOff (switch.flag false) →
        switch.flag false < switch.flag true) :=
    (value_applyNames_visited distinct fresh (Prod.ext rfl accepted) ⟨true, on⟩ {}).mpr
      ⟨_, on, switch.told?_flag true, above⟩
  refine ⟨accepted, ?_⟩
  rw [List.forall_mem_cons, List.forall_mem_singleton]
  constructor
  · exact ⟨by decide, decided _ (by decide +kernel) (by decide +kernel)⟩
  · exact ⟨by decide, decided _ (by decide +kernel) (by decide +kernel)⟩

end WinZig
