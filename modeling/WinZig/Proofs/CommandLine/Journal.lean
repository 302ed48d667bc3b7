import WinZig.Proofs.CommandLine.Spellings

/-!
# What becomes of the text of an argument list

While an argument list is read, a journal can be kept of what is done with it: an argument is kept as
positional, what stands behind two hyphens is kept, or a flag is named in some way and handed a
value that stands in some place. If no argument is refused, then doing again what the journal says
gives the same flag set, and the argument list is what the journal says was written.

Only one thing in a journal is never handed to anyone: a switch that is named by its shorthand takes
no notice of what else is in the argument. So an argument list can be told from what was done with it
unless this occurs, and where it occurs a mistyped argument is accepted without a word.
-/

namespace WinZig

namespace FlagSet

/-! ## Events -/

/-- How an argument names a flag. -/
inductive Front where
  /-- One hyphen and the name. -/
  | hyphen
  /-- Two hyphens and the name. -/
  | hyphens
  /-- One hyphen and the shorthand. -/
  | shorthand (c : Char)
deriving DecidableEq, Repr

/-- Where the value of a flag stands. -/
inductive Placing where
  /-- There is no value. -/
  | nowhere
  /-- Behind an equals sign. -/
  | equals
  /-- Directly behind the shorthand. -/
  | behind
  /-- In the next argument. -/
  | next
  /-- There is no value, and no notice is taken of the rest of the argument. -/
  | unheeded (rest : String)
deriving DecidableEq, Repr

/-- What is done with an argument or two. -/
inductive Event where
  | positional (argument : String)
  /-- Two hyphens, and all that follows is positional. -/
  | separator (others : List String)
  | setting (front : Front) (name : String) (placing : Placing) (value : String)
deriving DecidableEq, Repr

/-- The first part of an argument that names a flag. -/
def Front.text (name : String) : Front → String
  | hyphen => "-" ++ name
  | hyphens => "--" ++ name
  | shorthand c => "-" ++ String.ofList [c]

/-- The arguments in which a flag is named and a value is placed. -/
def Placing.arguments (front value : String) : Placing → List String
  | nowhere => [front]
  | equals => [front ++ "=" ++ value]
  | behind => [front ++ value]
  | next => [front, value]
  | unheeded rest => [front ++ rest]

namespace Event

/-- The arguments that an event is written as. -/
def arguments : Event → List String
  | positional argument => [argument]
  | separator others => "--" :: others
  | setting front name placing value => placing.arguments (front.text name) value

/-- An event without the text that no notice was taken of. -/
def heeded : Event → Event
  | setting front name (.unheeded _) value => setting front name .nowhere value
  | event => event

/-- A flag set after an event. -/
def take (set : FlagSet) : Event → FlagSet × Option ArgumentError
  | positional argument => (set.keep [argument], none)
  | separator others => (set.keep others, none)
  | setting _ name _ value => set.assign name value

end Event

/-- A flag set after some events, up to the first value that is refused. -/
def replay (set : FlagSet) : List Event → FlagSet × Option ArgumentError
  | [] => (set, none)
  | event :: events =>
    match event.take set with
    | (set, none) => set.replay events
    | (set, some error) => (set, some error)

/-! ## Journals -/

/-- How an argument names a flag, if it does. -/
def front (set : FlagSet) (argument : String) : Front :=
  match argument.toList with
  | '-' :: '-' :: _ => .hyphens
  | '-' :: c :: rest =>
    if (set.find? (splitValue (c :: rest)).1).isSome then .hyphen else .shorthand c
  | _ => .hyphens

/-- Where a value stands, told by the text behind the first part of an argument. -/
def Front.placing (value : String) (rest : List Char) : Front → Placing
  | hyphen | hyphens => if rest = [] then .nowhere else .equals
  | shorthand _ =>
    if rest = [] then .nowhere
    else if value = String.ofList rest then .behind
    else .unheeded (String.ofList rest)

/-- The event of an argument that names a flag and says its value. -/
def settingOf (set : FlagSet) (argument name value : String) : Event :=
  let front := set.front argument
  let rest := argument.toList.drop (front.text name).toList.length
  .setting front name (front.placing value rest) value

/-- What is done with an argument list while it is read, up to the first argument that is refused. -/
def journal (set : FlagSet) : List String → List Event
  | [] => []
  | argument :: rest =>
    match set.read argument with
    | .positional => .positional argument :: set.journal rest
    | .separator => [.separator rest]
    | .refused _ => []
    | .complete name value => set.settingOf argument name value :: set.journal rest
    | .awaiting name _ =>
      match rest with
      | [] => []
      | value :: rest => .setting (set.front argument) name .next value :: set.journal rest

/-- A flag can be named in some way. -/
def Front.Names (flag : Flag) : Front → Prop
  | hyphen | hyphens => True
  | shorthand c => flag.shorthand = String.ofList [c]

/-- A flag that is named in some way can be handed a value that is placed in some way. Only a switch
goes without a value, and only its shorthand goes with text that is not heeded. -/
def Placing.Fits (flag : Flag) (front : Front) (value : String) : Placing → Prop
  | nowhere => flag.content.isSwitch = true ∧ value = ""
  | equals => front = .hyphen ∨ front = .hyphens
  | behind => flag.content.isSwitch = false ∧ (∃ c, front = .shorthand c) ∧ value ≠ ""
  | next => flag.content.isSwitch = false
  | unheeded rest =>
    flag.content.isSwitch = true ∧ (∃ c, front = .shorthand c) ∧ value = "" ∧ rest ≠ ""

/-- An event can occur while a set reads arguments. -/
def Event.Fits (set : FlagSet) : Event → Prop
  | positional argument => argument.utf8ByteSize < 2 ∨ argument.toList.head? ≠ some '-'
  | separator _ => True
  | setting front name placing value =>
    ∃ flag ∈ set.flags, flag.name = name ∧ front.Names flag ∧ placing.Fits flag front value

variable {set current : FlagSet} {argument name value spelling dashes : String}
  {arguments : List String} {front : Front} {events : List Event}

/-! ## One argument -/

/-- An argument spelled with a front and a name is journalled as a setting with that front, and what
is left of it decides how the value was placed. -/
theorem settingOf_eq {rest : List Char} (named : set.front argument = front)
    (spelled : argument.toList = (front.text name).toList ++ rest) (value : String) :
    set.settingOf argument name value = .setting front name (front.placing value rest) value := by
  rw [settingOf, named, spelled, List.drop_left]

/-- What can be read from an argument. -/
inductive ArgumentRead (set : FlagSet) (argument : String) : Reading → Prop
  | positional (plain : argument.utf8ByteSize < 2 ∨ argument.toList.head? ≠ some '-') :
      ArgumentRead set argument .positional
  | separator (same : argument = "--") : ArgumentRead set argument .separator
  | name {front : Front} {dashes : String} {body : List Char} {reading : Reading}
      (named : set.front argument = front) (long : front = .hyphen ∨ front = .hyphens)
      (text : ∀ name, front.text name = dashes ++ name)
      (spelled : argument.toList = dashes.toList ++ body)
      (read : NameRead set dashes body reading) : ArgumentRead set argument reading
  | shorthand {c : Char} {rest : List Char} {reading : Reading}
      (named : set.front argument = .shorthand c)
      (spelled : argument.toList = "-".toList ++ c :: rest)
      (read : ShorthandRead set c rest reading) : ArgumentRead set argument reading

/-- Reading an argument ends in one of the ways `ArgumentRead` lists. -/
theorem read_cases (set : FlagSet) (argument : String) :
    ArgumentRead set argument (set.read argument) := by
  unfold read
  split
  · next same => exact .separator (String.ext same)
  · next body _ same =>
    have front : set.front argument = .hyphens := by simp [FlagSet.front, same]
    exact .name front (.inr rfl) (fun _ => rfl) same (set.readName_cases "--" body)
  · next c rest _ _ same =>
    split
    · next known =>
      have front : set.front argument = .hyphen := by simp [FlagSet.front, same, known]
      exact .name front (.inl rfl) (fun _ => rfl) same (set.readName_cases "-" (c :: rest))
    · next unknown =>
      have front : set.front argument = .shorthand c := by simp [FlagSet.front, same, unknown]
      exact .shorthand front same (set.readShorthand_cases c rest)
  · next _ other =>
    refine .positional (or_iff_not_imp_right.mpr fun hyphen => ?_)
    rw [ne_eq, not_not, List.head?_eq_some_iff] at hyphen
    obtain ⟨rest, same⟩ := hyphen
    cases rest with
    | nil =>
      rw [← String.utf8Len_toList, same]
      decide
    | cons c rest => exact (other c rest same).elim

/-- A flag that is named by its name: all text of the argument is its name or its value. -/
theorem accounted_name {body : List Char} (named : set.front argument = front)
    (long : front = .hyphen ∨ front = .hyphens) (text : ∀ name, front.text name = dashes ++ name)
    (spelled : argument.toList = dashes.toList ++ body)
    (read : NameRead set dashes body (.complete name value)) :
    (set.settingOf argument name value).Fits set ∧
      (set.settingOf argument name value).arguments = [argument] := by
  have names (flag : Flag) : front.Names flag := by
    rcases long with rfl | rfl <;> trivial
  cases read with
  | @bare flag listed switch bare =>
    have whole : argument.toList = (front.text flag.name).toList ++ [] := by
      simpa [text, bare] using spelled
    have nowhere : front.placing "" [] = .nowhere := by
      rcases long with rfl | rfl <;> rfl
    rw [settingOf_eq named whole, nowhere]
    refine ⟨⟨flag, listed, rfl, names flag, switch, rfl⟩, ?_⟩
    have same : argument = front.text flag.name := String.ext (by simpa using whole)
    rw [same]
    rfl
  | @equals flag _ listed divided =>
    have whole : argument.toList = (front.text flag.name).toList ++ '=' :: value.toList := by
      simpa [text, divided] using spelled
    have equals : front.placing value ('=' :: value.toList) = .equals := by
      rcases long with rfl | rfl <;> rfl
    rw [settingOf_eq named whole, equals]
    refine ⟨⟨flag, listed, rfl, names flag, long⟩, ?_⟩
    have same : argument = front.text flag.name ++ "=" ++ value := String.ext (by simpa using whole)
    rw [same]
    rfl

/-- A flag that is named by its shorthand: what else is in the argument is its value, or it is a
switch and does not heed it. -/
theorem accounted_shorthand {c : Char} {rest : List Char}
    (named : set.front argument = .shorthand c)
    (spelled : argument.toList = "-".toList ++ c :: rest)
    (read : ShorthandRead set c rest (.complete name value)) :
    (set.settingOf argument name value).Fits set ∧
      (set.settingOf argument name value).arguments = [argument] := by
  have whole : argument.toList = ((Front.shorthand c).text name).toList ++ rest := by
    simpa [Front.text] using spelled
  have same : argument = (Front.shorthand c).text name ++ String.ofList rest :=
    String.ext (by simpa using whole)
  rw [settingOf_eq named whole, same]
  cases read with
  | @switch flag listed letter switch =>
    by_cases nothing : rest = []
    · subst nothing
      refine ⟨⟨flag, listed, rfl, letter, switch, rfl⟩, ?_⟩
      rw [String.ofList_nil, String.append_empty]
      rfl
    · have something := ofList_ne_empty nothing
      have unheeded : (Front.shorthand c).placing "" rest = .unheeded (String.ofList rest) := by
        simp only [Front.placing, if_neg nothing, if_neg something.symm]
      rw [unheeded]
      exact ⟨⟨flag, listed, rfl, letter, switch, ⟨c, rfl⟩, rfl, something⟩, rfl⟩
  | @behind flag listed letter valued something =>
    have behind : (Front.shorthand c).placing (String.ofList rest) rest = .behind := by
      simp only [Front.placing, if_neg something, if_true]
    rw [behind]
    exact ⟨⟨flag, listed, rfl, letter, valued, ⟨c, rfl⟩, ofList_ne_empty something⟩, rfl⟩

/-- An argument that names a flag and says its value. -/
theorem accounted_complete (read : set.read argument = .complete name value) :
    (set.settingOf argument name value).Fits set ∧
      (set.settingOf argument name value).arguments = [argument] := by
  have reading := set.read_cases argument
  rw [read] at reading
  cases reading with
  | name named long text spelled inner => exact accounted_name named long text spelled inner
  | shorthand named spelled inner => exact accounted_shorthand named spelled inner

/-- An argument that names a flag, and the next one with its value. -/
theorem accounted_awaiting (read : set.read argument = .awaiting name spelling) (value : String) :
    (Event.setting (set.front argument) name .next value).Fits set ∧
      (Event.setting (set.front argument) name .next value).arguments = [argument, value] := by
  have reading := set.read_cases argument
  rw [read] at reading
  cases reading with
  | @name front dashes body _ named long text spelled inner =>
    cases inner with
    | @waiting flag listed valued bare =>
      have names : front.Names flag := by
        rcases long with rfl | rfl <;> trivial
      have same : argument = front.text flag.name :=
        String.ext (by simpa [text, bare] using spelled)
      rw [named, same]
      exact ⟨⟨flag, listed, rfl, names, valued⟩, rfl⟩
  | @shorthand c rest _ named spelled inner =>
    cases inner with
    | @waiting flag listed letter valued nothing =>
      have same : argument = (Front.shorthand c).text flag.name :=
        String.ext (by simpa [Front.text, nothing] using spelled)
      rw [named, same]
      exact ⟨⟨flag, listed, rfl, letter, valued⟩, rfl⟩

/-- An argument that is kept as positional. -/
theorem accounted_positional (read : set.read argument = .positional) :
    (Event.positional argument).Fits set := by
  have reading := set.read_cases argument
  rw [read] at reading
  cases reading with
  | positional plain => exact plain
  | name named long text spelled inner => cases inner
  | shorthand named spelled inner => cases inner

/-- Only two bare hyphens end the flags. -/
theorem eq_of_separator (read : set.read argument = .separator) : argument = "--" := by
  have reading := set.read_cases argument
  rw [read] at reading
  cases reading with
  | separator same => exact same
  | name named long text spelled inner => cases inner
  | shorthand named spelled inner => cases inner

/-! ## One argument after another -/

/-- The journal of some arguments accounts for them: it fits the set, it is written as the arguments,
and it says what is done with them. -/
structure Accounts (set current : FlagSet) (arguments : List String) (events : List Event) :
    Prop where
  fits : ∀ event ∈ events, event.Fits set
  written : events.flatMap Event.arguments = arguments
  done : current.replay events = current.readAll arguments

/-- The step: a flag is handed a value, and the rest is accounted for by what is done with it. -/
theorem Accounts.setting {event : Event} {chunk : List String}
    (fits : event.Fits set) (written : event.arguments = chunk)
    (takes : event.take current = current.assign name value)
    (reads : current.readAll (chunk ++ arguments) = readOn arguments (current.assign name value))
    (accepted : (current.readAll (chunk ++ arguments)).2 = none)
    (rest : ((current.assign name value).1.readAll arguments).2 = none →
      Accounts set (current.assign name value).1 arguments events) :
    Accounts set current (chunk ++ arguments) (event :: events) := by
  rw [reads] at accepted
  rcases assigned : current.assign name value with ⟨changed, _ | error⟩
  · rw [assigned] at accepted takes reads rest
    have later := rest accepted
    refine ⟨List.forall_mem_cons.mpr ⟨fits, later.fits⟩, ?_, ?_⟩
    · rw [List.flatMap_cons, written, later.written]
    · rw [replay, takes, reads]
      exact later.done
  · rw [assigned] at accepted
    contradiction

/-- The run: while no argument is refused, the journal accounts for the arguments. Values do not
change the shape of a set, so it does not matter which values were handed out before. -/
theorem accounts_journal (distinct : (set.shapes.map Prod.fst).Nodup)
    (same : current.shapes = set.shapes) (accepted : (current.readAll arguments).2 = none) :
    Accounts set current arguments (set.journal arguments) := by
  have unchanged {current : FlagSet} (same : current.shapes = set.shapes) (name value : String) :
      (current.assign name value).1.shapes = set.shapes := by
    rw [← same] at distinct ⊢
    exact shapes_assign distinct name value
  induction arguments using journal.induct set generalizing current with
  | case1 => exact ⟨List.forall_mem_nil _, rfl, rfl⟩
  | case2 argument rest read inductionHypothesis =>
    have reads : current.readAll (argument :: rest) = (current.keep [argument]).readAll rest := by
      rw [readAll, read_congr same, read]
    rw [reads] at accepted
    have kept : (current.keep [argument]).shapes = set.shapes := same
    have later := inductionHypothesis kept accepted
    rw [journal, read]
    refine ⟨List.forall_mem_cons.mpr ⟨accounted_positional read, later.fits⟩, ?_, ?_⟩
    · rw [List.flatMap_cons, later.written]
      rfl
    · rw [reads, ← later.done]
      rfl
  | case3 argument rest read =>
    rw [journal, read, eq_of_separator read]
    refine ⟨List.forall_mem_singleton.mpr trivial, List.flatMap_singleton .., ?_⟩
    rfl
  | case4 argument rest error read =>
    rw [readAll, read_congr same, read] at accepted
    contradiction
  | case5 argument rest name value read inductionHypothesis =>
    obtain ⟨fits, written⟩ := accounted_complete read
    have reads := readAll_complete ((read_congr same argument).trans read) rest
    rw [journal, read]
    refine Accounts.setting fits written rfl reads accepted fun accepted => ?_
    exact inductionHypothesis (unchanged same name value) accepted
  | case6 argument name spelling read =>
    rw [readAll, read_congr same, read] at accepted
    contradiction
  | case7 argument name spelling read value rest inductionHypothesis =>
    obtain ⟨fits, written⟩ := accounted_awaiting read value
    have reads := readAll_awaiting ((read_congr same argument).trans read) value rest
    rw [journal, read]
    refine Accounts.setting fits written rfl reads accepted fun accepted => ?_
    exact inductionHypothesis (unchanged same name value) accepted

/-! ## Rebuilding the arguments -/

/-- Dropping what was not heeded leaves an event with as many arguments. -/
theorem Event.length_heeded (event : Event) :
    event.heeded.arguments.length = event.arguments.length := by
  unfold heeded
  split <;> rfl

/-- An event's arguments survive dropping what was not heeded exactly when all of it was heeded. -/
theorem Event.arguments_heeded {event : Event} (fits : event.Fits set) :
    event.heeded.arguments = event.arguments ↔ event.heeded = event := by
  refine ⟨fun same => ?_, fun same => by rw [same]⟩
  unfold heeded at same ⊢
  split at same
  · next front name rest value =>
    obtain ⟨flag, -, -, -, -, -, -, something⟩ := fits
    have lost : front.text name = front.text name ++ rest := List.singleton_inj.mp same
    have nothing : rest = "" := String.ext (by simpa using congrArg String.toList lost)
    contradiction
  · rfl

/-- Events without the text that was not heeded are written as before only if there is no such
text. -/
theorem flatMap_heeded (fits : ∀ event ∈ events, event.Fits set) :
    (events.map Event.heeded).flatMap Event.arguments = events.flatMap Event.arguments ↔
      ∀ event ∈ events, event.heeded = event := by
  induction events with
  | nil => simp
  | cons event events inductionHypothesis =>
    obtain ⟨first, others⟩ := List.forall_mem_cons.mp fits
    rw [List.map_cons, List.flatMap_cons, List.flatMap_cons, List.forall_mem_cons,
      ← inductionHypothesis others, ← Event.arguments_heeded first]
    exact ⟨fun same => List.append_inj same event.length_heeded,
      fun same => by rw [same.1, same.2]⟩

/-- What becomes of an argument list that is accepted. Its journal fits the flag set: an argument
is positional, or two hyphens, or it names a flag of the set, and the value that the flag is handed
stands behind an equals sign, behind the shorthand or in the next argument. Doing what the journal
says gives what reading gives, and all of the text is in the journal. The text can be told from what
was kept and handed out if and only if no switch was named by its shorthand with more text behind
it. -/
theorem journal_rebuilds_arguments (distinct : (set.flags.map Flag.name).Nodup)
    (accepted : (set.parse arguments).2 = none) :
    (∀ event ∈ set.journal arguments, event.Fits set) ∧
      replay { set with args := [] } (set.journal arguments) = set.parse arguments ∧
      (set.journal arguments).flatMap Event.arguments = arguments ∧
      (((set.journal arguments).map Event.heeded).flatMap Event.arguments = arguments ↔
        ∀ event ∈ set.journal arguments, event.heeded = event) := by
  rw [← map_fst_shapes] at distinct
  have same : shapes { set with args := [] } = set.shapes := rfl
  have accounts := accounts_journal distinct same accepted
  refine ⟨accounts.fits, accounts.done, accounts.written, ?_⟩
  rw [← flatMap_heeded accounts.fits, accounts.written]

/-- A switch, a text and a list, each with a shorthand. -/
def letteredFlags : FlagSet where
  flags :=
    [{ name := "verbose", shorthand := "v", usage := "", content := .switch false },
     { name := "output", shorthand := "o", usage := "", content := .text "a.out" },
     { name := "include", shorthand := "i", usage := "", content := .list none }]

/-- Flags in all spellings, and some that were mistyped. -/
def mistypedLine : List String :=
  ["-include", "-v", "-v=false", "--output=a=b", "-", "-ofile", "-verbose=f", "-i", "--", "-vx",
   "--", "-vx"]

/-- A line with text behind its shorthands is journalled with that text, and is not rebuilt without
it. -/
theorem journal_rebuilds_arguments_mistypedLine :
    (letteredFlags.flags.map Flag.name).Nodup ∧ (letteredFlags.parse mistypedLine).2 = none ∧
      letteredFlags.journal mistypedLine =
        [.setting .hyphen "include" .next "-v",
         .setting (.shorthand 'v') "verbose" (.unheeded "=false") "",
         .setting .hyphens "output" .equals "a=b", .positional "-",
         .setting (.shorthand 'o') "output" .behind "file",
         .setting .hyphen "verbose" .equals "f",
         .setting (.shorthand 'i') "include" .next "--",
         .setting (.shorthand 'v') "verbose" (.unheeded "x") "", .separator ["-vx"]] ∧
      ((letteredFlags.journal mistypedLine).map Event.heeded).flatMap Event.arguments
        ≠ mistypedLine := by
  have distinct : (letteredFlags.flags.map Flag.name).Nodup := by decide
  have accepted : (letteredFlags.parse mistypedLine).2 = none := by decide
  obtain ⟨-, -, -, rebuilt⟩ := journal_rebuilds_arguments distinct accepted
  refine ⟨distinct, accepted, by decide, fun same => ?_⟩
  exact absurd (rebuilt.mp same) (by decide)

/-- A mistyped switch is accepted, and no events that heed all text are written so. -/
theorem text_behind_switch_lost :
    (letteredFlags.parse ["-vx"]).2 = none ∧
      ¬ ∃ events : List Event, (∀ event ∈ events, event.Fits letteredFlags ∧ event.heeded = event) ∧
        events.flatMap Event.arguments = ["-vx"] := by
  refine ⟨by decide, ?_⟩
  rintro ⟨events, fit, written⟩
  cases events with
  | nil => contradiction
  | cons event events =>
    obtain ⟨fits, heeds⟩ := fit event List.mem_cons_self
    rw [List.flatMap_cons] at written
    cases event with
    | positional argument =>
      obtain rfl : argument = "-vx" := (List.cons_eq_cons.mp written).1
      have short : "-vx".utf8ByteSize < 2 ∨ "-vx".toList.head? ≠ some '-' := fits
      exact absurd short (by decide)
    | separator others => exact absurd (List.cons_eq_cons.mp written).1 (by decide)
    | setting front name placing value =>
      obtain ⟨flag, listed, rfl, names, placed⟩ := fits
      simp only [letteredFlags, List.mem_cons, List.not_mem_nil, or_false] at listed
      cases placing with
      | next => simp [Event.arguments, Placing.arguments] at written
      | unheeded rest => simp [Event.heeded] at heeds
      | nowhere =>
        have same : (front.text flag.name).toList = "-vx".toList :=
          congrArg String.toList (List.cons_eq_cons.mp written).1
        rcases listed with rfl | rfl | rfl <;> cases front <;> simp [Front.text] at same
      | equals =>
        have same : (front.text flag.name ++ "=" ++ value).toList = "-vx".toList :=
          congrArg String.toList (List.cons_eq_cons.mp written).1
        rcases listed with rfl | rfl | rfl <;> rcases placed with rfl | rfl <;>
          simp [Front.text] at same
      | behind =>
        obtain ⟨valued, ⟨c, rfl⟩, -⟩ := placed
        have letter : flag.shorthand.toList = [c] := by
          rw [show flag.shorthand = String.ofList [c] from names, String.toList_ofList]
        have same : ((Front.shorthand c).text flag.name ++ value).toList = "-vx".toList :=
          congrArg String.toList (List.cons_eq_cons.mp written).1
        simp only [Front.text, String.toList_append, String.toList_ofList] at same
        obtain rfl : c = 'v' := (List.cons_eq_cons.mp (List.cons_eq_cons.mp same).2).1
        rcases listed with rfl | rfl | rfl <;> contradiction

end FlagSet

end WinZig
