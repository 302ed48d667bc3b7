import Mathlib
import WinZig.CommandLine.FlagSet

/-!
# What reading arguments leaves alone

How an argument is read depends on the names and the shorthands of the flags and on which of them
are switches. This is the shape of a flag set, and reading arguments does not change it: a flag that
is given a value keeps its shape, and all others stay as they are.

A switch that is named without a value is turned on, whatever it was. Turning switches on has
nothing to do with giving values to other flags, and neither the order nor the number of times
matters.
-/

namespace WinZig

/-- A text without the mark is not cut. -/
theorem Text.cutAt?_eq_none {mark : Char} {text : List Char} (absent : mark ∉ text) :
    cutAt? mark text = none := by
  induction text with
  | nil => rfl
  | cons c text inductionHypothesis =>
    rw [List.mem_cons, not_or] at absent
    rw [cutAt?, if_neg (Ne.symm absent.1), inductionHypothesis absent.2]
    rfl

/-- What decides how the arguments of a flag are read. -/
def Flag.shape (flag : Flag) : String × String × Bool :=
  (flag.name, flag.shorthand, flag.content.isSwitch)

/-- A switch that was named. -/
def Flag.turnedOn (flag : Flag) : Flag := { flag with given := true, content := .switch true }

/-- A content that takes a value stays a switch or stays none. -/
theorem Content.isSwitch_assign {value : String} {content changed : Content}
    (assigned : content.assign value = .ok changed) : changed.isSwitch = content.isSwitch := by
  unfold assign at assigned
  split at assigned
  · cases assigned
    rfl
  · split at assigned
    · cases assigned
      rfl
    · contradiction
  · cases assigned
    rfl

/-- A flag that takes a value keeps its name, shorthand and kind. -/
theorem Flag.shape_assign {value : String} {flag changed : Flag}
    (assigned : flag.assign value = .ok changed) : changed.shape = flag.shape := by
  unfold assign at assigned
  split at assigned
  · next content inner =>
    cases assigned
    simp only [shape, Content.isSwitch_assign inner]
  · contradiction

/-- A flag that takes a value keeps its name. -/
theorem Flag.name_assign {value : String} {flag changed : Flag}
    (assigned : flag.assign value = .ok changed) : changed.name = flag.name :=
  congrArg Prod.fst (shape_assign assigned)

namespace FlagSet

variable {set other : FlagSet} {name value argument : String} {names names' : List String}
  {flag : Flag}

/-- A name without an equals sign carries no value. -/
theorem splitValue_bare (bare : '=' ∉ name.toList) : splitValue name.toList = (name, none) := by
  rw [splitValue, Text.cutAt?_eq_none bare, String.ofList_toList]

/-- A flag found by a name has that name. -/
theorem name_of_find? (found : set.find? name = some flag) : flag.name = name := by
  simpa using List.find?_some found

/-- What decides how arguments are read. -/
def shapes (set : FlagSet) : List (String × String × Bool) := set.flags.map Flag.shape

/-- The names in the shapes are those of the flags. -/
theorem map_fst_shapes (set : FlagSet) : set.shapes.map Prod.fst = set.flags.map Flag.name := by
  rw [shapes, List.map_map]
  rfl

/-- Looking a flag up by name sees only the shapes. -/
theorem find?_shape (set : FlagSet) (name : String) :
    (set.find? name).map Flag.shape = set.shapes.find? fun shape => shape.1 == name := by
  rw [shapes, List.find?_map]
  rfl

/-- Looking a flag up by shorthand sees only the shapes. -/
theorem findShorthand?_shape (set : FlagSet) (shorthand : String) :
    (set.findShorthand? shorthand).map Flag.shape
      = set.shapes.find? fun shape => shape.2.1 == shorthand := by
  rw [shapes, List.find?_map]
  rfl

/-- Reading a name sees only the shapes. -/
theorem readName_congr (same : set.shapes = other.shapes) (dashes : String) (body : List Char) :
    set.readName dashes body = other.readName dashes body := by
  unfold readName
  split
  · rfl
  · next name value _ _ =>
    have found := set.find?_shape name
    rw [same, ← other.find?_shape] at found
    cases mine : set.find? name <;> cases theirs : other.find? name <;>
      simp_all [Flag.shape]

/-- Reading a shorthand sees only the shapes. -/
theorem readShorthand_congr (same : set.shapes = other.shapes) (c : Char) (rest : List Char) :
    set.readShorthand c rest = other.readShorthand c rest := by
  unfold readShorthand
  split
  · rfl
  · have found := set.findShorthand?_shape (String.ofList [c])
    rw [same, ← other.findShorthand?_shape] at found
    dsimp only
    cases mine : set.findShorthand? (String.ofList [c]) <;>
      cases theirs : other.findShorthand? (String.ofList [c]) <;> simp_all [Flag.shape]

/-- Reading an argument sees only the shapes, so it cannot depend on the values already given. -/
theorem read_congr (same : set.shapes = other.shapes) (argument : String) :
    set.read argument = other.read argument := by
  unfold read
  split
  · rfl
  · exact readName_congr same ..
  · next c rest _ _ _ =>
    have found := set.find?_shape (splitValue (c :: rest)).1
    rw [same, ← other.find?_shape] at found
    have known := congrArg Option.isSome found
    rw [Option.isSome_map, Option.isSome_map] at known
    rw [known, readName_congr same, readShorthand_congr same]
  · rfl

/-! ## Naming switches -/

/-- A set in which the switches of some names were named. -/
def turnOn (names : List String) (set : FlagSet) : FlagSet :=
  { set with flags := set.flags.map fun flag => if flag.name ∈ names then flag.turnedOn else flag }

/-- Turning on no switch changes nothing. -/
theorem turnOn_nil (set : FlagSet) : set.turnOn [] = set := by
  simp [turnOn]

/-- Which switches are turned on matters, their order and repetition do not. -/
theorem turnOn_congr (same : ∀ name, name ∈ names ↔ name ∈ names') (set : FlagSet) :
    set.turnOn names = set.turnOn names' := by
  simp only [turnOn, same]

/-- Switches turned on in two rounds are turned on in one. -/
theorem turnOn_turnOn (set : FlagSet) (first second : List String) :
    (set.turnOn first).turnOn second = set.turnOn (first ++ second) := by
  simp only [turnOn, List.map_map]
  congr 1
  apply List.map_congr_left
  intro flag _
  by_cases early : flag.name ∈ first <;> by_cases late : flag.name ∈ second <;>
    simp [early, late, Flag.turnedOn]

/-- Turning on switches leaves the shapes alone. -/
theorem shapes_turnOn (switches : ∀ shape ∈ set.shapes, shape.1 ∈ names → shape.2.2 = true) :
    (set.turnOn names).shapes = set.shapes := by
  simp only [shapes, turnOn, List.map_map]
  apply List.map_congr_left
  intro flag listed
  by_cases named : flag.name ∈ names
  · have switch := switches flag.shape (List.mem_map_of_mem listed) named
    rw [Function.comp_apply, if_pos named]
    exact Prod.ext rfl (Prod.ext rfl switch.symm)
  · simp [named]

/-- A flag that is not turned on is found as it was. -/
theorem find?_turnOn (unnamed : name ∉ names) :
    (set.turnOn names).find? name = set.find? name := by
  have sameNames : ((fun flag => flag.name == name) ∘ fun flag : Flag =>
      if flag.name ∈ names then flag.turnedOn else flag) = fun flag => flag.name == name := by
    funext flag
    by_cases on : flag.name ∈ names <;> simp [on, Flag.turnedOn]
  simp only [find?, turnOn, List.find?_map, sameNames]
  cases found : set.flags.find? fun flag => flag.name == name with
  | none => rfl
  | some flag => rw [Option.map_some, name_of_find? found, if_neg unnamed]

/-- An update that keeps the shape of the flag it changes keeps all shapes. -/
theorem shapes_update {change : Flag → Flag}
    (keeps : ∀ flag ∈ set.flags, flag.name = name → (change flag).shape = flag.shape) :
    (set.update name change).shapes = set.shapes := by
  simp only [shapes, update, List.map_map]
  apply List.map_congr_left
  intro flag listed
  by_cases named : flag.name = name
  · simpa [named] using keeps flag listed named
  · simp [named]

/-- Updating one flag and turning on others commute. -/
theorem update_turnOn {change : Flag → Flag} (unnamed : name ∉ names)
    (keeps : ∀ flag, flag.name = name → (change flag).name = name) :
    (set.turnOn names).update name change = (set.update name change).turnOn names := by
  simp only [turnOn, update, List.map_map]
  congr 1
  apply List.map_congr_left
  intro flag _
  by_cases named : flag.name = name
  · have changed := keeps flag named
    simp [named, changed, unnamed]
  · by_cases on : flag.name ∈ names <;> simp [named, on, Flag.turnedOn]

/-- With distinct names, each flag is the one its name finds. -/
theorem find?_of_mem (unique : (set.shapes.map Prod.fst).Nodup) (listed : flag ∈ set.flags) :
    set.find? flag.name = some flag := by
  rw [map_fst_shapes] at unique
  cases found : set.find? flag.name with
  | none =>
    have absent := List.find?_eq_none.mp found flag listed
    simp at absent
  | some first =>
    rw [List.inj_on_of_nodup_map unique (List.mem_of_find?_eq_some found) listed
      (name_of_find? found)]

/-- Marking a flag as given leaves the shapes alone. -/
theorem shapes_mark (set : FlagSet) (name : String) : (set.mark name).shapes = set.shapes :=
  shapes_update fun _ _ _ => rfl

/-- A marked flag is found marked. -/
theorem find?_mark (set : FlagSet) (name : String) :
    (set.mark name).find? name = (set.find? name).map Flag.mark := by
  have sameNames : ((fun flag => flag.name == name) ∘ fun flag : Flag =>
      if flag.name = name then flag.mark else flag) = fun flag => flag.name == name := by
    funext flag
    by_cases named : flag.name = name <;> simp [named, Flag.mark]
  simp only [find?, mark, update, List.find?_map, sameNames]
  cases found : set.flags.find? fun flag => flag.name == name with
  | none => rfl
  | some flag => rw [Option.map_some, Option.map_some, if_pos (name_of_find? found)]

/-- A flag that accepts a value is replaced by what it becomes. -/
theorem assign_eq_update {change : Flag → Flag} (unique : (set.shapes.map Prod.fst).Nodup)
    (found : set.find? name = some flag) (assigned : flag.mark.assign value = .ok (change flag)) :
    set.assign name value = (set.update name change, none) := by
  have same : (set.mark name).update name (fun _ => change flag) = set.update name change := by
    simp only [mark, update, List.map_map]
    congr 1
    apply List.map_congr_left
    intro other listed
    by_cases named : other.name = name
    · have only := find?_of_mem unique listed
      rw [named, found] at only
      cases only
      simp [named, Flag.mark]
    · simp [named]
  simp only [assign, find?_mark, found, Option.map_some, assigned, same]

/-- Naming a switch without a value turns it on. -/
theorem assign_switch (unique : (set.shapes.map Prod.fst).Nodup)
    (found : set.find? name = some flag) (switch : flag.content.isSwitch = true) :
    set.assign name "" = (set.turnOn [name], none) := by
  have assigned : flag.mark.assign "" = .ok flag.turnedOn := by
    cases content : flag.content <;> rw [content] at switch
    · contradiction
    · simp [Flag.assign, Flag.mark, Flag.turnedOn, content, Content.assign, Content.truth?]
    · contradiction
  rw [assign_eq_update unique found assigned]
  simp only [update, turnOn, List.mem_singleton]

/-- Marking one flag and turning on others commute. -/
theorem mark_turnOn (unnamed : name ∉ names) :
    (set.turnOn names).mark name = (set.mark name).turnOn names :=
  update_turnOn unnamed fun _ named => named

/-- Giving a flag a value has nothing to do with switches of other names. -/
theorem assign_turnOn (unnamed : name ∉ names) (value : String) :
    (set.turnOn names).assign name value
      = ((set.assign name value).1.turnOn names, (set.assign name value).2) := by
  simp only [assign, mark_turnOn unnamed, find?_turnOn unnamed]
  cases found : (set.mark name).find? name with
  | none => rfl
  | some flag =>
    cases assigned : flag.assign value with
    | error error => simp only [assigned]
    | ok changed =>
      have named : changed.name = name := (Flag.name_assign assigned).trans (name_of_find? found)
      simp only [assigned, update_turnOn unnamed fun _ _ => named]

/-- An update only touches flags of its name. -/
theorem mem_update {change : Flag → Flag}
    (keeps : ∀ flag, flag.name = name → (change flag).name = name)
    (listed : flag ∈ (set.update name change).flags) : flag.name = name ∨ flag ∈ set.flags := by
  obtain ⟨old, member, rfl⟩ := List.mem_map.mp listed
  by_cases named : old.name = name
  · left
    rw [if_pos named]
    exact keeps old named
  · right
    rw [if_neg named]
    exact member

/-- A flag that is given a value is marked, and then replaced unless it refuses the value. -/
theorem assign_cases (set : FlagSet) (name value : String) :
    (set.assign name value).1 = set.mark name ∨
      ∃ flag changed, (set.mark name).find? name = some flag ∧ flag.assign value = .ok changed ∧
        (set.assign name value).1 = (set.mark name).update name fun _ => changed := by
  simp only [assign]
  cases found : (set.mark name).find? name with
  | none => exact .inl rfl
  | some flag =>
    cases assigned : flag.assign value with
    | error error => exact .inl (by simp only [assigned])
    | ok changed => exact .inr ⟨flag, changed, rfl, assigned, by simp only [assigned]⟩

/-- Giving a flag a value changes no other flag. -/
theorem mem_assign (listed : flag ∈ (set.assign name value).1.flags) :
    flag.name = name ∨ flag ∈ set.flags := by
  have keeps : ∀ flag : Flag, flag.name = name → flag.mark.name = name := fun _ named => named
  rcases set.assign_cases name value with marked | ⟨old, changed, found, assigned, replaced⟩
  · rw [marked] at listed
    exact mem_update keeps listed
  · have named : changed.name = name := (Flag.name_assign assigned).trans (name_of_find? found)
    rw [replaced] at listed
    rcases mem_update (fun _ _ => named) listed with own | marked
    · exact .inl own
    · exact mem_update keeps marked

/-- Assigning a value, whether it is taken or refused, leaves the shapes alone. -/
theorem shapes_assign (unique : (set.shapes.map Prod.fst).Nodup) (name value : String) :
    (set.assign name value).1.shapes = set.shapes := by
  rw [← shapes_mark set name] at unique ⊢
  rcases set.assign_cases name value with marked | ⟨flag, changed, found, assigned, replaced⟩
  · rw [marked]
  · rw [replaced]
    refine shapes_update fun other listed named => ?_
    have only := find?_of_mem unique listed
    rw [named, found] at only
    cases only
    exact Flag.shape_assign assigned

/-! ## One argument after another -/

/-- Reads on after a flag was given a value, unless it refused it. -/
def readOn (arguments : List String) :
    FlagSet × Option ArgumentError → FlagSet × Option ArgumentError
  | (set, none) => set.readAll arguments
  | (set, some error) => (set, some error)

/-- An argument that settles its flag assigns it, and reading goes on. -/
theorem readAll_complete (read : set.read argument = .complete name value)
    (arguments : List String) :
    set.readAll (argument :: arguments) = readOn arguments (set.assign name value) := by
  rw [readAll, read]
  dsimp only
  rcases set.assign name value with ⟨changed, _ | error⟩ <;> rfl

/-- An argument that awaits a value takes the next one, and reading goes on. -/
theorem readAll_awaiting {spelling : String} (read : set.read argument = .awaiting name spelling)
    (value : String) (arguments : List String) :
    set.readAll (argument :: value :: arguments) = readOn arguments (set.assign name value) := by
  rw [readAll, read]
  dsimp only
  rcases set.assign name value with ⟨changed, _ | error⟩ <;> rfl

end FlagSet

end WinZig
