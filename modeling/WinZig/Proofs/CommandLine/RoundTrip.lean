import WinZig.Proofs.CommandLine.Spellings

/-!
# Command lines can be written

A command line is written from items: settings of flags, each in one of three spellings, and
positional arguments between them. Reading it gives the items back. Every flag holds what its
settings amount to and counts as named if there is one, positional arguments are kept in order, and
so is all that stands behind two hyphens.

Reading takes one item after another. Settings do not change the shape of a flag set, so an item is
read alike wherever it stands, and the values of a flag can be collected from the whole line.
-/

namespace WinZig

/-! ## Items -/

/-- How the setting of a flag is spelled. -/
inductive Spelling where
  /-- Two hyphens, and the value behind an equals sign. -/
  | double
  /-- One hyphen, and the value behind an equals sign. -/
  | single
  /-- Two hyphens, and the value as the next argument. -/
  | apart
deriving DecidableEq, Repr

/-- A setting of a flag, or a positional argument. -/
inductive LineItem where
  | setting (spelling : Spelling) (name value : String)
  | positional (argument : String)
deriving DecidableEq, Repr

namespace LineItem

/-- The arguments that an item is written as. -/
def arguments : LineItem → List String
  | setting .double name value => ["--" ++ name ++ "=" ++ value]
  | setting .single name value => ["-" ++ name ++ "=" ++ value]
  | setting .apart name value => ["--" ++ name, value]
  | positional argument => [argument]

/-- The value that an item gives to the flag of a name. -/
def valueOf? (name : String) : LineItem → Option String
  | setting _ other value => if other = name then some value else none
  | positional _ => none

/-- The positional argument that an item is. -/
def argument? : LineItem → Option String
  | setting .. => none
  | positional argument => some argument

/-- A flag has a value among some items if one of them gives it one. -/
theorem not_isEmpty_filterMap (name : String) (items : List LineItem) :
    (!(items.filterMap (valueOf? name)).isEmpty)
      = items.any fun item => (item.valueOf? name).isSome := by
  induction items with
  | nil => rfl
  | cons item items inductionHypothesis =>
    cases given : item.valueOf? name <;> simp [given, inductionHypothesis]

end LineItem

namespace Content

/-- The words for true. -/
def trueWords : List String := ["1", "t", "T", "TRUE", "true", "True"]

/-- The words for false. -/
def falseWords : List String := ["0", "f", "F", "FALSE", "false", "False"]

/-- What is held after some values: a text or a switch holds the last one, and a list grows by all
of them. -/
def after (values : List String) : Content → Content
  | text value => text (values.getLast?.getD value)
  | switch on => switch ((values.getLast?.map fun value => decide (value ∈ trueWords)).getD on)
  | list items => if values = [] then list items else list (some (items.getD [] ++ values))

/-- Values reach a content one at a time. -/
theorem after_cons (value : String) (values : List String) (content : Content) :
    content.after (value :: values) = (content.after [value]).after values := by
  cases content with
  | text held => simp [after, List.getLast?_cons]
  | switch on => cases last : values.getLast? <;> simp [after, List.getLast?_cons, last]
  | list items =>
    by_cases none : values = []
    · simp [after, none]
    · simp [after, none]

/-- No values leave a content alone. -/
theorem after_nil (content : Content) : content.after [] = content := by
  cases content <;> rfl

/-- Every word for a truth value is read, as true exactly when it stands among the true ones. -/
theorem truth?_of_mem {value : String} (boolean : value ∈ trueWords ++ falseWords) :
    truth? value = some (decide (value ∈ trueWords)) := by
  revert value
  decide

/-- A value that is no boolean is refused by a switch only. -/
theorem assign_eq_after {value : String} {content : Content}
    (boolean : content.isSwitch = true → value ∈ trueWords ++ falseWords) :
    content.assign value = .ok (content.after [value]) := by
  cases content with
  | text held => rfl
  | switch on => simp [assign, truth?_of_mem (boolean rfl), after]
  | list items => rfl

end Content

/-- A flag after some values. -/
def Flag.after (values : List String) (flag : Flag) : Flag :=
  { flag with content := flag.content.after values, given := flag.given || !values.isEmpty }

/-- No values leave a flag alone. -/
theorem Flag.after_nil (flag : Flag) : flag.after [] = flag := by
  simp [after, Content.after_nil]

/-- Values reach a flag one at a time. -/
theorem Flag.after_cons (value : String) (values : List String) (flag : Flag) :
    flag.after (value :: values) = (flag.after [value]).after values := by
  simp [after, Content.after_cons value values]

/-- Values do not turn a switch into anything else, nor anything else into a switch. -/
theorem Content.isSwitch_after (values : List String) (content : Content) :
    (content.after values).isSwitch = content.isSwitch := by
  cases content with
  | text value => rfl
  | switch on => rfl
  | list items =>
    rw [after]
    split <;> rfl

/-- Values leave a flag's name, shorthand and kind alone. -/
theorem Flag.shape_after (values : List String) (flag : Flag) :
    (flag.after values).shape = flag.shape := by
  simp only [shape, after, Content.isSwitch_after]

/-- An item can stand on a command line: it sets a flag, to a boolean and not apart if that is a
switch; or it is positional, for it is shorter than two bytes or does not start with a hyphen. -/
def LineItem.Fits (set : FlagSet) : LineItem → Prop
  | .setting spelling name value => ∃ flag ∈ set.flags, flag.name = name ∧
      (flag.content.isSwitch = true →
        spelling ≠ .apart ∧ value ∈ Content.trueWords ++ Content.falseWords)
  | .positional argument => argument.utf8ByteSize < 2 ∨ argument.toList.head? ≠ some '-'

instance (set : FlagSet) : DecidablePred (LineItem.Fits set)
  | .setting spelling name value =>
    inferInstanceAs (Decidable (∃ flag ∈ set.flags, flag.name = name ∧
      (flag.content.isSwitch = true →
        spelling ≠ .apart ∧ value ∈ Content.trueWords ++ Content.falseWords)))
  | .positional argument =>
    inferInstanceAs (Decidable (argument.utf8ByteSize < 2 ∨ argument.toList.head? ≠ some '-'))

namespace FlagSet

variable {set : FlagSet} {name value argument : String} {flag : Flag} {item : LineItem}

/-! ## Taking items -/

/-- A set that took an item. -/
def take (set : FlagSet) : LineItem → FlagSet
  | .setting _ name value => set.update name (Flag.after [value])
  | .positional argument => set.keep [argument]

/-- A set that took some items. -/
def after (items : List LineItem) (set : FlagSet) : FlagSet :=
  { set with
    flags := set.flags.map fun flag => flag.after (items.filterMap (LineItem.valueOf? flag.name))
    args := set.args ++ items.filterMap LineItem.argument? }

/-- No items leave a set of flags alone. -/
theorem after_nil (set : FlagSet) : set.after [] = set := by
  simp [after, Flag.after_nil]

/-- Items reach a set of flags one at a time. -/
theorem after_cons (item : LineItem) (items : List LineItem) (set : FlagSet) :
    set.after (item :: items) = (set.take item).after items := by
  cases item with
  | positional argument =>
    simp only [after, take, keep, List.filterMap_cons, LineItem.valueOf?, LineItem.argument?,
      List.append_assoc, List.singleton_append]
  | setting spelling name value =>
    simp only [after, take, update, List.map_map, List.filterMap_cons, LineItem.valueOf?,
      LineItem.argument?]
    congr 1
    apply List.map_congr_left
    intro flag _
    by_cases named : flag.name = name
    · simp only [Function.comp_apply, if_pos named, if_pos named.symm]
      exact Flag.after_cons value _ flag
    · simp only [Function.comp_apply, if_neg named, if_neg (Ne.symm named)]

/-- An item leaves the shapes of the flags alone. -/
theorem shapes_take (set : FlagSet) (item : LineItem) : (set.take item).shapes = set.shapes := by
  cases item with
  | positional argument => rfl
  | setting spelling name value => exact shapes_update fun flag _ _ => flag.shape_after [value]

/-- Assigning a value a flag can hold succeeds, and is what the flag keeps of that value. -/
theorem assign_after (distinct : (set.shapes.map Prod.fst).Nodup)
    (found : set.find? name = some flag)
    (boolean : flag.content.isSwitch = true → value ∈ Content.trueWords ++ Content.falseWords) :
    set.assign name value = (set.update name (Flag.after [value]), none) := by
  have assigned : flag.mark.assign value = .ok (flag.after [value]) := by
    simp [Flag.assign, Flag.mark, Flag.after, Content.assign_eq_after boolean]
  exact assign_eq_update distinct found assigned

/-- The names of the flags are different, and each can be written. -/
structure IsWritable (set : FlagSet) : Prop where
  distinct : (set.shapes.map Prod.fst).Nodup
  names : ∀ shape ∈ set.shapes, IsFlagName shape.1

/-- A set stays writable when an item is taken. -/
theorem IsWritable.take (writable : set.IsWritable) (item : LineItem) :
    (set.take item).IsWritable where
  distinct := by
    rw [shapes_take]
    exact writable.distinct
  names := by
    rw [shapes_take]
    exact writable.names

/-- An item that fits a set still fits it after another one is taken. -/
theorem fits_take {other : LineItem} (fits : item.Fits set) : item.Fits (set.take other) := by
  cases item with
  | positional argument => exact fits
  | setting spelling name value =>
    obtain ⟨flag, listed, named, accepts⟩ := fits
    have shaped : flag.shape ∈ (set.take other).shapes := by
      rw [shapes_take]
      exact List.mem_map_of_mem listed
    obtain ⟨later, laterListed, same⟩ := List.mem_map.mp shaped
    have sameName : later.name = flag.name := congrArg Prod.fst same
    have sameKind : later.content.isSwitch = flag.content.isSwitch :=
      congrArg (fun shape => shape.2.2) same
    refine ⟨later, laterListed, sameName.trans named, ?_⟩
    rw [sameKind]
    exact accepts

/-- The step: the arguments of an item are read as the item, whatever follows. -/
theorem readAll_item (writable : set.IsWritable) (fits : item.Fits set) (rest : List String) :
    set.readAll (item.arguments ++ rest) = (set.take item).readAll rest := by
  cases item with
  | positional argument =>
    rw [LineItem.arguments, List.singleton_append, readAll, read_positional fits]
    rfl
  | setting spelling name value =>
    obtain ⟨flag, listed, rfl, accepts⟩ := fits
    have found := find?_of_mem writable.distinct listed
    have named := writable.names flag.shape (List.mem_map_of_mem listed)
    have assigned := assign_after writable.distinct found fun switch => (accepts switch).2
    have taken : readOn rest (set.assign flag.name value)
        = (set.take (.setting spelling flag.name value)).readAll rest := by
      rw [assigned]
      rfl
    rw [← taken]
    cases spelling with
    | double => exact readAll_complete (read_valued (.inr rfl) named found value) rest
    | single => exact readAll_complete (read_valued (.inl rfl) named found value) rest
    | apart =>
      have valued : ¬ flag.content.isSwitch = true := fun switch => (accepts switch).1 rfl
      have read := read_bare (.inr rfl) named found
      rw [if_neg valued] at read
      exact readAll_awaiting read value rest

/-- The run: what is written in front of two hyphens is read item by item. -/
theorem readAll_written {items : List LineItem} (writable : set.IsWritable)
    (fits : ∀ item ∈ items, item.Fits set) (others : List String) :
    set.readAll (items.flatMap LineItem.arguments ++ "--" :: others)
      = ((set.after items).keep others, none) := by
  induction items generalizing set with
  | nil =>
    rw [after_nil]
    rfl
  | cons item items inductionHypothesis =>
    rw [List.flatMap_cons, List.append_assoc,
      readAll_item writable (fits item (List.mem_cons_self ..)), after_cons]
    exact inductionHypothesis (writable.take item) fun later listed =>
      fits_take (fits later (List.mem_cons_of_mem item listed))

/-- A command line that is written from items is read as them. No argument of it is refused. The
positional arguments are those among the items, in order, and what is written behind the two
hyphens. A flag holds what its settings amount to, and it counts as named exactly if it has one. -/
theorem parse_written {items : List LineItem} (distinct : (set.flags.map Flag.name).Nodup)
    (names : ∀ flag ∈ set.flags, IsFlagName flag.name)
    (fresh : ∀ flag ∈ set.flags, flag.given = false) (fits : ∀ item ∈ items, item.Fits set)
    (others : List String) :
    set.parse (items.flatMap LineItem.arguments ++ "--" :: others) =
      ({ set with
          flags := set.flags.map fun flag =>
            { flag with
              content := flag.content.after (items.filterMap (LineItem.valueOf? flag.name))
              given := items.any fun item => (item.valueOf? flag.name).isSome }
          args := items.filterMap LineItem.argument? ++ others }, none) := by
  have writable : IsWritable { set with args := [] } :=
    ⟨by simpa only [map_fst_shapes] using distinct, fun shape listed => by
      obtain ⟨flag, member, rfl⟩ := List.mem_map.mp listed
      exact names flag member⟩
  rw [parse, readAll_written writable fits]
  simp only [after, keep, List.nil_append]
  congr 2
  apply List.map_congr_left
  intro flag listed
  rw [Flag.after, fresh flag listed, Bool.false_or, LineItem.not_isEmpty_filterMap]

/-- Some flags: a text, a switch and a list that is not empty to begin with. -/
def someFlags : FlagSet where
  flags :=
    [{ name := "output", shorthand := "o", usage := "", content := .text "a.out" },
     { name := "quiet", usage := "", content := .switch false },
     { name := "plain", usage := "", content := .switch false },
     { name := "include", shorthand := "i", usage := "", content := .list (some ["base"]) },
     { name := "define", usage := "", content := .list none }]

/-- Some settings, with values that look like flags, and positional arguments between them. -/
def someItems : List LineItem :=
  [.setting .double "output" "a=b", .positional "-", .setting .apart "include" "--quiet=false",
   .setting .single "quiet" "T", .setting .single "plain" "1", .positional "quiet",
   .setting .apart "output" "--", .setting .double "plain" "False", .positional "",
   .setting .single "include" ""]

/-- These items, two hyphens and what looks like settings. -/
def someLine : List String :=
  ["--output=a=b", "-", "--include", "--quiet=false", "-quiet=T", "-plain=1", "quiet", "--output",
   "--", "--plain=False", "", "-include=", "--", "--quiet", "--"]

/-- A line with switches, values, positional arguments and a separator parses to what was written.
-/
theorem parse_written_someLine :
    (someFlags.flags.map Flag.name).Nodup ∧ (∀ flag ∈ someFlags.flags, IsFlagName flag.name) ∧
      (∀ flag ∈ someFlags.flags, flag.given = false) ∧ (∀ item ∈ someItems, item.Fits someFlags) ∧
      (someFlags.parse someLine).2 = none ∧
      (someFlags.parse someLine).1.args = ["-", "quiet", "", "--quiet", "--"] ∧
      (someFlags.parse someLine).1.flags.map (fun flag => (flag.name, flag.content, flag.given)) =
        [("output", .text "--", true), ("quiet", .switch true, true),
         ("plain", .switch false, true),
         ("include", .list (some ["base", "--quiet=false", ""]), true),
         ("define", .list none, false)] := by
  have distinct : (someFlags.flags.map Flag.name).Nodup := by decide
  have names : ∀ flag ∈ someFlags.flags, IsFlagName flag.name := by decide
  have fresh : ∀ flag ∈ someFlags.flags, flag.given = false := by decide
  have fits : ∀ item ∈ someItems, item.Fits someFlags := by decide
  have written : someItems.flatMap LineItem.arguments ++ "--" :: ["--quiet", "--"] = someLine := by
    decide
  have read := parse_written distinct names fresh fits ["--quiet", "--"]
  rw [written] at read
  rw [read]
  exact ⟨distinct, names, fresh, fits, rfl, by decide, by decide⟩

end FlagSet

end WinZig
