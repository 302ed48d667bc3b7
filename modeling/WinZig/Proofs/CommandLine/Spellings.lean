import WinZig.Proofs.CommandLine.Shapes

/-!
# How a flag is spelled

A name that is not empty, has no equals sign in it and does not start with a hyphen can be written
behind one hyphen or two, by itself or in front of an equals sign and a value. An argument that is
written so is read as this flag and this value, and a switch without a shorthand is read from no
other argument.

Whatever an argument names is a flag of the set.
-/

namespace WinZig

/-- A name that can be written behind hyphens and in front of an equals sign. -/
structure IsFlagName (name : String) : Prop where
  nonempty : name ≠ ""
  bare : '=' ∉ name.toList
  hyphenless : name.toList.head? ≠ some '-'

instance (name : String) : Decidable (IsFlagName name) :=
  decidable_of_iff (name ≠ "" ∧ '=' ∉ name.toList ∧ name.toList.head? ≠ some '-')
    ⟨fun ⟨nonempty, bare, hyphenless⟩ => ⟨nonempty, bare, hyphenless⟩,
      fun ⟨nonempty, bare, hyphenless⟩ => ⟨nonempty, bare, hyphenless⟩⟩

/-- A flag's name is not empty. -/
theorem IsFlagName.toList_ne_nil {name : String} (writable : IsFlagName name) :
    name.toList ≠ [] :=
  fun nothing => writable.nonempty (String.toList_eq_nil_iff.mp nothing)

/-- A text is cut at its first mark. -/
theorem Text.cutAt?_append {mark : Char} {before : List Char} (absent : mark ∉ before)
    (behind : List Char) : cutAt? mark (before ++ mark :: behind) = some (before, behind) := by
  induction before with
  | nil => exact if_pos rfl
  | cons c before inductionHypothesis =>
    rw [List.mem_cons, not_or] at absent
    rw [List.cons_append, cutAt?, if_neg (Ne.symm absent.1), inductionHypothesis absent.2]
    rfl

/-- The two halves of a cut text, with the mark between them, are the text. -/
theorem Text.eq_append_of_cutAt? {mark : Char} {text before behind : List Char}
    (cut : cutAt? mark text = some (before, behind)) : text = before ++ mark :: behind := by
  induction text generalizing before with
  | nil => contradiction
  | cons c text inductionHypothesis =>
    rw [cutAt?] at cut
    split at cut
    · next same =>
      cases cut
      rw [same]
      rfl
    · obtain ⟨⟨front, rest⟩, found, same⟩ := Option.map_eq_some_iff.mp cut
      cases same
      rw [inductionHypothesis found, List.cons_append]

namespace FlagSet

variable {set : FlagSet} {name value argument : String} {flag : Flag}

/-- A name and a value written with an equals sign come apart again. -/
theorem splitValue_append (bare : '=' ∉ name.toList) (value : String) :
    splitValue (name.toList ++ '=' :: value.toList) = (name, some value) := by
  rw [splitValue, Text.cutAt?_append bare]
  simp

/-- What a text was divided into spells it. -/
theorem eq_of_splitValue {body : List Char} {value : Option String}
    (divided : splitValue body = (name, value)) :
    body = name.toList ++ (value.map fun text => '=' :: text.toList).getD [] := by
  unfold splitValue at divided
  split at divided
  · next front behind cut =>
    cases divided
    simpa using Text.eq_append_of_cutAt? cut
  · cases divided
    simp

/-! ## What is read from a spelling -/

/-- A known name with a value is complete, whatever the flag. -/
theorem readName_valued (writable : IsFlagName name) (found : set.find? name = some flag)
    (dashes value : String) :
    set.readName dashes (name.toList ++ '=' :: value.toList) = .complete name value := by
  rw [readName, splitValue_append writable.bare]
  simp [writable.nonempty, found]

/-- A known name without a value is complete on a switch and awaits one elsewhere. -/
theorem readName_bare (writable : IsFlagName name) (found : set.find? name = some flag)
    (dashes : String) :
    set.readName dashes name.toList =
      if flag.content.isSwitch then .complete name "" else .awaiting name (dashes ++ name) := by
  rw [readName, splitValue_bare writable.bare]
  simp [writable.nonempty, found]

/-- Behind one hyphen or two a flag is read by its name. -/
theorem read_hyphens {dashes : String} {tail : List Char} (hyphens : dashes = "-" ∨ dashes = "--")
    (writable : IsFlagName name) (found : set.find? name = some flag)
    (front : (splitValue (name.toList ++ tail)).1 = name)
    (spelled : argument.toList = dashes.toList ++ (name.toList ++ tail)) :
    set.read argument = set.readName dashes (name.toList ++ tail) := by
  obtain ⟨c, chars, same⟩ := List.exists_cons_of_ne_nil writable.toList_ne_nil
  have other : c ≠ '-' := by
    have first := writable.hyphenless
    rw [same] at first
    exact fun hyphen => first (congrArg some hyphen)
  rcases hyphens with rfl | rfl
  · have known : (set.find? (splitValue (name.toList ++ tail)).1).isSome = true := by
      rw [front, found]
      rfl
    rw [same, List.cons_append] at spelled known ⊢
    rw [read, spelled]
    simp [other, known]
  · rw [same] at spelled ⊢
    rw [read, spelled]
    rfl

/-- One hyphen or two before a known name with a value read the same. -/
theorem read_valued {dashes : String} (hyphens : dashes = "-" ∨ dashes = "--")
    (writable : IsFlagName name) (found : set.find? name = some flag) (value : String) :
    set.read (dashes ++ name ++ "=" ++ value) = .complete name value := by
  have front : (splitValue (name.toList ++ '=' :: value.toList)).1 = name := by
    rw [splitValue_append writable.bare]
  have spelled : (dashes ++ name ++ "=" ++ value).toList
      = dashes.toList ++ (name.toList ++ '=' :: value.toList) := by
    simp
  rw [read_hyphens hyphens writable found front spelled]
  exact readName_valued writable found dashes value

/-- One hyphen or two before a bare known name read the same. -/
theorem read_bare {dashes : String} (hyphens : dashes = "-" ∨ dashes = "--")
    (writable : IsFlagName name) (found : set.find? name = some flag) :
    set.read (dashes ++ name) =
      if flag.content.isSwitch then .complete name "" else .awaiting name (dashes ++ name) := by
  have front : (splitValue (name.toList ++ [])).1 = name := by
    rw [List.append_nil, splitValue_bare writable.bare]
  have spelled : (dashes ++ name).toList = dashes.toList ++ (name.toList ++ []) := by
    simp
  rw [read_hyphens hyphens writable found front spelled, List.append_nil]
  exact readName_bare writable found dashes

/-- A hyphen and another character are two bytes. -/
theorem read_positional (plain : argument.utf8ByteSize < 2 ∨ argument.toList.head? ≠ some '-') :
    set.read argument = .positional := by
  rw [← String.utf8Len_toList] at plain
  rw [read]
  generalize argument.toList = chars at plain
  cases chars with
  | nil => rfl
  | cons c rest =>
    by_cases hyphen : c = '-'
    · subst hyphen
      cases rest with
      | nil => rfl
      | cons next rest =>
        have first := Char.utf8Size_pos '-'
        have second := Char.utf8Size_pos next
        have short : String.utf8Len ('-' :: next :: rest) < 2 := by
          simpa only [List.head?_cons, ne_eq, not_true_eq_false, or_false] using plain
        simp only [String.utf8Len_cons] at short
        omega
    · simp [hyphen]

/-! ## What was spelled -/

/-- Characters make up a text that is not empty. -/
theorem ofList_ne_empty {chars : List Char} (something : chars ≠ []) : String.ofList chars ≠ "" :=
  fun empty => something (by simpa using congrArg String.toList empty)

/-- What can be read from a name behind hyphens. -/
inductive NameRead (set : FlagSet) (dashes : String) (body : List Char) : Reading → Prop
  | refused (error : ArgumentError) : NameRead set dashes body (.refused error)
  | bare {flag : Flag} (listed : flag ∈ set.flags) (switch : flag.content.isSwitch = true)
      (spelled : body = flag.name.toList) : NameRead set dashes body (.complete flag.name "")
  | waiting {flag : Flag} (listed : flag ∈ set.flags) (valued : flag.content.isSwitch = false)
      (spelled : body = flag.name.toList) :
      NameRead set dashes body (.awaiting flag.name (dashes ++ flag.name))
  | equals {flag : Flag} {value : String} (listed : flag ∈ set.flags)
      (spelled : body = flag.name.toList ++ '=' :: value.toList) :
      NameRead set dashes body (.complete flag.name value)

/-- Reading a name ends in one of the ways `NameRead` lists. -/
theorem readName_cases (set : FlagSet) (dashes : String) (body : List Char) :
    NameRead set dashes body (set.readName dashes body) := by
  unfold readName
  split
  · exact .refused _
  next name value _ divided =>
  have spelled := eq_of_splitValue divided
  split
  · exact .refused _
  next flag found =>
  have listed := List.mem_of_find?_eq_some found
  obtain rfl := name_of_find? found
  cases value with
  | some value => exact .equals listed spelled
  | none =>
    have bare : body = flag.name.toList := by simpa using spelled
    cases switch : flag.content.isSwitch with
    | true => exact .bare listed switch bare
    | false => exact .waiting listed switch bare

/-- What can be read from a shorthand behind a hyphen. -/
inductive ShorthandRead (set : FlagSet) (c : Char) (rest : List Char) : Reading → Prop
  | refused (error : ArgumentError) : ShorthandRead set c rest (.refused error)
  | switch {flag : Flag} (listed : flag ∈ set.flags) (letter : flag.shorthand = String.ofList [c])
      (switch : flag.content.isSwitch = true) : ShorthandRead set c rest (.complete flag.name "")
  | waiting {flag : Flag} (listed : flag ∈ set.flags) (letter : flag.shorthand = String.ofList [c])
      (valued : flag.content.isSwitch = false) (nothing : rest = []) :
      ShorthandRead set c rest (.awaiting flag.name ("-" ++ String.ofList [c]))
  | behind {flag : Flag} (listed : flag ∈ set.flags) (letter : flag.shorthand = String.ofList [c])
      (valued : flag.content.isSwitch = false) (something : rest ≠ []) :
      ShorthandRead set c rest (.complete flag.name (String.ofList rest))

/-- Reading a shorthand ends in one of the ways `ShorthandRead` lists. -/
theorem readShorthand_cases (set : FlagSet) (c : Char) (rest : List Char) :
    ShorthandRead set c rest (set.readShorthand c rest) := by
  unfold readShorthand
  split
  · exact .refused _
  dsimp only
  split
  · exact .refused _
  next flag found =>
  have listed := List.mem_of_find?_eq_some found
  have letter : flag.shorthand = String.ofList [c] := by simpa using List.find?_some found
  cases switch : flag.content.isSwitch with
  | true => exact .switch listed letter switch
  | false =>
    cases rest with
    | nil => exact .waiting listed letter switch rfl
    | cons next rest => exact .behind listed letter switch (List.cons_ne_nil _ _)

/-- The flag that an argument names, and whether its value is still to come. -/
def Reading.named? : Reading → Option (String × Bool)
  | complete name _ => some (name, false)
  | awaiting name _ => some (name, true)
  | _ => none

/-- A name that was read belongs to a flag, and one that awaits a value is no switch's. -/
theorem exists_of_readName {dashes : String} {body : List Char} {waits : Bool}
    (names : (set.readName dashes body).named? = some (name, waits)) :
    ∃ flag ∈ set.flags, flag.name = name ∧ (waits = true → flag.content.isSwitch = false) := by
  have reading := set.readName_cases dashes body
  generalize set.readName dashes body = read at names reading
  cases reading with
  | refused error => contradiction
  | @bare flag listed switch spelled =>
    cases names
    exact ⟨flag, listed, rfl, by simp⟩
  | @waiting flag listed valued spelled =>
    cases names
    exact ⟨flag, listed, rfl, fun _ => valued⟩
  | @equals flag value listed spelled =>
    cases names
    exact ⟨flag, listed, rfl, by simp⟩

/-- A shorthand that was read belongs to a flag that has one, and one that awaits a value is no
switch's. -/
theorem exists_of_readShorthand {c : Char} {body : List Char} {waits : Bool}
    (names : (set.readShorthand c body).named? = some (name, waits)) :
    ∃ flag ∈ set.flags, flag.shorthand ≠ "" ∧ flag.name = name ∧
      (waits = true → flag.content.isSwitch = false) := by
  have lettered {flag : Flag} (letter : flag.shorthand = String.ofList [c]) :
      flag.shorthand ≠ "" := by
    rw [letter]
    exact ofList_ne_empty (List.cons_ne_nil _ _)
  have reading := set.readShorthand_cases c body
  generalize set.readShorthand c body = read at names reading
  cases reading with
  | refused error => contradiction
  | @switch flag listed letter switch =>
    cases names
    exact ⟨flag, listed, lettered letter, rfl, by simp⟩
  | @waiting flag listed letter valued nothing =>
    cases names
    exact ⟨flag, listed, lettered letter, rfl, fun _ => valued⟩
  | @behind flag listed letter valued something =>
    cases names
    exact ⟨flag, listed, lettered letter, rfl, by simp⟩

/-- Only flags of the set are named, and only one that is no switch waits for its value. -/
theorem exists_of_read {waits : Bool} (names : (set.read argument).named? = some (name, waits)) :
    ∃ flag ∈ set.flags, flag.name = name ∧ (waits = true → flag.content.isSwitch = false) := by
  unfold read at names
  split at names
  · contradiction
  · exact exists_of_readName names
  · split at names
    · exact exists_of_readName names
    · obtain ⟨flag, listed, _, about⟩ := exists_of_readShorthand names
      exact ⟨flag, listed, about⟩
  · contradiction

/-- What is read as a name and a value was written so. -/
theorem eq_of_readName {dashes : String} {body : List Char}
    (read : set.readName dashes body = .complete name value) :
    body = name.toList ∧ value = "" ∨ body = name.toList ++ '=' :: value.toList := by
  have reading := set.readName_cases dashes body
  rw [read] at reading
  cases reading with
  | bare listed switch spelled => exact .inl ⟨spelled, rfl⟩
  | equals listed spelled => exact .inr spelled

/-- How a flag and its value are spelled. -/
def Spells (argument name value : String) : Prop :=
  ∃ dashes, (dashes = "-" ∨ dashes = "--") ∧
    (argument = dashes ++ name ∧ value = "" ∨ argument = dashes ++ name ++ "=" ++ value)

/-- A name read as complete was spelled as the argument. -/
theorem spells_of_readName {dashes : String} {body : List Char}
    (hyphens : dashes = "-" ∨ dashes = "--") (same : argument.toList = dashes.toList ++ body)
    (read : set.readName dashes body = .complete name value) : Spells argument name value := by
  refine ⟨dashes, hyphens, ?_⟩
  rcases eq_of_readName read with ⟨rfl, none⟩ | rfl
  · exact .inl ⟨String.ext (by simpa using same), none⟩
  · exact .inr (String.ext (by simpa using same))

/-- A switch without a shorthand is mentioned by its name only. -/
theorem read_eq_complete (distinct : (set.shapes.map Prod.fst).Nodup) (writable : IsFlagName name)
    (found : set.find? name = some flag) (switch : flag.content.isSwitch = true)
    (shorthand : flag.shorthand = "") :
    set.read argument = .complete name value ↔ Spells argument name value := by
  constructor
  · intro read
    unfold FlagSet.read at read
    split at read
    · contradiction
    · next same => exact spells_of_readName (.inr rfl) same read
    · next same =>
      split at read
      · exact spells_of_readName (.inl rfl) same read
      · obtain ⟨other, listed, lettered, named, _⟩ :=
          exists_of_readShorthand (congrArg Reading.named? read)
        have only := find?_of_mem distinct listed
        rw [named, found] at only
        cases only
        contradiction
    · contradiction
  · rintro ⟨dashes, hyphens, ⟨rfl, rfl⟩ | rfl⟩
    · rw [read_bare hyphens writable found, if_pos switch]
    · exact read_valued hyphens writable found value

end FlagSet

end WinZig
