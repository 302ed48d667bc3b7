import WinZig.Golden.Compare
import WinZig.Proofs.Golden.Filtering

/-!
# Results survive relocation

An output mentions the path of its source in some places. It is described by a text with slots, and
the same text filled with another path is what would be printed if the source stood in another
directory. The two outputs are alike once they are made comparable, whatever else is in the text, as
long as the name of the source occurs nowhere but at the end of a filled slot.

A path ends with the name of its source. So an occurrence of the path is one of its name, and it can
only be a slot: none straddles two slots, or a slot and the text beside it. The substitution of the
path finds exactly the slots, and the directory is gone. What the substitution of the name then does
to the rest, and to the word that stands for the path, is the same for both.
-/

namespace WinZig

/-! ## The last name of a path -/

/-- The path of a file in a directory. -/
def Path.below (directory name : String) : String := directory ++ "/" ++ name

variable {directory name : String}

/-- A path is its directory, a slash and the name. -/
theorem Path.toList_below (directory name : String) :
    (below directory name).toList = directory.toList ++ '/' :: name.toList := by
  simp [below]

/-- A path has a slash in it, so it is not empty. -/
theorem Path.below_ne_empty (directory name : String) : below directory name ≠ "" := by
  intro empty
  have chars := congrArg String.toList empty
  rw [toList_below] at chars
  simp at chars

/-- The last name of a path is the name of the file. -/
theorem Path.base_below (nonempty : name ≠ "") (slashless : '/' ∉ name.toList) :
    base (below directory name) = name := by
  have reversed : (below directory name).toList.reverse
      = name.toList.reverse ++ '/' :: directory.toList.reverse := by
    rw [toList_below]
    simp
  have others : ∀ c ∈ name.toList.reverse, (c != '/') = true := by
    intro c member
    rw [List.mem_reverse] at member
    exact bne_iff_ne.mpr (ne_of_mem_of_not_mem member slashless)
  -- The last character is none of the slashes that would be taken off.
  have kept : (below directory name).toList.reverse.dropWhile (· == '/')
      = (below directory name).toList.reverse := by
    obtain ⟨c, chars, same⟩ := List.exists_cons_of_ne_nil
      (mt List.reverse_eq_nil_iff.mp (mt String.toList_eq_nil_iff.mp nonempty))
    have other : c ≠ '/' := bne_iff_ne.mp (others c (same ▸ List.mem_cons_self))
    simp [reversed, same, other]
  have last : (below directory name).toList.reverse.takeWhile (· != '/') = name.toList.reverse := by
    rw [reversed, List.takeWhile_append_of_pos others]
    simp
  have filled : (below directory name).toList ≠ [] :=
    mt String.toList_eq_nil_iff.mp (below_ne_empty directory name)
  rw [base, if_neg (below_ne_empty directory name)]
  simp only [kept, List.reverse_reverse, List.isEmpty_eq_false_iff.mpr filled, split, last,
    String.ofList_toList, Bool.false_eq_true, if_false]

namespace Golden

/-! ## Texts with slots -/

/-- A text with slots for a path: its characters, with `none` for each slot. -/
abbrev SlottedText := List (Option Char)

namespace SlottedText

variable {text front back : SlottedText} {path : List Char}

/-- The characters of a text whose slots are filled. -/
def chars (path : List Char) (text : SlottedText) : List Char :=
  text.flatMap fun part => (part.map fun c => [c]).getD path

/-- A text whose slots are filled. -/
def fill (path : String) (text : SlottedText) : String := String.ofList (chars path.toList text)

/-- Two texts are filled one after the other. -/
theorem chars_append (path : List Char) (front back : SlottedText) :
    chars path (front ++ back) = chars path front ++ chars path back :=
  List.flatMap_append

/-- A slot is filled with the path. -/
theorem chars_slot (path : List Char) (text : SlottedText) :
    chars path (none :: text) = path ++ chars path text :=
  List.flatMap_cons

/-- A character stays when slots are filled. -/
theorem chars_char (path : List Char) (c : Char) (text : SlottedText) :
    chars path (some c :: text) = c :: chars path text :=
  List.flatMap_cons

/-- A text with a part has a character when filled, as a path is not empty. -/
theorem length_chars_pos (nonempty : path ≠ []) (part : Option Char) (text : SlottedText) :
    0 < (chars path (part :: text)).length := by
  cases part with
  | none =>
    rw [chars_slot, List.length_append]
    exact Nat.add_pos_left (List.length_pos_iff.mpr nonempty) _
  | some c =>
    rw [chars_char]
    exact Nat.zero_lt_succ _

/-- Where a slot stands is known by how much of the filled text is before it. -/
theorem slot_unique {part : Option Char} {front' back' : SlottedText} (nonempty : path ≠ [])
    (here : text = front ++ part :: back) (slot : text = front' ++ none :: back')
    (level : chars path front = chars path front') : part = none := by
  rw [here] at slot
  rcases List.append_eq_append_iff.mp slot with ⟨between, rfl, same⟩ | ⟨between, rfl, same⟩
  · cases between with
    | nil => exact List.head_eq_of_cons_eq same
    | cons first between =>
      have longer := length_chars_pos nonempty first between
      rw [chars_append, List.self_eq_append_right] at level
      simp [level] at longer
  · cases between with
    | nil => exact (List.head_eq_of_cons_eq same).symm
    | cons first between =>
      have longer := length_chars_pos nonempty first between
      rw [chars_append, List.append_right_eq_self] at level
      simp [level] at longer

/-- The run: if the path occurs in the filled text only where a slot begins, it is replaced there and
nowhere else. -/
theorem replaceAll_chars (nonempty : path ≠ [])
    (slots : ∀ before behind, chars path text = before ++ path ++ behind →
      ∃ front back, text = front ++ none :: back ∧ before = chars path front)
    (replacement : List Char) :
    Text.replaceAll path replacement (chars path text) = chars replacement text := by
  -- What is left of the text, behind what was read already.
  suffices rest : ∀ back front, text = front ++ back →
      Text.replaceAll path replacement (chars path back) = chars replacement back from
    rest text [] rfl
  intro back
  induction back with
  | nil => exact fun _ _ => Text.replaceAll_nil path replacement
  | cons part back inductionHypothesis =>
    intro front here
    have further := inductionHypothesis (front ++ [part]) (by simpa using here)
    cases part with
    | none => rw [chars_slot, chars_slot, Text.replaceAll_append nonempty, further]
    | some c =>
      have absent : ∀ rest, c :: chars path back ≠ path ++ rest := by
        intro rest found
        have occurs : chars path text = chars path front ++ path ++ rest := by
          rw [here, chars_append, chars_char, found, List.append_assoc]
        obtain ⟨front', back', slot, level⟩ := slots _ _ occurs
        exact Option.some_ne_none c (slot_unique nonempty here slot level)
      rw [chars_char, chars_char, Text.replaceAll_cons absent, further]

/-! ## Names at the ends of slots -/

/-- Every occurrence of a name in the filled text is the final part of a filled slot: it ends where
the text is filled up to a slot. -/
def NamedAtSlots (name path : String) (text : SlottedText) : Prop :=
  ∀ before behind, chars path.toList text = before ++ name.toList ++ behind →
    ∃ front back, text = front ++ none :: back ∧
      before ++ name.toList = chars path.toList (front ++ [none])

/-- Whether a name occurs at slots only is seen in the parts at the front of the text and of the
filled text. -/
theorem namedAtSlots_iff {path : String} :
    NamedAtSlots name path text ↔
      ∀ before ∈ (chars path.toList text).inits,
        before ++ name.toList <+: chars path.toList text →
          ∃ front ∈ text.inits, front ++ [none] <+: text ∧
            before ++ name.toList = chars path.toList (front ++ [none]) := by
  constructor
  · rintro named before - ⟨behind, occurs⟩
    obtain ⟨front, back, rfl, level⟩ := named before behind occurs.symm
    exact ⟨front, (List.mem_inits _ _).mpr ⟨_, rfl⟩, ⟨back, by simp⟩, level⟩
  · intro named before behind occurs
    have starts : before <+: chars path.toList text :=
      ⟨name.toList ++ behind, by rw [occurs, List.append_assoc]⟩
    obtain ⟨front, -, ⟨back, rfl⟩, level⟩ :=
      named before ((List.mem_inits _ _).mpr starts) ⟨behind, occurs.symm⟩
    exact ⟨front, back, by simp, level⟩

instance (name path : String) (text : SlottedText) : Decidable (NamedAtSlots name path text) :=
  decidable_of_iff _ namedAtSlots_iff.symm

/-- A path that ends with a name occurs only where a slot begins, if its name occurs only at the ends
of slots. -/
theorem NamedAtSlots.slots (named : NamedAtSlots name (Path.below directory name) text)
    (before behind : List Char)
    (occurs : chars (Path.below directory name).toList text
      = before ++ (Path.below directory name).toList ++ behind) :
    ∃ front back, text = front ++ none :: back ∧
      before = chars (Path.below directory name).toList front := by
  have ends : chars (Path.below directory name).toList text
      = (before ++ (directory.toList ++ ['/'])) ++ name.toList ++ behind := by
    rw [occurs, Path.toList_below]
    simp
  obtain ⟨front, back, slot, level⟩ := named _ _ ends
  have whole : before ++ (Path.below directory name).toList
      = chars (Path.below directory name).toList front ++ (Path.below directory name).toList := by
    calc before ++ (Path.below directory name).toList
        = before ++ (directory.toList ++ ['/']) ++ name.toList := by
          rw [Path.toList_below]
          simp
      _ = chars (Path.below directory name).toList (front ++ [none]) := level
      _ = _ := by
          rw [chars_append, chars_slot]
          simp [chars]
  exact ⟨front, back, slot, List.append_cancel_right whole⟩

/-- Substituting the path fills the slots anew. -/
theorem substitute_fill (named : NamedAtSlots name (Path.below directory name) text)
    (replacement : String) :
    substitute (Path.below directory name) replacement (fill (Path.below directory name) text)
      = fill replacement text := by
  have nonempty : (Path.below directory name).toList ≠ [] :=
    mt String.toList_eq_nil_iff.mp (Path.below_ne_empty directory name)
  rw [substitute, fill, String.toList_ofList, replaceAll_chars nonempty named.slots, fill]

end SlottedText

/-! ## Outputs and results -/

open SlottedText

/-- Nothing is left of the directory of a source in an output that was made comparable. -/
theorem normalize_fill {text : SlottedText} (nonempty : name ≠ "") (slashless : '/' ∉ name.toList)
    (named : NamedAtSlots name (Path.below directory name) text) :
    normalize (Path.below directory name) [] (fill (Path.below directory name) text)
      = substitute name placeholder (fill placeholder text) := by
  simp only [normalize, withoutIgnored_nil, if_neg (Path.below_ne_empty directory name),
    Path.base_below nonempty slashless, substitute_fill named]

/-- A result records some texts with slots, filled with the path of its own source. -/
structure CompileResult.Records (stdout stderr : SlottedText) (diagnostics : List SlottedText)
    (result : CompileResult) : Prop where
  stdout : result.result.stdout = fill result.source stdout
  stderr : result.result.stderr = fill result.source stderr
  diagnostics : result.diagnostics = diagnostics.map (fill result.source)

/-- Results that ended alike and are alike once they are made comparable agree. -/
theorem status_compare {ignored : List String} {reference target : CompileResult} (file : String)
    (ended : reference.result.exitCode = target.result.exitCode)
    (timed : reference.result.timedOut = target.result.timedOut)
    (settled : target.result.unstable = false)
    (reports : reference.comparableReports ignored = target.comparableReports ignored)
    (stdout : reference.comparable ignored Execution.stdout =
      target.comparable ignored Execution.stdout)
    (stderr : reference.comparable ignored Execution.stderr =
      target.comparable ignored Execution.stderr) :
    (compare file ignored reference target).status = .pass := by
  have agree : mismatches ignored reference target = [] := by
    simp [mismatches, ended, timed, settled, reports, stdout, stderr]
  rw [compare, agree]

/-- Golden results survive relocation. A text with any number of slots is filled with the paths of a
source in two directories, and each time its name occurs only at the ends of filled slots. Then the
two texts are alike once they are made comparable. So two results agree that record such texts, each
with the path of its own source, and that ended alike. -/
theorem compare_relocated (nonempty : name ≠ "") (slashless : '/' ∉ name.toList)
    (first second : String) :
    (∀ text, NamedAtSlots name (Path.below first name) text →
      NamedAtSlots name (Path.below second name) text →
      normalize (Path.below first name) [] (fill (Path.below first name) text) =
        normalize (Path.below second name) [] (fill (Path.below second name) text)) ∧
    ∀ (file : String) (reference target : CompileResult) (stdout stderr : SlottedText)
      (diagnostics : List SlottedText),
      reference.source = Path.below first name → target.source = Path.below second name →
      (∀ text ∈ stdout :: stderr :: diagnostics,
        NamedAtSlots name reference.source text ∧ NamedAtSlots name target.source text) →
      reference.Records stdout stderr diagnostics → target.Records stdout stderr diagnostics →
      reference.result.unstable = false → target.result.unstable = false →
      reference.result.exitCode = target.result.exitCode →
      reference.result.timedOut = target.result.timedOut →
      (compare file [] reference target).status = .pass := by
  have alike (text : SlottedText) (named : NamedAtSlots name (Path.below first name) text)
      (named' : NamedAtSlots name (Path.below second name) text) :
      normalize (Path.below first name) [] (fill (Path.below first name) text) =
        normalize (Path.below second name) [] (fill (Path.below second name) text) := by
    rw [normalize_fill nonempty slashless named, normalize_fill nonempty slashless named']
  refine ⟨alike, ?_⟩
  intro file reference target stdout stderr diagnostics source source' named recorded recorded'
    _ settled ended timed
  have filled : ∀ text ∈ stdout :: stderr :: diagnostics,
      normalize reference.source [] (fill reference.source text) =
        normalize target.source [] (fill target.source text) := by
    rw [source, source'] at named ⊢
    exact fun text listed => alike text (named text listed).1 (named text listed).2
  obtain ⟨out, err, lines⟩ := List.forall_mem_cons.mp filled |>.imp_right List.forall_mem_cons.mp
  apply status_compare file ended timed settled
  · simp only [CompileResult.comparableReports, normalizeLines, recorded.diagnostics,
      recorded'.diagnostics, List.map_map]
    rw [List.map_congr_left (f := normalize reference.source [] ∘ fill reference.source) lines]
    rfl
  · rw [CompileResult.comparable, CompileResult.comparable, recorded.stdout, recorded'.stdout, out]
  · rw [CompileResult.comparable, CompileResult.comparable, recorded.stderr, recorded'.stderr, err]

/-- A listing with two slots side by side, and one between words. -/
def someListing : SlottedText :=
  none :: none :: ("\n in ".toList.map some ++ none :: "//old:\n".toList.map some)

/-- A report on a source. -/
def someReport : SlottedText := none :: ":4:10: error: 'b'".toList.map some

/-- What is recorded about a source with a name of one letter, which is also one of the word that
stands for its path. -/
def resultIn (directory : String) : CompileResult :=
  let source := Path.below directory "S"
  { source
    result := { stdout := fill source someListing, stderr := fill source someReport, exitCode := 1 }
    diagnostics := [fill source someReport] }

/-- The letter is found in the word for the path too, and it is replaced there alike. -/
theorem compare_relocated_oneLetter :
    NamedAtSlots "S" "/old/S" someListing ∧ NamedAtSlots "S" "new//dir/S" someListing ∧
      fill "/old/S" someListing = "/old/S/old/S\n in /old/S//old:\n" ∧
      normalize "/old/S" [] (fill "/old/S" someListing) =
        normalize "new//dir/S" [] (fill "new//dir/S" someListing) ∧
      (compare "S" [] (resultIn "/old") (resultIn "new//dir")).status = .pass := by
  have listing : NamedAtSlots "S" "/old/S" someListing ∧
      NamedAtSlots "S" "new//dir/S" someListing := by
    decide
  have report : NamedAtSlots "S" "/old/S" someReport ∧
      NamedAtSlots "S" "new//dir/S" someReport := by
    decide
  obtain ⟨alike, agree⟩ :=
    compare_relocated (by decide : "S" ≠ "") (by decide) "/old" "new//dir"
  refine ⟨listing.1, listing.2, by decide, alike _ listing.1 listing.2, ?_⟩
  refine agree "S" _ _ someListing someReport [someReport] rfl rfl ?_ ⟨rfl, rfl, rfl⟩ ⟨rfl, rfl, rfl⟩
    rfl rfl rfl rfl
  simpa [resultIn] using ⟨listing, report⟩

end Golden

end WinZig
