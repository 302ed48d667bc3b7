import WinZig.Proofs.Rendering.Layout
import WinZig.Proofs.Scanning.Tiling

/-!
# The rules of lexemes

What stands at the front of a source is said here by rules that know of no scanner. Names, integers,
blanks, comments up to the end of a line and marks are as long as they can be; comments in braces
and texts are as short as they can be; a character literal and a line end have a fixed length.

No order of trial is given, and none is needed: a step of scanning gives the token that a rule
prescribes, whichever rule that is, and meets a fault exactly where no rule prescribes anything.
-/

namespace WinZig

namespace Lexical

/-- The longest front part of a source that belongs to a class of texts. -/
structure Longest (among : List Char → Prop) (source lexeme : List Char) : Prop where
  front : lexeme <+: source
  belongs : among lexeme
  longest : ∀ other, other <+: source → among other → other.length ≤ lexeme.length

/-- The shortest front part of a source that belongs to a class of texts. -/
structure Shortest (among : List Char → Prop) (source lexeme : List Char) : Prop where
  front : lexeme <+: source
  belongs : among lexeme
  shortest : ∀ other, other <+: source → among other → lexeme.length ≤ other.length

/-! ## Classes of texts -/

/-- The characters that start a name. -/
def StartsName (c : Char) : Prop := Text.isLetter c = true ∨ c = '_'

/-- The characters that a name goes on with. -/
def ContinuesName (c : Char) : Prop := StartsName c ∨ Text.isDigit c = true

/-- The blanks within a line. -/
def Blank (c : Char) : Prop := c = ' ' ∨ c = '\t' ∨ c = '\r'

/-- A text that starts with one sort of characters and goes on with another. -/
def IsRun (starts continues : Char → Prop) (text : List Char) : Prop :=
  ∃ c others, text = c :: others ∧ starts c ∧ ∀ d ∈ others, continues d

/-- Names, reserved or not. -/
def IsWord : List Char → Prop := IsRun StartsName ContinuesName

/-- Integers. -/
def IsInteger : List Char → Prop := IsRun (Text.isDigit · = true) (Text.isDigit · = true)

/-- Blanks. -/
def IsBlank : List Char → Prop := IsRun Blank Blank

/-- Comments up to the end of a line. -/
def IsLineComment : List Char → Prop := IsRun (· = '#') (· ≠ '\n')

/-- Marks. -/
def IsMark (text : List Char) : Prop := ∃ kind ∈ Lexeme.marks, kind.name.toList = text

example : Lexeme.marks.map Kind.name = [":=:", ":=", "..", "<=", "<>", ">=", ":", ".", "<", ">",
    "=", ";", ",", "(", ")", "+", "-", "*", "/"] := rfl

/-- Texts that start with a brace and have as many closing braces as opening ones. -/
def IsBalanced (text : List Char) : Prop :=
  text.head? = some '{' ∧ text.count '}' = text.count '{'

/-- Texts from an opening brace to the first closing one. -/
def IsFlatComment (text : List Char) : Prop :=
  ∃ inside, text = '{' :: (inside ++ ['}']) ∧ '}' ∉ inside

/-- Texts between double quotes, on one line. -/
def IsText (text : List Char) : Prop := ∃ inside, text = '"' :: (inside ++ ['"']) ∧ '\n' ∉ inside

/-- Character literals. -/
def IsCharacter (text : List Char) : Prop :=
  ∃ c, text = ['\'', c, '\''] ∧ c ≠ '\'' ∧ c ≠ '\n' ∧ c ≠ '\x00'

/-! ## Rules -/

/-- The lexemes that may stand at the front of a source, and their kinds. -/
inductive Prescribed (nested : Bool) (source : List Char) : Kind → List Char → Prop
  | atEnd (nothing : source = []) : Prescribed nested source .endOfInput []
  | name {lexeme} (word : Longest IsWord source lexeme)
      (free : ∀ kind ∈ Kind.reserved, kind.name.toList ≠ lexeme) :
      Prescribed nested source .identifier lexeme
  | reserved {kind lexeme} (word : Longest IsWord source lexeme) (listed : kind ∈ Kind.reserved)
      (spelled : kind.name.toList = lexeme) : Prescribed nested source kind lexeme
  | integer {lexeme} (digits : Longest IsInteger source lexeme) :
      Prescribed nested source .integer lexeme
  | blank {lexeme} (blanks : Longest IsBlank source lexeme) : Prescribed nested source .blank lexeme
  | lineComment {lexeme} (line : Longest IsLineComment source lexeme) :
      Prescribed nested source .lineComment lexeme
  | newline (front : ['\n'] <+: source) : Prescribed nested source .newline ['\n']
  | mark {kind lexeme} (mark : Longest IsMark source lexeme) (listed : kind ∈ Lexeme.marks)
      (spelled : kind.name.toList = lexeme) : Prescribed nested source kind lexeme
  | nestedComment {lexeme} (nests : nested = true) (closed : Shortest IsBalanced source lexeme) :
      Prescribed nested source .blockComment lexeme
  | flatComment {lexeme} (flat : nested = false) (front : lexeme <+: source)
      (closed : IsFlatComment lexeme) : Prescribed nested source .blockComment lexeme
  | text {lexeme} (closed : Shortest IsText source lexeme) : Prescribed nested source .text lexeme
  | character {lexeme} (front : lexeme <+: source) (quoted : IsCharacter lexeme) :
      Prescribed nested source .character lexeme

/-! ## Longest and shortest -/

variable {among : List Char → Prop} {source lexeme lexeme' : List Char}

/-- Two front parts of the same length are the same. -/
theorem eq_of_front (front : lexeme <+: source) (front' : lexeme' <+: source)
    (length : lexeme.length = lexeme'.length) : lexeme = lexeme' :=
  (List.prefix_of_prefix_length_le front front' (Nat.le_of_eq length)).eq_of_length length

/-- There is one longest lexeme. -/
theorem Longest.unique (one : Longest among source lexeme) (other : Longest among source lexeme') :
    lexeme = lexeme' :=
  eq_of_front one.front other.front (Nat.le_antisymm (other.longest _ one.front one.belongs)
    (one.longest _ other.front other.belongs))

/-- There is one shortest lexeme. -/
theorem Shortest.unique (one : Shortest among source lexeme)
    (other : Shortest among source lexeme') : lexeme = lexeme' :=
  eq_of_front one.front other.front (Nat.le_antisymm (one.shortest _ other.front other.belongs)
    (other.shortest _ one.front one.belongs))

/-- What is shortest in a source is shortest in every source that it is a front part of. -/
theorem Shortest.again {source' : List Char} (one : Shortest among source lexeme)
    (front : lexeme <+: source') : Shortest among source' lexeme where
  front := front
  belongs := one.belongs
  shortest other front' belongs := by
    by_contra shorter
    have inside := List.prefix_of_prefix_length_le front' front (by omega)
    exact shorter (one.shortest other (inside.trans one.front) belongs)

/-- The shortest text behind a character makes the shortest text with it. -/
theorem shortest_cons_iff {among' : List Char → Prop} {c : Char}
    (same : ∀ text, among' (c :: text) ↔ among text) (filled : ¬ among' []) :
    Shortest among' (c :: source) (c :: lexeme) ↔ Shortest among source lexeme := by
  constructor
  · rintro ⟨front, belongs, shortest⟩
    refine ⟨(List.cons_prefix_cons.mp front).2, (same _).mp belongs, ?_⟩
    intro other front' belongs'
    have bound := shortest (c :: other) (List.cons_prefix_cons.mpr ⟨rfl, front'⟩)
      ((same _).mpr belongs')
    simpa using bound
  · rintro ⟨front, belongs, shortest⟩
    refine ⟨List.cons_prefix_cons.mpr ⟨rfl, front⟩, (same _).mpr belongs, ?_⟩
    intro other front' belongs'
    cases other with
    | nil => exact absurd belongs' filled
    | cons d other =>
      obtain ⟨rfl, within⟩ := List.cons_prefix_cons.mp front'
      exact Nat.succ_le_succ (shortest other within ((same _).mp belongs'))

/-- A run is the longest one if the character behind it does not continue it. -/
theorem longest_run_iff {starts continues : Char → Prop} :
    Longest (IsRun starts continues) source lexeme ↔
      ∃ c chars behind, lexeme = c :: chars ∧ source = c :: (chars ++ behind) ∧ starts c ∧
        (∀ d ∈ chars, continues d) ∧ ∀ d ∈ behind.head?, ¬ continues d := by
  constructor
  · rintro ⟨⟨behind, rfl⟩, ⟨c, chars, rfl, first, others⟩, longest⟩
    refine ⟨c, chars, behind, rfl, rfl, first, others, ?_⟩
    intro d next goesOn
    obtain ⟨more, rfl⟩ : ∃ more, behind = d :: more := List.head?_eq_some_iff.mp next
    have longer := longest (c :: (chars ++ [d])) ⟨more, by simp⟩
      ⟨c, chars ++ [d], rfl, first, by simpa [or_imp, forall_and] using ⟨others, goesOn⟩⟩
    simp at longer
  · rintro ⟨c, chars, behind, rfl, rfl, first, others, ends⟩
    refine ⟨⟨behind, rfl⟩, ⟨c, chars, rfl, first, others⟩, ?_⟩
    rintro other front ⟨c', chars', rfl, -, others'⟩
    obtain ⟨-, front⟩ := List.cons_prefix_cons.mp front
    by_contra longer
    cases behind with
    | nil =>
      have length := front.length_le
      simp only [List.append_nil, List.length_cons] at length longer
      omega
    | cons d behind =>
      have inside : chars ++ [d] <+: chars' :=
        List.prefix_of_prefix_length_le ⟨behind, by simp⟩ front
          (by simp only [List.length_cons, List.length_append, List.length_nil] at longer ⊢; omega)
      exact ends d rfl (others' d (inside.subset (by simp)))

/-- No mark is empty. -/
theorem mark_ne_nil : ∀ kind ∈ Lexeme.marks, kind.name.toList ≠ [] := by decide

/-- At the end, only the end is prescribed. -/
theorem prescribed_nil {nested : Bool} {kind : Kind} (rule : Prescribed nested [] kind lexeme) :
    kind = .endOfInput ∧ lexeme = [] := by
  have vain {starts continues : Char → Prop} (run : Longest (IsRun starts continues) [] lexeme) :
      False := by
    obtain ⟨_, _, _, _, filled, _⟩ := longest_run_iff.mp run
    cases filled
  cases rule with
  | atEnd => exact ⟨rfl, rfl⟩
  | name run | reserved run | integer run | blank run | lineComment run => exact (vain run).elim
  | newline front => simp at front
  | mark longest listed spelled =>
    exact absurd (spelled.trans (List.prefix_nil.mp longest.front)) (mark_ne_nil kind listed)
  | nestedComment nests closed =>
    have starts := closed.belongs.1
    simp [List.prefix_nil.mp closed.front] at starts
  | flatComment flat front closed =>
    obtain ⟨_, rfl, _⟩ := closed
    simp at front
  | text closed =>
    obtain ⟨_, filled, _⟩ := closed.belongs
    simp [List.prefix_nil.mp closed.front] at filled
  | character front quoted =>
    obtain ⟨_, rfl, _⟩ := quoted
    simp at front

end Lexical

namespace Piece

open Lexical

variable {nested : Bool} {c : Char} {rest : List Char}

/-! ## Comments -/

/-- A text closes as many comments as are open before it. -/
def Closes (nested : Bool) (depth : Nat) (text : List Char) : Prop :=
  text.count '}' = depth + if nested then text.count '{' else 0

/-- One character changes the number of open comments by at most one. -/
theorem closes_cons {depth : Nat} (c : Char) (text : List Char) :
    Closes nested (depth + 1) (c :: text) ↔
      Closes nested (if c = '}' then depth else if c = '{' && nested then depth + 2 else depth + 1)
        text := by
  unfold Closes
  by_cases closing : c = '}'
  · subst closing
    cases nested <;> simp; omega
  · by_cases opening : c = '{'
    · subst opening
      cases nested <;> simp; omega
    · simp [closing, opening]

/-- What is read of a comment is the shortest text that closes it. -/
theorem closeComment_shortest {depth : Nat} {inside behind : List Char}
    (closed : closeComment nested depth rest = some (inside, behind)) :
    Shortest (Closes nested depth) rest inside := by
  induction rest generalizing depth inside with
  | nil =>
    cases depth with
    | zero =>
      obtain ⟨rfl, rfl⟩ : inside = [] ∧ behind = [] := by simpa [closeComment, eq_comm] using closed
      exact ⟨ List.nil_prefix, by simp [Closes], fun _ _ _ => Nat.zero_le _⟩
    | succ depth => simp [closeComment] at closed
  | cons c rest inductionHypothesis =>
    cases depth with
    | zero =>
      obtain ⟨rfl, rfl⟩ : inside = [] ∧ behind = c :: rest := by
        simpa [closeComment, eq_comm] using closed
      exact ⟨ List.nil_prefix, by simp [Closes], fun _ _ _ => Nat.zero_le _⟩
    | succ depth =>
      rw [closeComment] at closed
      obtain ⟨⟨inner, tail⟩, found, same⟩ := Option.map_eq_some_iff.mp closed
      obtain ⟨rfl, rfl⟩ := Prod.mk.inj same
      exact (shortest_cons_iff (closes_cons c) (by simp [Closes])).mpr (inductionHypothesis found)

/-- A comment that is left open is closed by no front part of what follows. -/
theorem closeComment_open {depth : Nat} (left : closeComment nested depth rest = none) :
    ∀ other, other <+: rest → ¬ Closes nested depth other := by
  induction rest generalizing depth with
  | nil =>
    cases depth with
    | zero => simp [closeComment] at left
    | succ depth =>
      intro other front closes
      rw [List.prefix_nil.mp front] at closes
      simp [Closes] at closes
  | cons c rest inductionHypothesis =>
    cases depth with
    | zero => simp [closeComment] at left
    | succ depth =>
      rw [closeComment, Option.map_eq_none_iff] at left
      intro other front closes
      cases other with
      | nil => simp [Closes] at closes
      | cons d other =>
        obtain ⟨rfl, within⟩ := List.cons_prefix_cons.mp front
        exact inductionHypothesis left other within ((closes_cons d other).mp closes)

/-- With nesting, a comment is closed where its braces are balanced. -/
theorem shortest_balanced {inside : List Char} :
    Shortest IsBalanced ('{' :: rest) ('{' :: inside) ↔ Shortest (Closes true 1) rest inside := by
  have balanced (text : List Char) : IsBalanced ('{' :: text) ↔ Closes true 1 text := by
    simp [IsBalanced, Closes, Nat.add_comm]
  exact shortest_cons_iff balanced (by simp [IsBalanced])

/-- Without nesting, a comment is closed by the first closing brace. -/
theorem shortest_flat {inside : List Char} :
    Shortest (Closes false 1) rest inside ↔
      inside <+: rest ∧ ∃ front, inside = front ++ ['}'] ∧ '}' ∉ front := by
  have closes {text : List Char} : Closes false 1 text ↔ text.count '}' = 1 := by simp [Closes]
  constructor
  · rintro ⟨front, belongs, shortest⟩
    refine ⟨front, ?_⟩
    rw [closes] at belongs
    obtain rfl | ⟨init, last, rfl⟩ := List.eq_nil_or_concat inside
    · simp at belongs
    · rw [List.concat_eq_append] at *
      have counts : init.count '}' + [last].count '}' = 1 := by rw [← List.count_append, belongs]
      by_cases brace : last = '}'
      · subst brace
        exact ⟨init, rfl, List.count_eq_zero.mp (by simpa using counts)⟩
      · have shorter := shortest init ((List.prefix_append _ _).trans front)
          (closes.mpr (by simpa [brace] using counts))
        simp at shorter
  · rintro ⟨front, init, rfl, none⟩
    have empty : init.count '}' = 0 := List.count_eq_zero.mpr none
    refine ⟨front, closes.mpr (by simp [empty]), ?_⟩
    intro other front' belongs'
    by_contra shorter
    have inside : other <+: init :=
      List.prefix_of_prefix_length_le front' ((List.prefix_append _ _).trans front)
        (by simp only [List.length_append, List.length_singleton] at shorter; omega)
    have fewer := inside.sublist.count_le '}'
    rw [closes] at belongs'
    omega

/-! ## Texts -/

/-- The characters of a text that do not close it. -/
def goesOnText (c : Char) : Bool := c != '"' && c != '\n'

/-- A text is closed on its line exactly if a quote is the first character to stop it. -/
theorem closes_text_iff :
    (∃ inside, inside ++ ['"'] <+: rest ∧ '\n' ∉ inside) ↔
      ∃ behind, rest.dropWhile goesOnText = '"' :: behind := by
  induction rest with
  | nil => simp
  | cons c rest inductionHypothesis =>
    by_cases quote : c = '"'
    · subst quote
      constructor
      · exact fun _ => ⟨rest, rfl⟩
      · exact fun _ => ⟨[], ⟨rest, rfl⟩, by simp⟩
    · by_cases newline : c = '\n'
      · subst newline
        constructor
        · rintro ⟨inside, front, flat⟩
          cases inside with
          | nil => simp at front
          | cons d inside =>
            obtain ⟨rfl, -⟩ := List.cons_prefix_cons.mp front
            simp at flat
        · rintro ⟨behind, stops⟩
          simp [goesOnText] at stops
      · have goesOn : goesOnText c = true := by simp [goesOnText, quote, newline]
        rw [List.dropWhile_cons_of_pos goesOn, ← inductionHypothesis]
        constructor
        · rintro ⟨inside, front, flat⟩
          cases inside with
          | nil =>
            obtain ⟨rfl, -⟩ := List.cons_prefix_cons.mp front
            exact absurd rfl quote
          | cons d inside =>
            obtain ⟨-, within⟩ := List.cons_prefix_cons.mp front
            exact ⟨inside, within, List.not_mem_of_not_mem_cons flat⟩
        · rintro ⟨inside, front, flat⟩
          exact ⟨c :: inside, List.cons_prefix_cons.mpr ⟨rfl, front⟩,
            by simp [flat, Ne.symm newline]⟩

/-- A text is read up to its closing quote, or is wrong if there is none on the line. -/
theorem string_eq (rest : List Char) :
    (∃ behind, rest.dropWhile goesOnText = '"' :: behind ∧
      string rest = { kind := .text, chars := '"' :: (rest.takeWhile goesOnText ++ ['"'])
                      rest := behind }) ∨
    (∀ behind, rest.dropWhile goesOnText ≠ '"' :: behind) ∧
      (string rest).cause = some .openText := by
  unfold string goesOnText
  dsimp only
  split
  · next behind closed => exact .inl ⟨behind, closed, rfl⟩
  · next other => exact .inr ⟨other, rfl⟩

/-- A text that is closed is the shortest one. -/
theorem string_shortest (sound : (string rest).cause = none) :
    Shortest IsText ('"' :: rest) (string rest).chars := by
  rcases string_eq rest with ⟨behind, stops, same⟩ | ⟨-, wrong⟩
  · have whole := List.takeWhile_append_dropWhile (p := goesOnText) (l := rest)
    have inside : ∀ c ∈ rest.takeWhile goesOnText, c ≠ '"' ∧ c ≠ '\n' := fun c member => by
      simpa [goesOnText] using List.mem_takeWhile_imp member
    rw [stops] at whole
    rw [same]
    refine ⟨⟨behind, by simpa using whole⟩, ⟨_, rfl, fun member => (inside _ member).2 rfl⟩, ?_⟩
    rintro other front ⟨within, rfl, -⟩
    obtain ⟨-, front⟩ := List.cons_prefix_cons.mp front
    by_contra shorter
    have early : within ++ ['"'] <+: rest.takeWhile goesOnText :=
      List.prefix_of_prefix_length_le front ( List.takeWhile_prefix _)
        (by simp only [List.length_cons, List.length_append, List.length_nil] at shorter ⊢; omega)
    exact (inside '"' (early.subset (by simp))).1 rfl
  · rw [sound] at wrong
    cases wrong

/-- Nothing is wrong with a text that a front part of the source closes. -/
theorem string_sound {lexeme : List Char} (front : lexeme <+: '"' :: rest)
    (closed : IsText lexeme) : (string rest).cause = none := by
  obtain ⟨inside, rfl, flat⟩ := closed
  obtain ⟨-, front⟩ := List.cons_prefix_cons.mp front
  obtain ⟨behind, stops⟩ := closes_text_iff.mp ⟨inside, front, flat⟩
  rcases string_eq rest with ⟨_, _, same⟩ | ⟨other, -⟩
  · rw [same]
  · exact absurd stops (other behind)

/-! ## Characters -/

/-- A character with which nothing is wrong is one between two quotes. -/
theorem quoted_isCharacter (sound : (quoted rest).cause = none) :
    (quoted rest).kind = .character ∧ IsCharacter (quoted rest).chars := by
  unfold quoted at sound ⊢
  split
  · next c behind =>
    by_cases fits : c ≠ '\'' ∧ c ≠ '\n' ∧ c ≠ '\x00'
    · rw [if_pos fits]
      exact ⟨rfl, c, rfl, fits⟩
    · simp [fits] at sound
  · next other => simp at sound

/-! ## Marks -/

/-- A mark is one of the listed ones, as it is spelled. -/
theorem mark?_spelled {source chars behind : List Char} {kind : Kind}
    (found : mark? source = some (kind, chars, behind)) :
    kind ∈ Lexeme.marks ∧ kind.name.toList = chars := by
  unfold mark? at found
  split at found <;> simp at found <;> obtain ⟨rfl, rfl, -⟩ := found <;> decide

/-- A mark that goes on with a character is the front part of a longer one. -/
theorem exists_longer_mark {kind : Kind} {d : Char} (listed : kind ∈ Lexeme.marks)
    (goesOn : Lexeme.goesOn kind d = true) :
    ∃ longer ∈ Lexeme.marks, longer.name.toList = kind.name.toList ++ [d] := by
  have fixed : ∀ kind ∈ Lexeme.marks,
      kind ∉ Kind.reserved ∧ kind ≠ .integer ∧ kind ≠ .identifier := by decide
  obtain ⟨free, figure, name⟩ := fixed kind listed
  unfold Lexeme.goesOn at goesOn
  split at goesOn
  · exact absurd rfl figure
  · exact ⟨.assign, by decide, by rw [eq_of_beq goesOn]; rfl⟩
  · exact ⟨.greaterEqual, by decide, by rw [eq_of_beq goesOn]; rfl⟩
  · exact ⟨.swap, by decide, by rw [eq_of_beq goesOn]; rfl⟩
  · exact ⟨.dotDot, by decide, by rw [eq_of_beq goesOn]; rfl⟩
  · rcases Bool.or_eq_true_iff.mp goesOn with same | same
    · exact ⟨.lessEqual, by decide, by rw [eq_of_beq same]; rfl⟩
    · exact ⟨.notEqual, by decide, by rw [eq_of_beq same]; rfl⟩
  · exact absurd rfl name
  · simp [free] at goesOn

/-- Where a mark is written, no shorter one is found.

Proof: if the mark goes on, a longer one is written, and none is longer than three characters. -/
theorem mark?_covers {kind : Kind} (listed : kind ∈ Lexeme.marks) (more : List Char) :
    ∃ found chars behind, mark? (kind.name.toList ++ more) = some (found, chars, behind) ∧
      kind.name.toList.length ≤ chars.length := by
  have short : ∀ kind ∈ Lexeme.marks, kind.name.toList.length ≤ 3 := by decide
  induction room : 3 - kind.name.toList.length using Nat.strong_induction_on
    generalizing kind more with
  | _ room inductionHypothesis =>
  by_cases ends : ∀ d ∈ more.head?, Lexeme.goesOn kind d = false
  · exact ⟨kind, _, more, mark?_append listed ends, Nat.le_refl _⟩
  · obtain ⟨d, next, goesOn⟩ : ∃ d ∈ more.head?, Lexeme.goesOn kind d = true := by simpa using ends
    obtain ⟨more, rfl⟩ : ∃ others, more = d :: others := List.head?_eq_some_iff.mp next
    obtain ⟨longer, listed', spelled⟩ := exists_longer_mark listed goesOn
    have length : longer.name.toList.length = kind.name.toList.length + 1 := by simp [spelled]
    have bound := short longer listed'
    obtain ⟨found, chars, behind, run, covers⟩ :=
      inductionHypothesis (3 - longer.name.toList.length) (by omega) listed' more rfl
    rw [spelled, List.append_assoc, List.singleton_append] at run
    exact ⟨found, chars, behind, run, by omega⟩

/-- The mark that is found is the longest. -/
theorem mark?_longest {source chars behind : List Char} {kind : Kind}
    (found : mark? source = some (kind, chars, behind)) : Longest IsMark source chars := by
  refine ⟨⟨behind, mark?_tiles found⟩, ⟨kind, mark?_spelled found⟩, ?_⟩
  rintro _ ⟨more, rfl⟩ ⟨other, listed, rfl⟩
  obtain ⟨_, _, _, run, covers⟩ := mark?_covers listed more
  rw [found] at run
  cases run
  exact covers

/-! ## What is recognised is prescribed -/

/-- The test for the start of a name is the rule. -/
theorem startsName_iff : startsName c = true ↔ StartsName c := by simp [startsName, StartsName]

/-- The test for the inside of a name is the rule. -/
theorem continuesName_iff : continuesName c = true ↔ ContinuesName c := by
  simp [continuesName, ContinuesName, startsName_iff]

/-- The test for blanks is the rule. -/
theorem isBlank_iff : isBlank c = true ↔ Blank c := by simp [isBlank, Blank, or_assoc]

/-- What is passed as a run is the longest one. -/
theorem run_longest (kind : Kind) {starts goesOn : Char → Prop} {continues : Char → Bool}
    (same : ∀ {d}, continues d = true ↔ goesOn d) (first : starts c) :
    Longest (IsRun starts goesOn) (c :: rest) (run kind [c] continues rest).chars := by
  refine longest_run_iff.mpr ⟨c, rest.takeWhile continues, rest.dropWhile continues, rfl, ?_, first,
    fun d member => same.mp (List.mem_takeWhile_imp member), fun d next => ?_⟩
  · rw [List.takeWhile_append_dropWhile]
  · rw [← same]
    have stops := List.head?_dropWhile_not continues rest
    rw [Option.mem_def.mp next] at stops
    simpa using stops

/-- The reserved word for a spelling has that spelling. -/
theorem reservedWord?_eq_some {spelling : String} {kind : Kind}
    (found : Kind.reservedWord? spelling = some kind) :
    kind ∈ Kind.reserved ∧ kind.name = spelling := by
  unfold Kind.reservedWord? at found
  exact ⟨List.mem_of_find?_eq_some found, by simpa using List.find?_some found⟩

/-- A spelling has no reserved word exactly when it is that of none. -/
theorem reservedWord?_eq_none {spelling : String} :
    Kind.reservedWord? spelling = none ↔ ∀ kind ∈ Kind.reserved, kind.name ≠ spelling := by
  simp [Kind.reservedWord?]

/-- A piece in which nothing is wrong is what a rule prescribes. -/
theorem prescribed_of_sound (sound : (recognise nested c rest).cause = none) :
    Prescribed nested (c :: rest) (recognise nested c rest).kind
      (recognise nested c rest).chars := by
  revert sound
  refine recognise_elim nested c rest (motive := fun piece => piece.cause = none →
      Prescribed nested (c :: rest) piece.kind piece.chars)
    ?word ?lineComment ?comment ?newline ?blank ?integer ?quoted ?string ?mark ?unknown
  case word =>
    intro first _
    have longest : Longest IsWord (c :: rest) (word c rest).chars :=
      run_longest .identifier continuesName_iff (startsName_iff.mp first)
    have kind : (word c rest).kind =
        (Kind.reservedWord? (String.ofList (word c rest).chars)).getD .identifier := rfl
    rw [kind]
    cases found : Kind.reservedWord? (String.ofList (word c rest).chars) with
    | none =>
      refine .name longest fun kind listed spelled => ?_
      exact reservedWord?_eq_none.mp found kind listed (by rw [← spelled, String.ofList_toList])
    | some kind =>
      obtain ⟨listed, spelled⟩ := reservedWord?_eq_some found
      have spelled : kind.name.toList = (word c rest).chars := by rw [spelled, String.toList_ofList]
      exact .reserved longest listed spelled
  case lineComment =>
    rintro rfl _
    exact .lineComment (run_longest .lineComment bne_iff_ne rfl)
  case comment =>
    rintro rfl sound
    cases closed : closeComment nested 1 rest with
    | none => simp [comment, closed] at sound
    | some found =>
      obtain ⟨inside, behind⟩ := found
      have shortest := closeComment_shortest closed
      simp only [comment, closed]
      cases nested with
      | true => exact .nestedComment rfl (shortest_balanced.mpr shortest)
      | false =>
        obtain ⟨front, init, rfl, none⟩ := shortest_flat.mp shortest
        exact .flatComment rfl (List.cons_prefix_cons.mpr ⟨rfl, front⟩) ⟨init, rfl, none⟩
  case newline =>
    rintro rfl _
    exact .newline ⟨rest, rfl⟩
  case blank =>
    intro first _
    exact .blank (run_longest .blank isBlank_iff (isBlank_iff.mp first))
  case integer =>
    intro first _
    exact .integer (run_longest .integer Iff.rfl first)
  case quoted =>
    rintro rfl sound
    obtain ⟨kind, closed⟩ := quoted_isCharacter sound
    rw [kind]
    exact .character ⟨_, quoted_tiles rest⟩ closed
  case string =>
    rintro rfl sound
    have kind : (string rest).kind = .text := by
      unfold string
      dsimp only
      split <;> rfl
    rw [kind]
    exact .text (string_shortest sound)
  case mark =>
    intro kind chars behind found _
    obtain ⟨listed, spelled⟩ := mark?_spelled found
    exact .mark (mark?_longest found) listed spelled
  case unknown =>
    intro _ sound
    cases sound

/-! ## What is prescribed is recognised -/

/-- A hash starts a comment up to the end of the line. -/
theorem recognise_hash : recognise nested '#' rest = run .lineComment ['#'] (· != '\n') rest := by
  have letter : startsName '#' = false := by decide
  simp [recognise, letter]

/-- A brace starts a comment up to the one that closes it. -/
theorem recognise_brace : recognise nested '{' rest = comment nested rest := by
  have letter : startsName '{' = false := by decide
  simp [recognise, letter]

/-- A double quote starts a text. -/
theorem recognise_doubleQuote : recognise nested '"' rest = string rest := by
  have quote : (startsName '"' || isBlank '"' || Text.isDigit '"') = false := by decide
  simp only [Bool.or_eq_false_iff] at quote
  obtain ⟨⟨letter, blank⟩, digit⟩ := quote
  simp [recognise, letter, blank, digit]

/-- A comment that can be closed is recognised up to where it is closed first. -/
theorem comment_of_shortest {inside : List Char}
    (shortest : Shortest (Closes nested 1) rest inside) :
    ∃ behind, comment nested rest =
      { kind := .blockComment, chars := '{' :: inside, rest := behind } := by
  cases closed : closeComment nested 1 rest with
  | none => exact absurd shortest.belongs (closeComment_open closed inside shortest.front)
  | some found =>
    obtain ⟨inside', behind⟩ := found
    obtain rfl := shortest.unique (closeComment_shortest closed)
    exact ⟨behind, by simp only [comment, closed]⟩

/-- A text that can be closed is recognised up to where it is closed first. -/
theorem string_of_shortest {lexeme : List Char} (shortest : Shortest IsText ('"' :: rest) lexeme) :
    ∃ behind, string rest = { kind := .text, chars := lexeme, rest := behind } := by
  have sound := string_sound shortest.front shortest.belongs
  obtain rfl := shortest.unique (string_shortest sound)
  rcases string_eq rest with ⟨behind, _, same⟩ | ⟨-, wrong⟩
  · exact ⟨behind, by rw [same]⟩
  · rw [sound] at wrong
    cases wrong

/-- The longest mark does not go on. -/
theorem goesOn_of_longest {kind : Kind} {behind : List Char} (listed : kind ∈ Lexeme.marks)
    (longest : Longest IsMark (kind.name.toList ++ behind) kind.name.toList) :
    ∀ d ∈ behind.head?, Lexeme.goesOn kind d = false := by
  intro d next
  by_contra goesOn
  obtain ⟨more, rfl⟩ : ∃ more, behind = d :: more := List.head?_eq_some_iff.mp next
  obtain ⟨longer, listed', spelled⟩ := exists_longer_mark listed (by simpa using goesOn)
  have bound := longest.longest longer.name.toList ⟨more, by simp [spelled]⟩ ⟨longer, listed', rfl⟩
  simp [spelled] at bound

/-- A word is recognised as the reserved word that it spells, or as a name. -/
theorem recognise_of_word (nested : Bool) {lexeme : List Char}
    (word : Longest IsWord (c :: rest) lexeme) :
    ∃ behind, recognise nested c rest =
      { kind := (Kind.reservedWord? (String.ofList lexeme)).getD .identifier
        chars := lexeme, rest := behind } := by
  obtain ⟨_, chars, behind, rfl, same, first, others, ends⟩ := longest_run_iff.mp word
  obtain ⟨rfl, rfl⟩ := List.cons.inj same
  have written : Lexeme.isWord (c :: chars) = true := by
    simp only [Lexeme.isWord, Bool.and_eq_true, List.all_eq_true, startsName_iff, continuesName_iff]
    exact ⟨first, others⟩
  have apart : ∀ d ∈ behind.head?, continuesName d = false := fun d next =>
    Bool.eq_false_iff.mpr fun goesOn => ends d next (continuesName_iff.mp goesOn)
  exact ⟨behind, recognise_word written apart⟩

/-- What a rule prescribes is recognised. -/
theorem recognise_of_prescribed {kind : Kind} {lexeme : List Char}
    (rule : Prescribed nested (c :: rest) kind lexeme) :
    ∃ behind, recognise nested c rest = { kind, chars := lexeme, rest := behind } := by
  cases rule with
  | atEnd nothing => cases nothing
  | name word free =>
    obtain ⟨behind, recognised⟩ := recognise_of_word nested word
    have none : Kind.reservedWord? (String.ofList lexeme) = none :=
      reservedWord?_eq_none.mpr fun kind listed spelled =>
        free kind listed (by rw [spelled, String.toList_ofList])
    rw [none] at recognised
    exact ⟨behind, recognised⟩
  | reserved word listed spelled =>
    obtain ⟨behind, recognised⟩ := recognise_of_word nested word
    rw [← spelled, String.ofList_toList, (reserved_legible kind listed).2] at recognised
    exact ⟨behind, spelled ▸ recognised⟩
  | integer digits =>
    obtain ⟨_, chars, behind, rfl, same, first, others, ends⟩ := longest_run_iff.mp digits
    obtain ⟨rfl, rfl⟩ := List.cons.inj same
    exact ⟨behind, recognise_integer first others fun d next => Bool.eq_false_iff.mpr (ends d next)⟩
  | blank blanks =>
    obtain ⟨_, chars, behind, rfl, same, first, others, ends⟩ := longest_run_iff.mp blanks
    obtain ⟨rfl, rfl⟩ := List.cons.inj same
    refine ⟨behind, recognise_blank (isBlank_iff.mpr first)
      (fun d member => isBlank_iff.mpr (others d member)) fun d next => ?_⟩
    exact Bool.eq_false_iff.mpr fun blank => ends d next (isBlank_iff.mp blank)
  | lineComment line =>
    obtain ⟨_, chars, behind, rfl, same, rfl, others, ends⟩ := longest_run_iff.mp line
    obtain ⟨rfl, rfl⟩ := List.cons.inj same
    rw [recognise_hash]
    exact ⟨behind, run_append (by simpa using others) (by simpa using ends)⟩
  | newline front =>
    obtain ⟨behind, same⟩ := front
    obtain ⟨rfl, rfl⟩ := List.cons.inj same
    exact ⟨behind, recognise_newline⟩
  | mark mark listed spelled =>
    obtain ⟨behind, same⟩ := mark.front
    subst spelled
    rw [← same] at mark
    have ends := goesOn_of_longest listed mark
    cases written : kind.name.toList with
    | nil => exact absurd written (mark_ne_nil kind listed)
    | cons d chars =>
      rw [written] at same
      obtain ⟨rfl, rfl⟩ := List.cons.inj same
      exact ⟨behind, recognise_mark listed written ends⟩
  | nestedComment nests closed =>
    obtain ⟨inside, rfl⟩ := List.head?_eq_some_iff.mp closed.belongs.1
    obtain ⟨rfl, -⟩ := List.cons_prefix_cons.mp closed.front
    subst nests
    rw [recognise_brace]
    exact comment_of_shortest (shortest_balanced.mp closed)
  | flatComment flat front closed =>
    obtain ⟨init, rfl, none⟩ := closed
    obtain ⟨rfl, within⟩ := List.cons_prefix_cons.mp front
    subst flat
    rw [recognise_brace]
    exact comment_of_shortest (shortest_flat.mpr ⟨within, init, rfl, none⟩)
  | text closed =>
    obtain ⟨inside, rfl, -⟩ := closed.belongs
    obtain ⟨rfl, -⟩ := List.cons_prefix_cons.mp closed.front
    rw [recognise_doubleQuote]
    exact string_of_shortest closed
  | character front quoted =>
    obtain ⟨d, rfl, fits⟩ := quoted
    obtain ⟨behind, same⟩ := front
    obtain ⟨rfl, rfl⟩ := List.cons.inj same
    exact ⟨behind, recognise_quoted (by simpa [Lexeme.isQuotable, and_assoc] using fits)⟩

end Piece

namespace Scanner

open Lexical

/-- What a step gives that passes a lexeme of a given kind: the token ends where the lexeme does,
and a comment starts no earlier than on its last line. -/
def passing (scanner : Scanner) (kind : Kind) (lexeme : List Char) : Scanned × Scanner :=
  let behind := scanner.place.advance lexeme
  ({ token :=
      { kind, text := String.ofList lexeme, file := scanner.file
        line := behind.line, column := behind.column
        length :=
          if kind = .blockComment then min lexeme.length behind.column else lexeme.length } },
    { scanner with rest := scanner.rest.drop lexeme.length, place := behind })

/-- A step shows what it passes. -/
theorem passing_inj {scanner : Scanner} {kind kind' : Kind} {lexeme lexeme' : List Char}
    (same : scanner.passing kind lexeme = scanner.passing kind' lexeme') :
    kind = kind' ∧ lexeme = lexeme' := by
  have token := congrArg (fun step => step.1.token) same
  have text : String.ofList lexeme = String.ofList lexeme' := congrArg Token.text token
  exact ⟨congrArg Token.kind token, String.ofList_injective text⟩

/-- A step passes what a rule prescribes. -/
theorem next_of_prescribed {scanner : Scanner} {kind : Kind} {lexeme : List Char}
    (rule : Prescribed scanner.nested scanner.rest kind lexeme) :
    scanner.next = scanner.passing kind lexeme := by
  cases ahead : scanner.rest with
  | nil =>
    rw [ahead] at rule
    obtain ⟨rfl, rfl⟩ := prescribed_nil rule
    rw [next_at_end ahead]
    simp [passing, Place.advance]
  | cons c rest =>
    rw [ahead] at rule
    obtain ⟨behind, recognised⟩ := Piece.recognise_of_prescribed rule
    have tiles := Piece.recognise_tiles scanner.nested c rest
    rw [recognised] at tiles
    rw [next_of_rest ahead, recognised, passing, ahead, ← tiles, List.drop_left]
    by_cases comment : kind = .blockComment
    · simp [stamp, comment]
    · simp [stamp, comment]

/-- A step in which nothing is wrong passes what a rule prescribes. -/
theorem exists_prescribed {scanner : Scanner} (sound : scanner.next.1.cause = none) :
    ∃ kind lexeme, Prescribed scanner.nested scanner.rest kind lexeme := by
  cases ahead : scanner.rest with
  | nil => exact ⟨_, _, .atEnd rfl⟩
  | cons c rest =>
    rw [next_of_rest ahead] at sound
    exact ⟨_, _, Piece.prescribed_of_sound sound⟩

/-- A step gives the token that a rule prescribes, and is at fault exactly if no rule prescribes
anything.

Proof: by the first character, one recogniser is tried, and what it passes is the longest or the
shortest text of its class. The converse goes through the rules: each sends recognition to its own
recogniser, and its lexeme is the only longest or shortest one. -/
theorem next_prescribed (scanner : Scanner) :
    (∀ kind lexeme, scanner.next = scanner.passing kind lexeme ↔
      Prescribed scanner.nested scanner.rest kind lexeme) ∧
    (scanner.next.1.cause ≠ none ↔
      ∀ kind lexeme, ¬ Prescribed scanner.nested scanner.rest kind lexeme) := by
  constructor
  · intro kind lexeme
    constructor
    · intro passed
      have sound : scanner.next.1.cause = none := by rw [passed]; rfl
      obtain ⟨kind', lexeme', rule⟩ := exists_prescribed sound
      obtain ⟨rfl, rfl⟩ := passing_inj (passed.symm.trans (next_of_prescribed rule))
      exact rule
    · exact next_of_prescribed
  · constructor
    · intro wrong kind lexeme rule
      rw [next_of_prescribed rule] at wrong
      exact wrong rfl
    · intro none sound
      obtain ⟨kind, lexeme, rule⟩ := exists_prescribed sound
      exact none kind lexeme rule

end Scanner

end WinZig
