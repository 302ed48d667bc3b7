import WinZig.Proofs.Relabelling
import WinZig.Proofs.Scanning.Positions

/-!
# Scanning line after line

A piece in which nothing is wrong is closed by itself or by the character behind it, and a line end
continues no piece. So a source that scans can be followed by a line end and anything else: its
tokens stay as they are, and scanning goes on behind the line end as it would at the start of a
source.

Places matter only for the stamps. A scanner that starts some lines further down takes the same
steps, with all tokens so many lines further down; the column is counted anew behind a line end.
-/

namespace WinZig

/-- The place of a token, some lines further down. -/
def Token.lowered (lines : Nat) (tok : Token) : Token := { tok with line := tok.line + lines }

/-! ## A piece in front of a line end -/

namespace Piece

/-- A piece of a longer source: the same piece, with more behind it. -/
def followedBy (piece : Piece) (more : List Char) : Piece := { piece with rest := piece.rest ++ more }

variable {nested : Bool} {c : Char} {rest more : List Char}

/-- What runs up to a character that ends it does not see what stands behind. -/
theorem takeWhile_before (rest more : List Char) {ends : Char} (continues : Char → Bool)
    (stops : continues ends = false) :
    (rest ++ ends :: more).takeWhile continues = rest.takeWhile continues ∧
      (rest ++ ends :: more).dropWhile continues = rest.dropWhile continues ++ ends :: more := by
  induction rest with
  | nil => simp [stops]
  | cons c rest inductionHypothesis =>
    cases goesOn : continues c <;> simp [goesOn, inductionHypothesis]

/-- A run is over at the latest where a character does not continue it. -/
theorem run_before {ends : Char} (kind : Kind) (front : List Char) {continues : Char → Bool}
    (stops : continues ends = false) :
    run kind front continues (rest ++ ends :: more) =
      (run kind front continues rest).followedBy (ends :: more) := by
  obtain ⟨taken, left⟩ := takeWhile_before rest more continues stops
  simp only [run, followedBy, taken, left]

/-- A comment that is closed is closed whatever follows. -/
theorem closeComment_before {depth : Nat} {inside behind : List Char}
    (closed : closeComment nested depth rest = some (inside, behind)) :
    closeComment nested depth (rest ++ more) = some (inside, behind ++ more) := by
  induction rest generalizing depth inside with
  | nil =>
    cases depth with
    | zero => simp_all [closeComment]
    | succ depth => simp [closeComment] at closed
  | cons c rest inductionHypothesis =>
    cases depth with
    | zero => simp_all [closeComment]
    | succ depth =>
      rw [closeComment] at closed
      obtain ⟨⟨inner, tail⟩, found, same⟩ := Option.map_eq_some_iff.mp closed
      obtain ⟨rfl, rfl⟩ := Prod.mk.inj same
      rw [List.cons_append, closeComment, inductionHypothesis found]
      rfl

/-- A closed comment does not see what stands behind it. -/
theorem comment_before (sound : (comment nested rest).cause = none) :
    comment nested (rest ++ more) = (comment nested rest).followedBy more := by
  cases closed : closeComment nested 1 rest with
  | none => simp [comment, closed] at sound
  | some found =>
    obtain ⟨inside, behind⟩ := found
    simp only [comment, closed, closeComment_before closed, followedBy]

/-- A closed character does not see what stands behind it. -/
theorem quoted_before (sound : (quoted rest).cause = none) :
    quoted (rest ++ more) = (quoted rest).followedBy more := by
  unfold quoted at sound
  split at sound
  · next c behind =>
    split at sound
    · next fits => simp [quoted, fits, followedBy]
    · exact absurd sound (by simp)
  · exact absurd sound (by simp)

/-- A closed text does not see what stands behind the end of its line. -/
theorem string_before (sound : (string rest).cause = none) :
    string (rest ++ '\n' :: more) = (string rest).followedBy ('\n' :: more) := by
  have stops : ('\n' != '"' && '\n' != '\n') = false := by decide
  obtain ⟨taken, left⟩ := takeWhile_before rest more (fun c => c != '"' && c != '\n') stops
  unfold string at sound
  dsimp only at sound
  split at sound
  · next behind closed => simp [string, taken, left, closed, followedBy]
  · exact absurd sound (by simp)

/-- No mark goes on with a line end. -/
theorem mark?_before (more : List Char) {source chars behind : List Char} {kind : Kind}
    (found : mark? source = some (kind, chars, behind)) :
    mark? (source ++ '\n' :: more) = some (kind, chars, behind ++ '\n' :: more) := by
  unfold mark? at found
  split at found <;> simp at found <;> obtain ⟨rfl, rfl, rfl⟩ := found
  -- What is left of the longer source starts as before, or with the line end.
  all_goals
    rename List Char => behind
    cases behind <;> simp_all [mark?]

/-- A piece in which nothing is wrong is recognised in front of a line end as it is at the end of a
source. -/
theorem recognise_before (sound : (recognise nested c rest).cause = none) :
    recognise nested c (rest ++ '\n' :: more) =
      (recognise nested c rest).followedBy ('\n' :: more) := by
  have name : continuesName '\n' = false := by decide
  have digit : Text.isDigit '\n' = false := by decide
  unfold recognise at sound ⊢
  split
  · simp only [word, run_before .identifier [c] name]
    rfl
  next letter =>
  split
  · exact run_before .lineComment ['#'] (by decide)
  next hash =>
  split
  · next brace =>
    rw [if_neg letter, if_neg hash, if_pos brace] at sound
    exact comment_before sound
  next brace =>
  split
  · rfl
  next newline =>
  split
  · exact run_before .blank [c] (by decide)
  next blank =>
  split
  · exact run_before .integer [c] digit
  next figure =>
  split
  · next quote =>
    rw [if_neg letter, if_neg hash, if_neg brace, if_neg newline, if_neg blank, if_neg figure,
      if_pos quote] at sound
    exact quoted_before sound
  next quote =>
  split
  · next text =>
    rw [if_neg letter, if_neg hash, if_neg brace, if_neg newline, if_neg blank, if_neg figure,
      if_neg quote, if_pos text] at sound
    exact string_before sound
  next text =>
  rw [if_neg letter, if_neg hash, if_neg brace, if_neg newline, if_neg blank, if_neg figure,
    if_neg quote, if_neg text] at sound
  cases found : mark? (c :: rest) with
  | none => simp [found] at sound
  | some marked =>
    obtain ⟨kind, chars, behind⟩ := marked
    have before := mark?_before more found
    rw [List.cons_append] at before
    simp only [before, followedBy]

end Piece

/-! ## Scanning further down -/

namespace Place

/-- The same column, some lines further down. -/
def lowered (lines : Nat) (place : Place) : Place := { place with line := place.line + lines }

/-- Going on from a lower place is going on and lowering the place. -/
theorem advance_lowered (lines : Nat) (place : Place) (piece : List Char) :
    (place.lowered lines).advance piece = (place.advance piece).lowered lines := by
  induction piece generalizing place with
  | nil => rfl
  | cons c piece inductionHypothesis =>
    have first : (place.lowered lines).step c = (place.step c).lowered lines := by
      unfold step lowered
      split
      · exact congrArg (Place.mk · 0) (Nat.add_right_comm _ _ _)
      · rfl
    have rest := inductionHypothesis (place.step c)
    rw [← first] at rest
    exact rest

/-- Behind a line end the column is counted anew, and the line is one more than there were line ends
before. -/
theorem advance_line (place : Place) (source : List Char) :
    place.advance (source ++ ['\n']) = ⟨place.line + (source.count '\n' + 1), 0⟩ := by
  induction source generalizing place with
  | nil => rfl
  | cons c source inductionHypothesis =>
    have rest := inductionHypothesis (place.step c)
    by_cases newline : c = '\n'
    · have first : place.step c = ⟨place.line + 1, 0⟩ := if_pos newline
      have count : (c :: source).count '\n' = source.count '\n' + 1 := by simp [newline]
      rw [first] at rest
      rw [count, List.cons_append, advance, List.foldl_cons, first]
      have sum : place.line + 1 + (source.count '\n' + 1) =
          place.line + (source.count '\n' + 1 + 1) := by omega
      exact rest.trans (congrArg (Place.mk · 0) sum)
    · have first : place.step c = ⟨place.line, place.column + 1⟩ := if_neg newline
      have count : (c :: source).count '\n' = source.count '\n' := by simp [newline]
      rw [first] at rest
      rw [count, List.cons_append, advance, List.foldl_cons, first]
      exact rest

end Place

/-- The outcome of a step with its token elsewhere. -/
def Scanned.moved (onToken : Token → Token) (scanned : Scanned) : Scanned :=
  { scanned with token := onToken scanned.token }

namespace Scanner

/-- What every step carries over, all steps carry over. -/
theorem steps_carried (onScanner : Scanner → Scanner) {onScanned : Scanned → Scanned}
    (ahead : ∀ scanner, (onScanner scanner).rest = scanner.rest)
    (step : ∀ scanner, (onScanner scanner).next =
      (onScanned scanner.next.1, onScanner scanner.next.2)) (scanner : Scanner) :
    (onScanner scanner).steps = scanner.steps.map onScanned := by
  induction scanner using steps.induct with
  | case1 scanner nothing =>
    have nothing' : (onScanner scanner).rest = [] := (ahead scanner).trans nothing
    rw [steps, dif_pos nothing', steps, dif_pos nothing, step]
    rfl
  | case2 scanner more inductionHypothesis =>
    have more' : (onScanner scanner).rest ≠ [] :=
      fun nothing => more ((ahead scanner).symm.trans nothing)
    have first : scanner.steps = scanner.next.1 :: scanner.next.2.steps := by rw [steps, dif_neg more]
    rw [steps, dif_neg more', step, inductionHypothesis, first, List.map_cons]

/-- If the tokens of all steps are moved and are of the same kinds, what is handed on and what is at
fault are moved. -/
theorem tokens_carried {scanner other : Scanner} {onToken : Token → Token}
    (kind : ∀ tok, (onToken tok).kind = tok.kind)
    (all : other.steps = scanner.steps.map (Scanned.moved onToken)) :
    other.tokens = scanner.tokens.map onToken ∧
      other.fault? = scanner.fault?.map (Fault.moved onToken) := by
  have each (scanned : Scanned) : (scanned.moved onToken).fault? =
      scanned.fault?.map (Fault.moved onToken) := by
    simp only [Scanned.fault?, Scanned.moved, Option.map_map]
    rfl
  constructor
  · simp [tokens, all, List.takeWhile_map, List.filter_map, Function.comp_def, Scanned.moved, kind]
  · unfold fault?
    rw [all, List.findSome?_map, List.map_findSome?]
    exact congrArg (List.findSome? · scanner.steps) (funext each)

/-- A scanner some lines further down. -/
def lowered (lines : Nat) (scanner : Scanner) : Scanner :=
  { scanner with place := scanner.place.lowered lines }

/-- A lowered scanner reads the same, lowered. -/
theorem next_lowered (lines : Nat) (scanner : Scanner) :
    (scanner.lowered lines).next =
      (scanner.next.1.moved (Token.lowered lines), scanner.next.2.lowered lines) := by
  have stamped (before behind : Place) (piece : Piece) :
      stamp scanner.file (before.lowered lines) (behind.lowered lines) piece =
        (stamp scanner.file before behind piece).lowered lines := by
    unfold stamp
    dsimp only
    split
    · simp [Token.lowered, Place.lowered]
    · split <;> simp [Token.lowered, Place.lowered]
  cases ahead : scanner.rest with
  | nil =>
    have ahead' : (scanner.lowered lines).rest = [] := ahead
    rw [next_at_end ahead, next_at_end ahead']
    simp [lowered, Scanned.moved, Token.lowered, Place.lowered]
  | cons c rest =>
    have ahead' : (scanner.lowered lines).rest = c :: rest := ahead
    rw [next_of_rest ahead, next_of_rest ahead']
    simp only [lowered, Place.advance_lowered, stamped, Scanned.moved]

/-- Further down, the same is handed on and the same is at fault, so many lines further down. -/
theorem tokens_lowered (lines : Nat) (scanner : Scanner) :
    (scanner.lowered lines).tokens = scanner.tokens.map (Token.lowered lines) ∧
      (scanner.lowered lines).fault? = scanner.fault?.map (Fault.moved (Token.lowered lines)) := by
  have all : (scanner.lowered lines).steps =
      scanner.steps.map (Scanned.moved (Token.lowered lines)) :=
    steps_carried (lowered lines) (fun _ => rfl) (next_lowered lines) scanner
  exact tokens_carried (fun _ => rfl) all

/-! ## A source in front of a line end -/

/-- A scanner with more behind what is left. -/
def followedBy (scanner : Scanner) (more : List Char) : Scanner :=
  { scanner with rest := scanner.rest ++ more }

/-- The scanner behind all that is left and a line end, in front of another source. -/
def onNextLine (scanner : Scanner) (source : List Char) : Scanner :=
  { scanner with rest := source, place := scanner.place.advance (scanner.rest ++ ['\n']) }

variable {scanner : Scanner} {source : List Char}

/-- A scanner with more lines behind its own reads the same, as long as it has something left and
nothing is wrong. -/
theorem next_before (source : List Char) (more : scanner.rest ≠ [])
    (sound : scanner.next.1.cause = none) :
    (scanner.followedBy ('\n' :: source)).next =
      (scanner.next.1, scanner.next.2.followedBy ('\n' :: source)) := by
  obtain ⟨c, rest, ahead⟩ := List.exists_cons_of_ne_nil more
  have ahead' : (scanner.followedBy ('\n' :: source)).rest = c :: (rest ++ '\n' :: source) := by
    rw [followedBy, ahead, List.cons_append]
  rw [next_of_rest ahead] at sound
  rw [next_of_rest ahead, next_of_rest ahead']
  simp only [followedBy, Piece.recognise_before sound]
  rfl

/-- The line end itself is passed in one step, which hands nothing on. -/
theorem next_newline (source : List Char) (nothing : scanner.rest = []) :
    (scanner.followedBy ('\n' :: source)).next.1.cause = none ∧
      (scanner.followedBy ('\n' :: source)).next.1.token.kind = .newline ∧
      (scanner.followedBy ('\n' :: source)).next.2 = scanner.onNextLine source := by
  have ahead : (scanner.followedBy ('\n' :: source)).rest = '\n' :: source := by
    rw [followedBy, nothing, List.nil_append]
  have piece : Piece.recognise scanner.nested '\n' source =
      { kind := .newline, chars := ['\n'], rest := source } := by
    have letter : Piece.startsName '\n' = false := by decide
    simp [Piece.recognise, letter]
  rw [next_of_rest ahead, stamp_kind]
  simp only [followedBy, piece, onNextLine, nothing, List.nil_append]
  exact ⟨trivial, trivial, trivial⟩

/-- One step changes nothing about where the next line begins. -/
theorem onNextLine_next (scanner : Scanner) (source : List Char) :
    scanner.next.2.onNextLine source = scanner.onNextLine source := by
  cases ahead : scanner.rest with
  | nil => rw [next_at_end ahead]
  | cons c rest =>
    have whole := Piece.recognise_tiles scanner.nested c rest
    rw [next_of_rest ahead]
    simp only [onNextLine, ahead, ← Place.advance_append, ← List.append_assoc, whole]

/-- A source in which nothing is at fault hands on its tokens whatever is on the next lines, and
scanning goes on there.

Proof: by induction along the steps. A step before the end is the same in the longer source; the step
at the end becomes the one over the line end. -/
theorem tokens_before (source : List Char) (sound : scanner.fault? = none) :
    (scanner.followedBy ('\n' :: source)).tokens =
        scanner.tokens ++ (scanner.onNextLine source).tokens ∧
      (scanner.followedBy ('\n' :: source)).fault? = (scanner.onNextLine source).fault? := by
  induction scanner using steps.induct with
  | case1 scanner nothing =>
    have last : scanner.steps = [scanner.next.1] := by rw [steps, dif_pos nothing]
    have none : scanner.tokens = [] := by simp [tokens, last, next_at_end nothing, Kind.isInternal]
    obtain ⟨cause, kind, behind⟩ := next_newline source nothing
    have some : (scanner.followedBy ('\n' :: source)).rest ≠ [] := by simp [followedBy]
    obtain ⟨handed, fault⟩ := tokens_of_sound some cause
    rw [handed, fault, behind, none]
    simp [kind, Kind.isInternal]
  | case2 scanner more inductionHypothesis =>
    cases cause : scanner.next.1.cause with
    | some wrong =>
      have fault := (tokens_of_fault more cause).2
      rw [sound, Scanned.fault?, cause] at fault
      exact absurd fault (by simp)
    | none =>
      obtain ⟨handed, fault⟩ := tokens_of_sound more cause
      have step := next_before source more cause
      have some : (scanner.followedBy ('\n' :: source)).rest ≠ [] := by simp [followedBy]
      have cause' : (scanner.followedBy ('\n' :: source)).next.1.cause = Option.none := by
        rw [step, cause]
      obtain ⟨handed', fault'⟩ := tokens_of_sound some cause'
      obtain ⟨others, blamed⟩ := inductionHypothesis (fault.symm.trans sound)
      rw [onNextLine_next] at others blamed
      rw [handed', fault', step, others, blamed, handed, List.append_assoc]
      exact ⟨rfl, rfl⟩

/-- The message of a fault does not depend on its line. -/
theorem message_lowered (lines : Nat) (fault : Fault) :
    (fault.moved (Token.lowered lines)).message = fault.message := rfl

/-- Scanning is compositional over lines: behind a source in which nothing is at fault and a line end,
another source is scanned as it is by itself, as many lines further down as there are line ends in
front of it. Its tokens stand behind those of the first source, and the whole is at fault exactly if
the second source is, for the same cause, with the same message and at the token that was moved down.

Proof: the first source is passed as if nothing followed. Behind the line end stands a scanner at
column zero, which is the start of the second source moved down. -/
theorem tokens_line_by_line (index : Int) (nested : Bool) (first second : List Char)
    (sound : ({ file := index, nested, rest := first } : Scanner).fault? = none) :
    ({ file := index, nested, rest := first ++ '\n' :: second } : Scanner).tokens =
        ({ file := index, nested, rest := first } : Scanner).tokens ++
          ({ file := index, nested, rest := second } : Scanner).tokens.map
            (Token.lowered (first.count '\n' + 1)) ∧
      ({ file := index, nested, rest := first ++ '\n' :: second } : Scanner).fault? =
        ({ file := index, nested, rest := second } : Scanner).fault?.map
          (Fault.moved (Token.lowered (first.count '\n' + 1))) ∧
      ({ file := index, nested, rest := first ++ '\n' :: second } : Scanner).fault?.map Fault.message =
        ({ file := index, nested, rest := second } : Scanner).fault?.map Fault.message := by
  have start : ({ file := index, nested, rest := first } : Scanner).onNextLine second =
      ({ file := index, nested, rest := second } : Scanner).lowered (first.count '\n' + 1) := by
    simp only [onNextLine, lowered, Place.advance_line, Place.lowered]
  obtain ⟨handed, fault⟩ := tokens_before second sound
  obtain ⟨below, blamed⟩ := tokens_lowered (first.count '\n' + 1)
    ({ file := index, nested, rest := second } : Scanner)
  rw [start, below] at handed
  rw [start, blamed] at fault
  refine ⟨handed, fault, (congrArg (Option.map Fault.message) fault).trans ?_⟩
  rw [Option.map_map]
  exact congrArg (Option.map · _) (funext (message_lowered _))

/-- Without the line end, the colon and the equals sign would be one mark. The comment between the
first two colons goes over two lines. -/
theorem tokens_line_by_line_brokenAssignment :
    ({ rest := "x:\x7b a \x7b\n\x7d \x7d:".toList ++ '\n' :: "= 'y".toList } : Scanner).tokens.map
        (fun tok => (tok.text, tok.line, tok.column)) =
      [("x", 1, 1), (":", 1, 2), (":", 2, 4), ("=", 3, 1)] ∧
    ({ rest := "x:\x7b a \x7b\n\x7d \x7d:".toList ++ '\n' :: "= 'y".toList } : Scanner).fault? =
      some ⟨{ kind := .unknown, text := "'", line := 3, column := 3, length := 1 },
        .malformedCharacter⟩ := by
  have sound : ({ rest := "x:\x7b a \x7b\n\x7d \x7d:".toList } : Scanner).fault? = none := by cbv
  obtain ⟨handed, fault, -⟩ := tokens_line_by_line 0 true _ "= 'y".toList sound
  rw [handed, fault]
  exact ⟨by decide +kernel, by decide +kernel⟩

end Scanner

end WinZig
