import WinZig.Proofs.Scanning

/-!
# Steps of scanning tile the source

However often scanning is asked for another step, and whatever faults it meets on the way, the steps
pass over the source from left to right and leave nothing out. Each step before the end passes at
least one character. The text of a token in which nothing is wrong is what its step has passed, so
that the source can be put together again from the texts.

A fault may show less than its step has passed: an unclosed comment swallows the rest of the source
and is blamed on its opening brace.
-/

namespace WinZig

namespace Piece

/-! ## A piece and what follows it are the source -/

/-- A run and what is left of it are what was there. -/
theorem run_tiles (kind : Kind) (front : List Char) (continues : Char → Bool) (rest : List Char) :
    (run kind front continues rest).chars ++ (run kind front continues rest).rest =
      front ++ rest := by
  simp [run, List.takeWhile_append_dropWhile]

/-- The inside of a comment and what is left of it are what was there. -/
theorem closeComment_tiles {nested : Bool} {depth : Nat} {rest inside behind : List Char}
    (closed : closeComment nested depth rest = some (inside, behind)) : inside ++ behind = rest := by
  induction rest generalizing depth inside with
  | nil =>
    cases depth with
    | zero => simp_all [closeComment]
    | succ depth => simp [closeComment] at closed
  | cons c rest inductionHypothesis =>
    cases depth with
    | zero => simp_all [closeComment]
    | succ depth =>
      rw [closeComment] at closed
      obtain ⟨⟨inner, tail⟩, found, same⟩ := Option.map_eq_some_iff.mp closed
      obtain ⟨rfl, rfl⟩ := Prod.mk.inj same
      rw [List.cons_append, inductionHypothesis found]

/-- A comment and what is left of it are what was there. -/
theorem comment_tiles (nested : Bool) (rest : List Char) :
    (comment nested rest).chars ++ (comment nested rest).rest = '{' :: rest := by
  unfold comment
  split
  · next closed => rw [List.cons_append, closeComment_tiles closed]
  · simp

/-- A character and what is left of it are what was there. -/
theorem quoted_tiles (rest : List Char) :
    (quoted rest).chars ++ (quoted rest).rest = '\'' :: rest := by
  unfold quoted
  split
  · split <;> rfl
  · rfl

/-- A text and what is left of it are what was there. -/
theorem string_tiles (rest : List Char) :
    (string rest).chars ++ (string rest).rest = '"' :: rest := by
  have whole := List.takeWhile_append_dropWhile (p := fun c => c != '"' && c != '\n') (l := rest)
  unfold string
  dsimp only
  split
  · next behind closed =>
    rw [closed] at whole
    simpa using whole
  · rw [List.cons_append, whole]

/-- A mark and what is left of it are what was there. -/
theorem mark?_tiles {source chars behind : List Char} {kind : Kind}
    (found : mark? source = some (kind, chars, behind)) : chars ++ behind = source := by
  unfold mark? at found
  split at found <;> simp at found <;> simp [← found.2.1, ← found.2.2]

/-- What was recognised and what is left of it are what was there. -/
theorem recognise_tiles (nested : Bool) (c : Char) (rest : List Char) :
    (recognise nested c rest).chars ++ (recognise nested c rest).rest = c :: rest := by
  refine recognise_elim nested c rest (motive := fun piece => piece.chars ++ piece.rest = c :: rest)
    ?word ?lineComment ?comment ?newline ?blank ?integer ?quoted ?string ?mark ?unknown
  case word => exact fun _ => run_tiles .identifier [c] continuesName rest
  case lineComment =>
    rintro rfl
    exact run_tiles _ _ _ _
  case comment =>
    rintro rfl
    exact comment_tiles nested rest
  case newline =>
    rintro rfl
    rfl
  case blank => exact fun _ => run_tiles _ _ _ _
  case integer => exact fun _ => run_tiles _ _ _ _
  case quoted =>
    rintro rfl
    exact quoted_tiles rest
  case string =>
    rintro rfl
    exact string_tiles rest
  case mark => exact fun kind chars behind found => mark?_tiles found
  case unknown => exact fun _ => rfl

/-- No piece is empty: less is left than there was. -/
theorem recognise_chars_ne_nil (nested : Bool) (c : Char) (rest : List Char) :
    (recognise nested c rest).chars ≠ [] := by
  intro nothing
  have whole := recognise_tiles nested c rest
  have shorter := recognise_rest_length_le nested c rest
  rw [nothing, List.nil_append] at whole
  rw [whole, List.length_cons] at shorter
  omega

/-- No piece stands for the end. -/
theorem recognise_kind_ne_endOfInput (nested : Bool) (c : Char) (rest : List Char) :
    (recognise nested c rest).kind ≠ .endOfInput := by
  refine recognise_elim nested c rest (motive := fun piece => piece.kind ≠ .endOfInput)
    ?word ?lineComment ?comment ?newline ?blank ?integer ?quoted ?string ?mark ?unknown
  case word =>
    intro _ same
    have handed := (word_kind c rest).1
    simp [same, Kind.isInternal] at handed
  case comment =>
    intro _
    unfold comment
    split <;> simp
  case quoted =>
    intro _
    unfold quoted
    split
    · split <;> simp
    · simp
  case string =>
    intro _
    unfold string
    dsimp only
    split <;> simp
  case mark =>
    rintro kind chars behind found rfl
    exact absurd (mark?_kind found).1 (by decide)
  all_goals simp [run]

end Piece

namespace Scanner

variable {scanner : Scanner}

/-! ## One step -/

/-- A scanner with a character ahead recognises what begins with it. -/
theorem next_of_rest {c : Char} {rest : List Char} (ahead : scanner.rest = c :: rest) :
    scanner.next =
      ({ token := stamp scanner.file scanner.place
          (scanner.place.advance (Piece.recognise scanner.nested c rest).chars)
          (Piece.recognise scanner.nested c rest)
         cause := (Piece.recognise scanner.nested c rest).cause },
       { scanner with
         rest := (Piece.recognise scanner.nested c rest).rest
         place := scanner.place.advance (Piece.recognise scanner.nested c rest).chars }) := by
  unfold next
  split
  · next nothing => simp [nothing] at ahead
  · next other others same =>
    obtain ⟨rfl, rfl⟩ := List.cons.inj (same.symm.trans ahead)
    rfl

/-- A scanner at the end gives the end of the input and stays there. -/
theorem next_at_end (nothing : scanner.rest = []) :
    scanner.next = ({ token := { file := scanner.file, line := scanner.place.line
                                 column := scanner.place.column } }, scanner) := by
  unfold next
  split
  · rfl
  · next more => simp [nothing] at more

/-- A step passes over a front part of what is left. If nothing is wrong with the token, the part is
its text. -/
theorem next_tiles (scanner : Scanner) :
    ∃ slice, slice ++ scanner.next.2.rest = scanner.rest ∧
      (scanner.next.1.cause = none → scanner.next.1.token.text.toList = slice) := by
  cases ahead : scanner.rest with
  | nil => exact ⟨[], by simp [next_at_end ahead, ahead], by simp [next_at_end ahead]⟩
  | cons c rest =>
    rw [next_of_rest ahead]
    refine ⟨_, Piece.recognise_tiles scanner.nested c rest, fun sound => ?_⟩
    rw [stamp_text sound, String.toList_ofList]

/-- The token for the end is given exactly where nothing is left. -/
theorem next_kind_eq_endOfInput (scanner : Scanner) :
    scanner.next.1.token.kind = .endOfInput ↔ scanner.rest = [] := by
  cases ahead : scanner.rest with
  | nil => simp [next_at_end ahead]
  | cons c rest =>
    rw [next_of_rest ahead, stamp_kind]
    simpa using Piece.recognise_kind_ne_endOfInput scanner.nested c rest

/-! ## Step after step -/

/-- The scanner after some steps, whatever faults they have met. -/
def after (scanner : Scanner) : (count : Nat) → Scanner
  | 0 => scanner
  | count + 1 => scanner.next.2.after count

/-- What a step gives that is taken after some others. -/
def call (scanner : Scanner) (count : Nat) : Scanned := (scanner.after count).next.1

/-- The number of characters that some steps have passed. -/
def passed (scanner : Scanner) (count : Nat) : Nat :=
  scanner.rest.length - (scanner.after count).rest.length

/-- One more step is taken last. -/
theorem after_succ (scanner : Scanner) (count : Nat) :
    scanner.after (count + 1) = (scanner.after count).next.2 := by
  induction count generalizing scanner with
  | zero => rfl
  | succ count inductionHypothesis => exact inductionHypothesis scanner.next.2

/-- What is left after some steps is the end of the source. -/
theorem after_rest_suffix (scanner : Scanner) (count : Nat) :
    (scanner.after count).rest <:+ scanner.rest := by
  induction count with
  | zero => exact List.suffix_rfl
  | succ count inductionHypothesis =>
    obtain ⟨slice, whole, -⟩ := next_tiles (scanner.after count)
    rw [after_succ]
    exact List.IsSuffix.trans ⟨slice, whole⟩ inductionHypothesis

/-- What was passed and what is left make up the source. -/
theorem passed_add_left (scanner : Scanner) (count : Nat) :
    scanner.passed count + (scanner.after count).rest.length = scanner.rest.length :=
  Nat.sub_add_cancel (after_rest_suffix scanner count).length_le

/-- What is left is the source without what was passed. -/
theorem after_rest_eq_drop (scanner : Scanner) (count : Nat) :
    (scanner.after count).rest = scanner.rest.drop (scanner.passed count) :=
  List.suffix_iff_eq_drop.mp (after_rest_suffix scanner count)

/-- Nothing is left exactly when the whole source was passed. -/
theorem after_rest_eq_nil (scanner : Scanner) (count : Nat) :
    (scanner.after count).rest = [] ↔ scanner.passed count = scanner.rest.length := by
  have whole := passed_add_left scanner count
  rw [← List.length_eq_zero_iff]
  omega

/-- A step before the end goes strictly forward. -/
theorem passed_lt_passed_succ (scanner : Scanner) (count : Nat)
    (more : scanner.passed count < scanner.rest.length) :
    scanner.passed count < scanner.passed (count + 1) := by
  have before := passed_add_left scanner count
  have behind := passed_add_left scanner (count + 1)
  have some : (scanner.after count).rest ≠ [] := by
    rw [Ne, after_rest_eq_nil]
    omega
  have shorter := next_rest_length_lt (scanner.after count) some
  rw [after_succ] at behind
  omega

/-- A step at the end stays there. -/
theorem after_succ_of_passed (scanner : Scanner) (count : Nat)
    (all : scanner.passed count = scanner.rest.length) :
    scanner.after (count + 1) = scanner.after count := by
  rw [after_succ, next_at_end ((after_rest_eq_nil scanner count).mpr all)]

/-- The text of a token in which nothing is wrong is the slice between two places. -/
theorem call_text (scanner : Scanner) (count : Nat) (sound : (scanner.call count).cause = none) :
    (scanner.call count).token.text.toList =
      scanner.rest.extract (scanner.passed count) (scanner.passed (count + 1)) := by
  obtain ⟨slice, whole, text⟩ := next_tiles (scanner.after count)
  have before := passed_add_left scanner count
  have behind := passed_add_left scanner (count + 1)
  rw [after_succ] at behind
  have length : slice.length + (scanner.after count).next.2.rest.length =
      (scanner.after count).rest.length := by
    rw [← whole, List.length_append]
  have width : scanner.passed (count + 1) - scanner.passed count = slice.length := by omega
  rw [List.extract, ← after_rest_eq_drop, ← whole, width, List.take_left]
  exact text sound

/-! ## All steps -/

/-- The end comes after at most as many steps as there are characters, and the steps up to there are
all steps. -/
theorem exists_end (scanner : Scanner) :
    ∃ count ≤ scanner.rest.length, (scanner.call count).token.kind = .endOfInput ∧
      (∀ earlier < count, (scanner.call earlier).token.kind ≠ .endOfInput) ∧
      scanner.steps = (List.range (count + 1)).map scanner.call := by
  fun_induction steps scanner with
  | case1 scanner nothing =>
    refine ⟨0, Nat.zero_le _, (next_kind_eq_endOfInput scanner).mpr nothing, ?_, rfl⟩
    intro earlier below
    omega
  | case2 scanner more inductionHypothesis =>
    obtain ⟨count, bound, atEnd, before, all⟩ := inductionHypothesis
    have shorter := next_rest_length_lt scanner more
    refine ⟨count + 1, by omega, atEnd, ?_, ?_⟩
    · intro earlier below
      cases earlier with
      | zero => exact mt (next_kind_eq_endOfInput scanner).mp more
      | succ earlier => exact before earlier (by omega)
    · rw [List.range_succ_eq_map, List.map_cons, List.map_map, all]
      rfl

/-- If nothing is wrong in any step, the texts of the tokens make up the source. -/
theorem steps_text (scanner : Scanner) (sound : ∀ scanned ∈ scanner.steps, scanned.cause = none) :
    scanner.steps.flatMap (fun scanned => scanned.token.text.toList) = scanner.rest := by
  fun_induction steps scanner with
  | case1 scanner nothing => simp [next_at_end nothing, nothing]
  | case2 scanner more inductionHypothesis =>
    obtain ⟨first, others⟩ := List.forall_mem_cons.mp sound
    obtain ⟨slice, whole, text⟩ := next_tiles scanner
    rw [List.flatMap_cons, inductionHypothesis others, text first, whole]

/-! ## What is handed on -/

/-- A scanner whose next step is a fault gives no tokens, and that fault. -/
theorem tokens_of_fault {cause : Cause} (more : scanner.rest ≠ [])
    (wrong : scanner.next.1.cause = some cause) :
    scanner.tokens = [] ∧ scanner.fault? = scanner.next.1.fault? := by
  have fault : scanner.next.1.fault? = some ⟨scanner.next.1.token, cause⟩ := by
    simp [Scanned.fault?, wrong]
  have first : scanner.steps = scanner.next.1 :: scanner.next.2.steps := by
    rw [steps, dif_neg more]
  constructor
  · simp [tokens, first, wrong]
  · rw [fault?, first, List.findSome?_cons, fault]

/-- A sound step adds its token, unless it is an internal one, to those behind it. -/
theorem tokens_of_sound (more : scanner.rest ≠ []) (sound : scanner.next.1.cause = none) :
    scanner.tokens =
        ([scanner.next.1.token].filter fun tok => !tok.kind.isInternal) ++ scanner.next.2.tokens ∧
      scanner.fault? = scanner.next.2.fault? := by
  have none : scanner.next.1.fault? = none := by simp [Scanned.fault?, sound]
  have first : scanner.steps = scanner.next.1 :: scanner.next.2.steps := by
    rw [steps, dif_neg more]
  constructor
  · rw [tokens, first, List.takeWhile_cons_of_pos (by simp [sound]), List.map_cons,
      List.filter_cons, tokens, List.filter_cons, List.filter_nil]
    split <;> rfl
  · rw [fault?, first, List.findSome?_cons, none]
    rfl

/-- What is handed on are the tokens before the first step that meets a fault or the end, less layout
and comments; the fault is the one of that step. -/
theorem exists_stop (scanner : Scanner) :
    ∃ count ≤ scanner.rest.length,
      (∀ earlier < count, (scanner.call earlier).cause = none ∧
        (scanner.call earlier).token.kind ≠ .endOfInput) ∧
      ((scanner.call count).cause ≠ none ∨ (scanner.call count).token.kind = .endOfInput) ∧
      scanner.tokens = ((List.range count).map fun earlier => (scanner.call earlier).token).filter
        (fun tok => !tok.kind.isInternal) ∧
      scanner.fault? = (scanner.call count).fault? := by
  induction scanner using steps.induct with
  | case1 scanner nothing =>
    have last : scanner.steps = [scanner.next.1] := by rw [steps, dif_pos nothing]
    have atEnd := next_at_end nothing
    refine ⟨0, Nat.zero_le _, ?_, ?_, ?_, ?_⟩
    · intro earlier below
      omega
    · exact .inr ((next_kind_eq_endOfInput scanner).mpr nothing)
    · simp [tokens, last, atEnd, Kind.isInternal]
    · rw [fault?, last, List.findSome?_singleton]
      rfl
  | case2 scanner more inductionHypothesis =>
    cases cause : scanner.next.1.cause with
    | some wrong =>
      obtain ⟨none, fault⟩ := tokens_of_fault more cause
      refine ⟨0, Nat.zero_le _, ?_, .inl (by simp [call, after, cause]), none, fault⟩
      intro earlier below
      omega
    | none =>
      obtain ⟨count, bound, before, stops, handed, fault⟩ := inductionHypothesis
      obtain ⟨handed', fault'⟩ := tokens_of_sound more cause
      have shorter := next_rest_length_lt scanner more
      refine ⟨count + 1, by omega, ?_, stops, ?_, fault'.trans fault⟩
      · intro earlier below
        cases earlier with
        | zero => exact ⟨cause, mt (next_kind_eq_endOfInput scanner).mp more⟩
        | succ earlier => exact before earlier (by omega)
      · rw [handed', handed, List.range_succ_eq_map, List.map_cons, List.map_map,
          ← List.filter_append]
        rfl

/-- What it means that steps cut a source into tokens without loss. -/
structure Tiling (scanner : Scanner) : Prop where
  /-- The first step starts at the front, and what is left is always the end of the source. -/
  starts : scanner.passed 0 = 0
  within : ∀ count, scanner.passed count ≤ scanner.rest.length ∧
    (scanner.after count).rest = scanner.rest.drop (scanner.passed count)
  /-- Steps before the end go strictly forward, and steps at the end stay there. -/
  forward : ∀ count, scanner.passed count < scanner.rest.length →
    scanner.passed count < scanner.passed (count + 1)
  stays : ∀ count, scanner.passed count = scanner.rest.length →
    scanner.after (count + 1) = scanner.after count ∧ (scanner.call count).cause = none
  /-- The end is reported where nothing is left, and nowhere else. -/
  ends : ∀ count, (scanner.call count).token.kind = .endOfInput ↔
    scanner.passed count = scanner.rest.length
  /-- The end comes after at most as many other steps as there are characters, and the steps up to
  there are all steps. -/
  bounded : ∃ count ≤ scanner.rest.length, (scanner.call count).token.kind = .endOfInput ∧
    (∀ earlier < count, (scanner.call earlier).token.kind ≠ .endOfInput) ∧
    scanner.steps = (List.range (count + 1)).map scanner.call
  /-- A step in which nothing is wrong shows the slice it has passed. -/
  shown : ∀ count, (scanner.call count).cause = none → (scanner.call count).token.text.toList =
    scanner.rest.extract (scanner.passed count) (scanner.passed (count + 1))
  /-- If nothing is wrong in any step, the texts put end to end are the source. -/
  whole : (∀ scanned ∈ scanner.steps, scanned.cause = none) →
    scanner.steps.flatMap (fun scanned => scanned.token.text.toList) = scanner.rest
  /-- What is handed on are the tokens before the first step that meets a fault or the end, less the
  internal ones; the fault is the one of that step. -/
  handed : ∃ count ≤ scanner.rest.length,
    (∀ earlier < count, (scanner.call earlier).cause = none ∧
      (scanner.call earlier).token.kind ≠ .endOfInput) ∧
    ((scanner.call count).cause ≠ none ∨ (scanner.call count).token.kind = .endOfInput) ∧
    scanner.tokens = ((List.range count).map fun earlier => (scanner.call earlier).token).filter
      (fun tok => !tok.kind.isInternal) ∧
    scanner.fault? = (scanner.call count).fault?

/-- Scanning loses nothing, from whatever state it starts.

Proof: each recogniser splits what is left into a piece and the rest, so the rest after any number of
steps is a suffix of the source, and lengths tell which. Progress of single steps bounds the number of
steps; the two lists of steps and of tokens handed on follow by induction along the steps. -/
theorem steps_tile (scanner : Scanner) : scanner.Tiling where
  starts := Nat.sub_self _
  within count := ⟨Nat.sub_le _ _, after_rest_eq_drop scanner count⟩
  forward := passed_lt_passed_succ scanner
  stays count all := by
    refine ⟨after_succ_of_passed scanner count all, ?_⟩
    rw [call, next_at_end ((after_rest_eq_nil scanner count).mpr all)]
  ends count := by
    rw [call, next_kind_eq_endOfInput, after_rest_eq_nil]
  bounded := exists_end scanner
  shown := call_text scanner
  whole := steps_text scanner
  handed := exists_stop scanner

end Scanner

end WinZig
