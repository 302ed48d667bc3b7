import WinZig.Token.Scanner

/-!
# Token streams

The steps of scanning, taken one after another, exhaust a source: each step before the end leaves
strictly fewer characters. The stream handed to a parser keeps the tokens before the first fault and
drops layout and comments.
-/

namespace WinZig

namespace Piece

/-- A run leaves no more than it was given. -/
theorem run_rest_length_le (kind : Kind) (front : List Char) (continues : Char → Bool)
    (rest : List Char) : (run kind front continues rest).rest.length ≤ rest.length := by
  simpa [run] using (List.dropWhile_sublist continues).length_le

/-- Closing a comment leaves no more than it was given. -/
theorem closeComment_rest_length_le {nested : Bool} {depth : Nat} {rest inside behind : List Char}
    (closed : closeComment nested depth rest = some (inside, behind)) :
    behind.length ≤ rest.length := by
  induction rest generalizing depth inside with
  | nil =>
    cases depth with
    | zero => simp_all [closeComment]
    | succ depth => simp [closeComment] at closed
  | cons c rest inductionHypothesis =>
    cases depth with
    | zero => simp_all [closeComment]
    | succ depth =>
      rw [closeComment] at closed
      obtain ⟨⟨inner, tail⟩, found, same⟩ := Option.map_eq_some_iff.mp closed
      have behindTail : tail = behind := congrArg Prod.snd same
      have shorter := inductionHypothesis (behindTail ▸ found)
      simp only [List.length_cons]
      omega

/-- A mark leaves fewer characters than it was given. -/
theorem mark?_rest_length_lt {source chars behind : List Char} {kind : Kind}
    (found : mark? source = some (kind, chars, behind)) : behind.length < source.length := by
  unfold mark? at found
  split at found
  all_goals grind

/-- Recognising a piece leaves no more than follows its first character. -/
theorem recognise_rest_length_le (nested : Bool) (c : Char) (rest : List Char) :
    (recognise nested c rest).rest.length ≤ rest.length := by
  unfold recognise
  split
  · simpa [word] using run_rest_length_le _ _ _ _
  split
  · exact run_rest_length_le _ _ _ _
  split
  · unfold comment
    split
    · next closed => exact closeComment_rest_length_le closed
    · simp
  split
  · simp
  split
  · exact run_rest_length_le _ _ _ _
  split
  · exact run_rest_length_le _ _ _ _
  split
  · unfold quoted
    split
    · split
      all_goals
        simp only [List.length_cons]
        omega
    · simp
  split
  · have shorter := (List.dropWhile_sublist (fun c => c != '"' && c != '\n') (l := rest)).length_le
    unfold string
    split
    · next same => simp only [same, List.length_cons] at shorter; simp only; omega
    · simpa using shorter
  split
  · next found => exact Nat.le_of_lt_succ (by simpa using mark?_rest_length_lt found)
  · simp

end Piece

namespace Scanner

/-- A step before the end leaves strictly fewer characters. -/
theorem next_rest_length_lt (scanner : Scanner) (more : scanner.rest ≠ []) :
    scanner.next.2.rest.length < scanner.rest.length := by
  unfold next
  split
  · next atEnd => exact absurd atEnd more
  · next c rest same =>
    have shorter := Piece.recognise_rest_length_le scanner.nested c rest
    simp only [same, List.length_cons]
    omega

/-- All steps of scanning, up to and including the one at the end of the source. -/
def steps (scanner : Scanner) : List Scanned :=
  if _more : scanner.rest = [] then [scanner.next.1]
  else scanner.next.1 :: steps scanner.next.2
termination_by scanner.rest.length
decreasing_by exact next_rest_length_lt scanner _more

/-- The tokens a parser is given: those before the first fault, without layout and comments. -/
def tokens (scanner : Scanner) : List Token :=
  ((scanner.steps.takeWhile fun scanned => scanned.cause.isNone).map Scanned.token).filter
    fun tok => !tok.kind.isInternal

/-- The first fault, if there is one. -/
def fault? (scanner : Scanner) : Option Fault := scanner.steps.findSome? Scanned.fault?

end Scanner

end WinZig
