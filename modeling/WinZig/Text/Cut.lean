/-!
# Cutting texts

Texts are cut as lists of characters: at their front, at their end, at a separator.
-/

namespace WinZig.Text

/-- What follows a given front, if the text starts with it. -/
def after? : (front text : List Char) → Option (List Char)
  | [], text => some text
  | _ :: _, [] => none
  | expected :: front, c :: text => if expected = c then after? front text else none

/-- A text without a given front; a text that starts otherwise is left as it is. -/
def dropFront (front text : List Char) : List Char := (after? front text).getD text

/-- Whether a text starts with a given front. -/
def startsWith (front text : List Char) : Bool := (after? front text).isSome

/-- What precedes and what follows the first occurrence of a character. -/
def cutAt? (mark : Char) : List Char → Option (List Char × List Char)
  | [] => none
  | c :: rest =>
    if c = mark then some ([], rest)
    else (cutAt? mark rest).map fun (before, behind) => (c :: before, behind)

/-- Whether a text occurs in another. -/
def occursIn (part : List Char) : (text : List Char) → Bool
  | [] => part.isEmpty
  | c :: rest => startsWith part (c :: rest) || occursIn part rest

/-- A text without the characters at its end that have a property. -/
def dropEndWhile (drop : Char → Bool) (text : List Char) : List Char :=
  (text.reverse.dropWhile drop).reverse

/-- Every occurrence of a nonempty text, from left to right, replaced by another. -/
def replaceAll (part replacement text : List Char) : List Char :=
  match text with
  | [] => []
  | c :: rest =>
    match after? part (c :: rest) with
    | some behind =>
      if behind.length < (c :: rest).length then
        replacement ++ replaceAll part replacement behind
      else c :: replaceAll part replacement rest
    | none => c :: replaceAll part replacement rest
termination_by text.length
decreasing_by
  · assumption
  · simp
  · simp

end WinZig.Text
