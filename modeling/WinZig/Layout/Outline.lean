/-!
# Outlines

An outline is a nested text: lines, and blocks of labelled parts between an opening and a closing
line. Parts are indented by two blanks more than their block and separated by commas.
-/

namespace WinZig.Layout

/-- A nested text. -/
inductive Outline where
  /-- Text on one line. -/
  | line (text : String)
  /-- Parts with their labels between an opening and a closing text. -/
  | block (opening : String) (parts : List (String × Outline)) (closing : String)

namespace Outline

/-- The indentation of a depth. -/
def indent (depth : Nat) : String := String.ofList (List.replicate (2 * depth) ' ')

mutual

/-- The text of an outline whose first line is already indented. -/
def render (depth : Nat) : Outline → String
  | line text => text
  | block opening parts closing =>
    opening ++ "\n" ++ renderParts (depth + 1) parts ++ indent depth ++ closing

/-- The lines of some parts. -/
def renderParts (depth : Nat) : List (String × Outline) → String
  | [] => ""
  | (label, part) :: rest =>
    let comma := if rest.isEmpty then "" else ","
    indent depth ++ label ++ render depth part ++ comma ++ "\n" ++ renderParts depth rest

end

end Outline

end WinZig.Layout
